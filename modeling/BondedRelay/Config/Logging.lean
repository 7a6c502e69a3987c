namespace BondedRelay

inductive LogStyle where
  | pretty
  | json
  | compact
  | full
  deriving DecidableEq, Repr

inductive LogLevel where
  | off
  | error
  | warn
  | debug
  | trace
  | info
  deriving DecidableEq, Repr

structure LogConfig where
  style : LogStyle
  level : LogLevel
  deriving DecidableEq, Repr

namespace LogStyle

def name : LogStyle → String
  | .pretty => "pretty"
  | .json => "json"
  | .compact => "compact"
  | .full => "full"

def ofName (s : String) : LogStyle :=
  if s = "pretty" then .pretty
  else if s = "json" then .json
  else if s = "compact" then .compact
  else .full

theorem ofName_name (s : LogStyle) : ofName s.name = s := by cases s <;> decide

end LogStyle

namespace LogLevel

def name : LogLevel → String
  | .off => "off"
  | .error => "error"
  | .warn => "warn"
  | .debug => "debug"
  | .trace => "trace"
  | .info => "info"

def ofName (s : String) : LogLevel :=
  if s = "off" then .off
  else if s = "error" then .error
  else if s = "warn" then .warn
  else if s = "debug" then .debug
  else if s = "trace" then .trace
  else .info

theorem ofName_name (l : LogLevel) : ofName l.name = l := by cases l <;> decide

end LogLevel

def LogConfig.standard : LogConfig := ⟨.pretty, .info⟩

end BondedRelay
