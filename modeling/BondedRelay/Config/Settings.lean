import BondedRelay.Config.Configuration
import BondedRelay.Numeral
import BondedRelay.Text.Upper

namespace BondedRelay

abbrev Environment := List (String × String)

namespace Environment

def get? (env : Environment) (name : String) : Option String := env.lookup name

def port? (env : Environment) (name : String) : Option (Uint 16) :=
  match env.get? name with
  | some s => (Numeral.signed? Numeral.decimal? s.toList).bind Uint.ofNat?
  | none => none

def floorVariable (chain : String) : String := Text.upperCase chain ++ "_MIN_GAS_PRICE"

def floor? (env : Environment) (chain : String) : Option Amount :=
  match env.get? (floorVariable chain) with
  | some s => Numeral.amount? s
  | none => (env.get? "DEFAULT_MIN_GAS_PRICE").bind Numeral.amount?

end Environment

namespace Configuration

def overrideFloor (env : Environment) (chain : String) (g : GasConfig) : GasConfig :=
  match env.floor? chain with
  | some floor => { g with minGasPrice := some floor }
  | none => g

theorem map_fst_map_snd {α β : Type} (f : α → β → β) (l : List (α × β)) :
    (l.map fun e => (e.1, f e.1 e.2)).map Prod.fst = l.map Prod.fst := by
  simp

def override (c : Configuration) (env : Environment) : Configuration :=
  { c with
    gas := ⟨c.gas.entries.map fun e => (e.1, overrideFloor env e.1 e.2), by
      rw [map_fst_map_snd]
      exact c.gas.nodup⟩ }

end Configuration

structure Settings where
  config : Configuration
  deriving DecidableEq, Repr

namespace Settings

inductive Failure where
  | unknownBuiltin (name : String)
  | invalid (fault : Configuration.Fault)
  deriving DecidableEq, Repr

def Failure.message : Failure → String
  | .unknownBuiltin name => Configuration.unknownBuiltinMessage name
  | .invalid fault => "Invalid config: " ++ fault.message

def ofConfiguration (env : Environment) (c : Configuration) : Except Failure Settings :=
  let c := c.override env
  let c := match env.port? "METRICS_PORT" with
    | some port => { c with metrics := some port }
    | none => c
  match c.fault? with
  | some fault => .error (.invalid fault)
  | none => .ok ⟨c⟩

def builtinName (env : Environment) : String := (env.get? "RUN_ENV").getD "development"

def ofEnvironment (env : Environment) : Except Failure Settings :=
  match Configuration.builtin? (builtinName env) with
  | some c => ofConfiguration env c
  | none => .error (.unknownBuiltin (builtinName env))

def gasOf (s : Settings) (chain : String) : GasConfig := s.config.gasOf chain

def operator (s : Settings) : Except String OperatorConfig :=
  match s.config.operator with
  | some o => .ok o
  | none => .error ("No operator configured for environment " ++ s.config.environment)

end Settings

end BondedRelay
