import BondedRelay.Config.Settings
import BondedRelay.Metrics.Report

namespace BondedRelay

inductive Tally where
  | jobsSeen (chain : String)
  | executions (chain outcome : String)
  | rejections (chain code : String)
  | dispatchRetries (chain : String)
  | slashes (chain : String)
  deriving DecidableEq, Repr

structure Metrics where
  process : String
  port : Option (Uint 16)
  registry : Registry
  deriving DecidableEq, Repr

namespace Tally

def jobsSeenFamily : CounterFamily :=
  ⟨CounterFamily.prefixed "jobs_seen_total", "Jobs announced by the coordinator",
    ["chain", "process"]⟩

def executionsFamily : CounterFamily :=
  ⟨CounterFamily.prefixed "executions_total",
    "Job executions attempted, by outcome (completed/failed)", ["chain", "outcome", "process"]⟩

def rejectionsFamily : CounterFamily :=
  ⟨CounterFamily.prefixed "rejections_total",
    "Coordinator rejections of this process's calls, by error code", ["chain", "code", "process"]⟩

def dispatchRetriesFamily : CounterFamily :=
  ⟨CounterFamily.prefixed "dispatch_retries_total",
    "Dispatch submissions retried after a transient failure", ["chain", "process"]⟩

def slashesFamily : CounterFamily :=
  ⟨CounterFamily.prefixed "slashes_total", "Slashes triggered by this process's executions",
    ["chain", "process"]⟩

def families : List CounterFamily :=
  [jobsSeenFamily, executionsFamily, rejectionsFamily, dispatchRetriesFamily, slashesFamily]

def series (process : String) : Tally → Series
  | .jobsSeen chain => ⟨jobsSeenFamily.name, [chain, process]⟩
  | .executions chain outcome => ⟨executionsFamily.name, [chain, outcome, process]⟩
  | .rejections chain code => ⟨rejectionsFamily.name, [chain, code, process]⟩
  | .dispatchRetries chain => ⟨dispatchRetriesFamily.name, [chain, process]⟩
  | .slashes chain => ⟨slashesFamily.name, [chain, process]⟩

theorem series_injective (process : String) {a b : Tally}
    (h : a.series process = b.series process) : a = b := by
  cases a <;> cases b <;> simp_all [series, jobsSeenFamily, executionsFamily, rejectionsFamily,
    dispatchRetriesFamily, slashesFamily, CounterFamily.prefixed]

end Tally

namespace Metrics

def create (process : String) (port : Option (Uint 16)) : Metrics :=
  ⟨process, port, ⟨Tally.families, .empty⟩⟩

def value (m : Metrics) (t : Tally) : Uint 64 := m.registry.value (t.series m.process)

def add (m : Metrics) (t : Tally) (amount : Uint 64) : Metrics :=
  { m with registry := m.registry.add (t.series m.process) amount }

def count (m : Metrics) (t : Tally) : Metrics := m.add t 1

def newCounter (m : Metrics) (name help : String) (labels : List String) :
    Except CounterFamily.Fault Metrics :=
  match CounterFamily.create name help labels with
  | .error e => .error e
  | .ok f =>
      match m.registry.register f with
      | .error e => .error e
      | .ok registry => .ok { m with registry }

def addCustom (m : Metrics) (name : String) (values : List String) (amount : Uint 64) : Metrics :=
  { m with registry := m.registry.add ⟨CounterFamily.prefixed name, values⟩ amount }

def customValue (m : Metrics) (name : String) (values : List String) : Uint 64 :=
  m.registry.value ⟨CounterFamily.prefixed name, values⟩

def listenPort (m : Metrics) (env : Environment) : Uint 16 :=
  match env.port? "METRICS_PORT" with
  | some port => port
  | none => m.port.getD 9090

theorem value_add (m : Metrics) (s t : Tally) (n : Uint 64) :
    (m.add s n).value t = if s = t then (m.value s).wrapAdd n else m.value t := by
  simp only [value, add, Registry.value_add]
  by_cases h : s = t
  · simp [h]
  · have : s.series m.process ≠ t.series m.process := fun c => h (Tally.series_injective _ c)
    simp [h, this]

end Metrics

end BondedRelay
