import BondedRelay.Metrics.Family
import BondedRelay.Table
import BondedRelay.Uint

namespace BondedRelay

structure Series where
  family : String
  values : List String
  deriving DecidableEq, Repr

structure Registry where
  families : List CounterFamily
  samples : Table Series (Uint 64)
  deriving DecidableEq, Repr

namespace Registry

def empty : Registry := ⟨[], .empty⟩

def reserved : List String := [CounterFamily.prefixed "span_duration_sec"]

def taken (r : Registry) (name : String) : Bool :=
  reserved.contains name || r.families.any fun f => f.name = name

def register (r : Registry) (f : CounterFamily) : Except CounterFamily.Fault Registry :=
  if r.taken f.name then .error .nameTaken else .ok { r with families := f :: r.families }

def registerAll (r : Registry) : List CounterFamily → Except CounterFamily.Fault Registry
  | [] => .ok r
  | f :: rest =>
      match r.register f with
      | .error e => .error e
      | .ok r => r.registerAll rest

def value (r : Registry) (s : Series) : Uint 64 := r.samples.getD s 0

def add (r : Registry) (s : Series) (amount : Uint 64) : Registry :=
  { r with samples := r.samples.set s ((r.value s).wrapAdd amount) }

theorem value_add (r : Registry) (s t : Series) (n : Uint 64) :
    (r.add s n).value t = if s = t then (r.value s).wrapAdd n else r.value t := by
  simp only [value, add, Table.getD, Table.find?_set]
  split <;> rfl

end Registry

end BondedRelay
