import BondedRelay.Job.Payload

namespace BondedRelay

structure Invocation where
  payload : Payload
  executor : Address
  gasLimit : Uint 64
  deriving DecidableEq, Repr

class JobEffect (ε : Type) where
  apply : ε → Invocation → Option String × ε

structure RecordingEffect where
  reverting : List Address
  applied : List (JobId × Address)
  deriving DecidableEq, Repr

namespace RecordingEffect

def create (reverting : List Address) : RecordingEffect := ⟨reverting, []⟩

def reason? (e : RecordingEffect) (i : Invocation) : Option String :=
  if i.payload.target ∈ e.reverting then
    some ("target " ++ Hex.ofUint i.payload.target ++ " reverted")
  else none

instance : JobEffect RecordingEffect where
  apply e i :=
    match e.reason? i with
    | some reason => (some reason, e)
    | none => (none, { e with applied := e.applied ++ [(i.payload.jobId, i.executor)] })

theorem apply_fst (e : RecordingEffect) (i : Invocation) :
    (JobEffect.apply e i).1 = e.reason? i := by
  simp only [JobEffect.apply]
  split <;> simp_all

theorem reverting_apply (e : RecordingEffect) (i : Invocation) :
    (JobEffect.apply e i).2.reverting = e.reverting := by
  simp only [JobEffect.apply]
  split <;> rfl

end RecordingEffect

end BondedRelay
