import BondedRelay.Job.Record
import BondedRelay.Pod.Registry

namespace BondedRelay

inductive WindowPhase where
  | unassigned
  | primary
  | fallback (k : Nat)
  | exhausted
  deriving DecidableEq, Repr

namespace WindowPhase

def at_ (r : JobRecord) (now windowDuration : Uint 64) : WindowPhase :=
  if r.isOpen then .unassigned
  else
    let k := (now.toNat - r.assignedAt.toNat) / max windowDuration.toNat 1
    if k = 0 then .primary
    else if k ≤ r.fallbacks.length then .fallback k
    else .exhausted

def isEscalated : WindowPhase → Bool
  | .unassigned => false
  | .primary => false
  | .fallback _ => true
  | .exhausted => true

end WindowPhase

namespace Window

def fallbackOperator (pods : PodRegistry) (r : JobRecord) (k : Nat) : Option Address :=
  if k = 0 then none
  else
    match r.fallbacks[k - 1]? with
    | some place => pods.memberAt r.pod place.toNat
    | none => none

def authorize (config : Protocol) (pods : PodRegistry) (isBonded : Address → Bool)
    (r : JobRecord) (caller : Address) (now : Uint 64) : Except Rejection WindowPhase :=
  let phase := WindowPhase.at_ r now config.windowDuration
  match phase with
  | .unassigned => .ok phase
  | .primary =>
      if caller = r.primary then .ok phase else .error (.operatorHasTime r.id r.primary)
  | .fallback k =>
      match fallbackOperator pods r k with
      | none => .ok phase
      | some expected =>
          if expected = caller then .ok phase else .error (.invalidFallback r.id k expected)
  | .exhausted =>
      match config.afterFallbacks with
      | .stalled => .error (.fallbacksExhausted r.id)
      | .anyBonded => if isBonded caller then .ok phase else .error (.notBonded caller)

end Window

end BondedRelay
