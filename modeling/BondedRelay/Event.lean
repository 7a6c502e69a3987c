import BondedRelay.Bytes
import BondedRelay.Job.Record

namespace BondedRelay

inductive Event where
  | jobAvailable (details : JobDetails) (payload : Bytes)
  | jobCompleted (job : JobId) (executor : Address)
  | jobFailed (job : JobId) (executor : Address) (reason : String)
  | operatorSlashed (receipt : SlashReceipt)
  | operatorBonded (operator : Address) (pod : Uint 32) (amount : Amount)
  | operatorUnbonded (operator : Address) (amount : Amount)
  deriving DecidableEq, Repr

namespace Event

def ofOutcome (job : JobId) (executor : Address) : ExecutionOutcome → Event
  | .completed => .jobCompleted job executor
  | .reverted reason => .jobFailed job executor reason

def ofReceipt (r : ExecutionReceipt) : List Event :=
  (r.slash.map operatorSlashed).toList ++ [ofOutcome r.job r.executor r.outcome]

end Event

end BondedRelay
