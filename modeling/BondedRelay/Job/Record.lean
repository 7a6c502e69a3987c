import BondedRelay.Bond.Record
import BondedRelay.Uint

namespace BondedRelay

inductive JobStatus where
  | pending
  | completed
  | failedTerminal (reason : String)
  deriving DecidableEq, Repr

def JobStatus.isFinal : JobStatus → Bool
  | .pending => false
  | .completed => true
  | .failedTerminal _ => true

structure JobRecord where
  id : JobId
  sourceChain : Uint 32
  pod : Uint 32
  primary : Address
  assignedBlock : Uint 64
  assignedAt : Uint 64
  fallbacks : List (Uint 32)
  gasLimit : Uint 64
  gasPrice : Amount
  status : JobStatus
  deriving DecidableEq, Repr

def JobRecord.isOpen (r : JobRecord) : Bool := r.primary = 0

structure JobDetails where
  id : JobId
  pod : Uint 32
  primary : Address
  startTime : Uint 64
  windowDuration : Uint 64
  fallbacks : List (Uint 32)
  gasLimit : Uint 64
  gasPrice : Amount
  status : JobStatus
  deriving DecidableEq, Repr

namespace JobDetails

def ofRecord (r : JobRecord) (windowDuration : Uint 64) : JobDetails where
  id := r.id
  pod := r.pod
  primary := r.primary
  startTime := r.assignedAt
  windowDuration := windowDuration
  fallbacks := r.fallbacks
  gasLimit := r.gasLimit
  gasPrice := r.gasPrice
  status := r.status

def fallbackWindowStart (d : JobDetails) (k : Nat) : Uint 64 :=
  d.startTime.satAdd (.clamp (d.windowDuration.toNat * k))

def windowsLapsed (d : JobDetails) (now : Uint 64) : Bool :=
  d.primary ≠ 0 && d.fallbackWindowStart (d.fallbacks.length + 1) ≤ now

end JobDetails

structure ExecutionParams where
  gasLeft : Uint 64
  gasPrice : Amount
  deriving DecidableEq, Repr

inductive ExecutionOutcome where
  | completed
  | reverted (reason : String)
  deriving DecidableEq, Repr

def ExecutionOutcome.status : ExecutionOutcome → JobStatus
  | .completed => .completed
  | .reverted reason => .failedTerminal reason

structure ExecutionReceipt where
  job : JobId
  executor : Address
  outcome : ExecutionOutcome
  slash : Option SlashReceipt
  deriving DecidableEq, Repr

end BondedRelay
