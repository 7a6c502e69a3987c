import BondedRelay.Config.Operator
import BondedRelay.Metrics.Process
import BondedRelay.Operator.Desk

namespace BondedRelay

structure KnownJob where
  details : JobDetails
  payload : Bytes
  deriving DecidableEq, Repr

structure Operator where
  config : OperatorConfig
  chain : Uint 32
  seen : Nat
  known : Table JobId KnownJob
  metrics : Metrics
  deriving DecidableEq, Repr

inductive Flow where
  | advance
  | rest
  deriving DecidableEq, Repr

structure FeedEnded where
  deriving DecidableEq, Repr

def FeedEnded.message : String := "Coordinator event stream closed"

namespace Operator

def subscribe (config : OperatorConfig) (chain : Uint 32) (feed : Feed Event) (metrics : Metrics) :
    Operator :=
  ⟨config, chain, feed.position, .empty, metrics⟩

def tracked (o : Operator) : Nat := o.known.size

def chainName (o : Operator) : String := toString o.chain.toNat

def display (o : Operator) : String :=
  "Operator: \x7b operator: " ++ Hex.ofUint o.config.operator ++ ", chain: " ++ o.chainName ++
    ", pods: " ++ o.config.podsText ++ " \x7d"

def count (o : Operator) (t : Tally) : Operator := { o with metrics := o.metrics.count t }

def forget (o : Operator) (id : JobId) : Operator := { o with known := o.known.erase id }

def observe (o : Operator) : Event → Operator
  | .jobAvailable details payload =>
      let o := o.count (.jobsSeen o.chainName)
      if o.config.wantsPod details.pod then
        { o with known := o.known.set details.id ⟨details, payload⟩ }
      else o
  | .jobCompleted job _ => o.forget job
  | .jobFailed job _ _ => o.forget job
  | .operatorSlashed _ => o
  | .operatorBonded .. => o
  | .operatorUnbonded .. => o

def drain (o : Operator) (feed : Feed Event) : Operator :=
  { (feed.unread o.seen).items.foldl observe o with seen := feed.position }

def executesIn (o : Operator) (phase : WindowPhase) : Bool :=
  !phase.isEscalated || o.config.executeAsFallback

def settles (now : Uint 64) (job : KnownJob) : RetryHint → Bool
  | .never => true
  | .later => false
  | .differentCaller => job.details.windowsLapsed now

def rejected (o : Operator) (now : Uint 64) (job : KnownJob) (r : Rejection) : Flow × Operator :=
  (if settles now job r.hint then .advance else .rest,
    o.count (.rejections o.chainName r.code))

def outcomeLabel : ExecutionOutcome → String
  | .completed => "completed"
  | .reverted _ => "failed"

def executed (o : Operator) (receipt : ExecutionReceipt) : Operator :=
  let o := o.count (.executions o.chainName (outcomeLabel receipt.outcome))
  match receipt.slash with
  | some _ => o.count (.slashes o.chainName)
  | none => o

variable {κ : Type} [JobDesk κ]

def attempt (desk : κ) (o : Operator) (id : JobId) (job : KnownJob) : Flow × κ × Operator :=
  let params : ExecutionParams := ⟨job.details.gasLimit, job.details.gasPrice⟩
  match JobDesk.check desk o.config.operator id params with
  | (.error r, desk) =>
      let (flow, o) := o.rejected (JobDesk.timestamp desk) job r
      (flow, desk, o)
  | (.ok phase, desk) =>
      if o.executesIn phase then
        match JobDesk.execute desk o.config.operator job.payload params with
        | (.error r, desk) =>
            let (flow, o) := o.rejected (JobDesk.timestamp desk) job r
            (flow, desk, o)
        | (.ok receipt, desk) => (.advance, desk, o.executed receipt)
      else (.rest, desk, o)

def attemptAll (desk : κ) (o : Operator) : List (JobId × KnownJob) → Flow × κ × Operator
  | [] => (.rest, desk, o)
  | (id, job) :: more =>
      match attempt desk o id job with
      | (.rest, desk, o) => attemptAll desk o more
      | (.advance, desk, o) =>
          let (_, desk, o) := attemptAll desk (o.forget id) more
          (.advance, desk, o)

def tick (desk : κ) (o : Operator) : Except FeedEnded Flow × κ × Operator :=
  let o := o.drain (JobDesk.feed desk)
  if (JobDesk.feed desk).closed then (.error ⟨⟩, desk, o)
  else
    let (flow, desk, o) := attemptAll desk o o.known.entries
    (.ok flow, desk, o)

def settle : Nat → κ → Operator → Except FeedEnded Unit × κ × Operator
  | 0, desk, o => (.ok (), desk, o)
  | fuel + 1, desk, o =>
      match tick desk o with
      | (.error e, desk, o) => (.error e, desk, o)
      | (.ok .rest, desk, o) => (.ok (), desk, o)
      | (.ok .advance, desk, o) => settle fuel desk o

def enoughTicks (desk : κ) (o : Operator) : Nat :=
  o.tracked + ((JobDesk.feed desk).unread o.seen).items.length + 1

def rounds : Nat → κ → Operator → Except FeedEnded Unit × κ × Operator
  | 0, desk, o => (.ok (), desk, o)
  | n + 1, desk, o =>
      match settle (enoughTicks desk o) desk o with
      | (.error e, desk, o) => (.error e, desk, o)
      | (.ok _, desk, o) => rounds n desk o

def roundsBefore (o : Operator) (seconds : Nat) : Nat :=
  (seconds + o.config.interval.toNat - 1) / o.config.interval.toNat

end Operator

end BondedRelay
