import BondedRelay.Operator.Process

namespace BondedRelay

inductive DeskCall where
  | check (job : JobId) (caller : Address) (params : ExecutionParams)
  | execute (job : JobId) (caller : Address) (params : ExecutionParams)
  deriving DecidableEq, Repr

structure ScriptedEnd where
  outcome : ExecutionOutcome
  slash : Option SlashReceipt
  deriving DecidableEq, Repr

structure ScriptedDesk where
  feed : Feed Event
  timestamp : Uint 64
  checks : Table JobId (Except Rejection WindowPhase)
  executions : Table JobId (Except Rejection ScriptedEnd)
  calls : List DeskCall

namespace ScriptedDesk

def create (capacity : Nat) : ScriptedDesk := ⟨.create capacity, 0, .empty, .empty, []⟩

def send (d : ScriptedDesk) (times : Nat) (event : Event) : ScriptedDesk :=
  { d with feed := d.feed.sendAll (List.replicate times event) }

def close (d : ScriptedDesk) : ScriptedDesk := { d with feed := d.feed.close }

def check (d : ScriptedDesk) (caller : Address) (id : JobId) (params : ExecutionParams) :
    Except Rejection WindowPhase × ScriptedDesk :=
  (d.checks.getD id (.ok .primary), { d with calls := .check id caller params :: d.calls })

def execute (d : ScriptedDesk) (caller : Address) (payload : Bytes) (params : ExecutionParams) :
    Except Rejection ExecutionReceipt × ScriptedDesk :=
  match Payload.ofBytes payload with
  | .error e => (.error (.payload e), d)
  | .ok payload =>
      let id := payload.jobId
      let answer := d.executions.getD id (.ok ⟨.completed, none⟩)
      (answer.map fun e => ⟨id, caller, e.outcome, e.slash⟩,
        { d with calls := .execute id caller params :: d.calls })

instance : JobDesk ScriptedDesk where
  feed := feed
  timestamp := timestamp
  check := check
  execute := execute

def run (d : ScriptedDesk) (o : Operator) (seconds : Nat) :
    Except FeedEnded Unit × ScriptedDesk × Operator :=
  match Operator.rounds (o.roundsBefore seconds) d o with
  | (.error e, d, o) => (.error e, d, o)
  | (.ok _, d, o) => Operator.rounds 1 d.close o

end ScriptedDesk

end BondedRelay
