import BondedRelay.Event
import BondedRelay.Feed
import BondedRelay.Job.Assignment
import BondedRelay.Job.Execution

namespace BondedRelay

structure Coordinator (τ ε : Type) where
  chainId : Uint 32
  config : Protocol
  place : Workplace τ ε
  clock : Clock
  owners : Table Address Address
  trusted : List (Uint 32 × Address)
  feed : Feed Event
  deriving DecidableEq, Repr

namespace Coordinator

variable {τ ε : Type}

def feedCapacity : Nat := 1024

def create (chainId : Uint 32) (config : Protocol) (ledger : Address) (token : τ) (clock : Clock)
    (effect : ε) (owners : Table Address Address) : Coordinator τ ε where
  chainId := chainId
  config := config
  place := ⟨.empty, .create ledger token (.ofProtocol config), effect, []⟩
  clock := clock
  owners := owners
  trusted := []
  feed := .create feedCapacity

def jobs (c : Coordinator τ ε) : JobStore := c.place.jobs

def ledger (c : Coordinator τ ε) : Ledger τ := c.place.ledger

def pods (c : Coordinator τ ε) : PodRegistry := c.ledger.pods

def token (c : Coordinator τ ε) : τ := c.ledger.token

def setJobs (c : Coordinator τ ε) (jobs : JobStore) : Coordinator τ ε :=
  { c with place := { c.place with jobs } }

def setLedger (c : Coordinator τ ε) (ledger : Ledger τ) : Coordinator τ ε :=
  { c with place := { c.place with ledger } }

def setToken (c : Coordinator τ ε) (token : τ) : Coordinator τ ε :=
  c.setLedger { c.ledger with token }

def announce (c : Coordinator τ ε) (events : List Event) : Coordinator τ ε :=
  { c with feed := c.feed.sendAll events }

def registerSource (c : Coordinator τ ε) (chain : Uint 32) (sender : Address) : Coordinator τ ε :=
  { c with trusted := (chain, sender) :: c.trusted }

def isTrusted (c : Coordinator τ ε) (chain : Uint 32) (sender : Address) : Bool :=
  c.trusted.contains (chain, sender)

def deliver (c : Coordinator τ ε) (payload : Payload) (chain : Uint 32) (sender : Address) :
    Except Rejection JobDetails × Coordinator τ ε :=
  if !c.isTrusted chain sender then (.error (.untrustedSource chain sender), c)
  else if payload.sourceChain ≠ chain then
    (.error (.sourceChainMismatch payload.sourceChain chain), c)
  else
    let r := Assignment.assign c.config c.pods c.clock payload
    match c.jobs.insert r with
    | .error e => (.error e, c)
    | .ok jobs =>
        let details := JobDetails.ofRecord r c.config.windowDuration
        (.ok details, (c.setJobs jobs).announce [.jobAvailable details payload.toBytes])

def deliverBytes (c : Coordinator τ ε) (payload : Bytes) (chain : Uint 32) (sender : Address) :
    Except Rejection JobDetails × Coordinator τ ε :=
  match Payload.ofBytes payload with
  | .error e => (.error (.payload e), c)
  | .ok payload => c.deliver payload chain sender

def jobDetails? (c : Coordinator τ ε) (id : JobId) : Option JobDetails :=
  (c.jobs.get? id).map fun r => JobDetails.ofRecord r c.config.windowDuration

def check (c : Coordinator τ ε) (caller : Address) (id : JobId) (params : ExecutionParams) :
    Except Rejection WindowPhase :=
  match c.jobs.pending id with
  | .error e => .error e
  | .ok r => Execution.check c.config c.ledger r caller c.clock.timestamp params

variable [UtilityToken τ] [JobEffect ε]

def execute (c : Coordinator τ ε) (caller : Address) (payload : Payload)
    (params : ExecutionParams) : Except Rejection ExecutionReceipt × Coordinator τ ε :=
  match Execution.execute c.config c.place caller payload c.clock.timestamp params with
  | (.error e, place) => (.error e, { c with place })
  | (.ok receipt, place) =>
      (.ok receipt, { c with place }.announce (Event.ofReceipt receipt))

def executeBytes (c : Coordinator τ ε) (caller : Address) (payload : Bytes)
    (params : ExecutionParams) : Except Rejection ExecutionReceipt × Coordinator τ ε :=
  match Payload.ofBytes payload with
  | .error e => (.error (.payload e), c)
  | .ok payload => c.execute caller payload params

def kindOf (c : Coordinator τ ε) (operator : Address) : OperatorKind :=
  match c.owners.find? operator with
  | some owner => .delegated owner
  | none => .account

def bond (c : Coordinator τ ε) (caller operator : Address) (amount : Amount) (pod : Uint 32) :
    Except Rejection Unit × Coordinator τ ε :=
  match c.ledger.bond caller operator amount pod (c.kindOf operator) with
  | (.error e, ledger) => (.error e, c.setLedger ledger)
  | (.ok record, ledger) =>
      (.ok (), (c.setLedger ledger).announce [.operatorBonded operator record.pod record.amount])

def topUp (c : Coordinator τ ε) (caller operator : Address) (amount : Amount) :
    Except Rejection Unit × Coordinator τ ε :=
  match c.ledger.topUp caller operator amount with
  | (.error e, ledger) => (.error e, c.setLedger ledger)
  | (.ok _, ledger) => (.ok (), c.setLedger ledger)

def unbond (c : Coordinator τ ε) (caller operator recipient : Address) :
    Except Rejection Amount × Coordinator τ ε :=
  match c.ledger.unbond caller operator recipient with
  | (.error e, ledger) => (.error e, c.setLedger ledger)
  | (.ok amount, ledger) =>
      (.ok amount, (c.setLedger ledger).announce [.operatorUnbonded operator amount])

end Coordinator

end BondedRelay
