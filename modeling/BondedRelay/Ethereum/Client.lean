import BondedRelay.Abi
import BondedRelay.Ethereum.Failure
import BondedRelay.Ethereum.Node

namespace BondedRelay

structure EthereumDestination (ν : Type) where
  name : String
  node : ν
  executor : Address
  deriving DecidableEq, Repr

structure EthereumSubmitter (ν : Type) where
  node : ν
  sender : Address
  dispatcher : Address
  deriving DecidableEq, Repr

namespace EthereumDestination

variable {ν : Type}

def simulated (d : EthereumDestination ν) (payload : Payload) (allowance : Uint 64) :
    Transaction where
  sender := d.executor
  target := payload.target
  data := payload.data
  gas := some (.wrap allowance.toNat)
  gasPrice := some payload.gasPrice
  value := none
  nonce := none

def gasLeft (allowance : Uint 64) : Except String Amount → Except ChainError (Uint 64)
  | .ok used => .ok (.wrap (allowance.toNat - used.toNat))
  | .error text =>
      match Refusal.ofText? text with
      | some .outOfGas => .ok 0
      | _ => .error (.simulationReverted text)

instance [EthereumNode ν] : DestinationClient (EthereumDestination ν) where
  chainName d := d.name
  gasPrice d :=
    let (answer, node) := EthereumNode.gasPrice d.node
    (answer.mapError NodeFailure.ofText, { d with node })
  simulate d payload allowance :=
    let (answer, node) := EthereumNode.estimateGas d.node (d.simulated payload allowance)
    (gasLeft allowance answer, { d with node })

end EthereumDestination

namespace EthereumSubmitter

variable {ν : Type}

def signature : String := "dispatch(uint32,bytes)"

def selector : Bytes := [0x72, 0x49, 0x60, 0x9f]

theorem selector_eq : selector = (Keccak.digestBytes (Bytes.ofText signature)).take 4 := by
  decide +kernel

def calldata (request : DispatchRequest) : Bytes :=
  selector ++
    Abi.encode [.word (.wrap request.destination.toNat), .bytes request.payload.toBytes]

def drafted (s : EthereumSubmitter ν) (request : DispatchRequest) : Transaction where
  sender := s.sender
  target := s.dispatcher
  data := calldata request
  gas := none
  gasPrice := some request.txGasPrice
  value := some request.fee
  nonce := some request.nonce

variable [EthereumNode ν]

def send (node : ν) (tx : Transaction) : Except String Hash × ν :=
  match EthereumNode.estimateGas node tx with
  | (.error e, node) => (.error e, node)
  | (.ok gas, node) => EthereumNode.sendTransaction node { tx with gas := some gas }

def submit (s : EthereumSubmitter ν) (request : DispatchRequest) :
    Except ChainError Hash × EthereumSubmitter ν :=
  match send s.node (s.drafted request) with
  | (.error e, node) => (.error (NodeFailure.middleware e).chainError, { s with node })
  | (.ok txid, node) =>
      match EthereumNode.receipt node txid with
      | (.error e, node) => (.error (NodeFailure.provider e).chainError, { s with node })
      | (.ok none, node) => (.error (.custom (NodeFailure.dropped txid).message), { s with node })
      | (.ok (some receipt), node) => (receipt.outcome, { s with node })

instance : TxSubmitter (EthereumSubmitter ν) where
  gasPrice s :=
    let (answer, node) := EthereumNode.gasPrice s.node
    (answer.mapError NodeFailure.ofText, { s with node })
  nextNonce s :=
    let (answer, node) := EthereumNode.transactionCount s.node s.sender
    (answer.mapError NodeFailure.ofText, { s with node })
  submit := submit

end EthereumSubmitter

end BondedRelay
