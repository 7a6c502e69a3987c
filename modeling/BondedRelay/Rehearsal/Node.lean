import BondedRelay.Ethereum.Client

namespace BondedRelay

inductive NodeCall where
  | estimateGas (tx : Transaction)
  | gasPrice
  | transactionCount (account : Address)
  | sendTransaction (tx : Transaction)
  deriving DecidableEq, Repr

structure ScriptedNode where
  gas : Except String Amount
  price : Except String Amount
  count : Except String Amount
  txid : Except String Hash
  mined : Option TxReceipt
  calls : List NodeCall

namespace ScriptedNode

def note (n : ScriptedNode) (call : NodeCall) : ScriptedNode := { n with calls := call :: n.calls }

instance : EthereumNode ScriptedNode where
  estimateGas n tx := (n.gas, n.note (.estimateGas tx))
  gasPrice n := (n.price, n.note .gasPrice)
  transactionCount n account := (n.count, n.note (.transactionCount account))
  sendTransaction n tx := (n.txid, n.note (.sendTransaction tx))
  receipt n _ := (.ok n.mined, n)

end ScriptedNode

end BondedRelay
