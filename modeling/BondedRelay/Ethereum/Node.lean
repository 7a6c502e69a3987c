import BondedRelay.Dispatch.Client

namespace BondedRelay

structure Transaction where
  sender : Address
  target : Address
  data : Bytes
  gas : Option Amount
  gasPrice : Option Amount
  value : Option Amount
  nonce : Option Amount
  deriving DecidableEq, Repr

class EthereumNode (ν : Type) where
  estimateGas : ν → Transaction → Except String Amount × ν
  gasPrice : ν → Except String Amount × ν
  transactionCount : ν → Address → Except String Amount × ν
  sendTransaction : ν → Transaction → Except String Hash × ν
  receipt : ν → Hash → Except String (Option TxReceipt) × ν

end BondedRelay
