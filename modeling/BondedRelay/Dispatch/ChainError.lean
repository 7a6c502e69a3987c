import BondedRelay.Hex

namespace BondedRelay

inductive ChainError where
  | provider (text : String)
  | feeTooLow (text : String)
  | nonceUsed (text : String)
  | simulationReverted (text : String)
  | notExecuted (txid : Hash)
  | custom (text : String)
  deriving DecidableEq, Repr

namespace ChainError

def message : ChainError → String
  | .provider text => text
  | .feeTooLow text => "Fee too low: " ++ text
  | .nonceUsed text => "Nonce already used: " ++ text
  | .simulationReverted text => "Simulation reverted: " ++ text
  | .notExecuted txid => "Transaction was not executed successfully " ++ Hex.ofUint txid
  | .custom text => text

def isTransient : ChainError → Bool
  | .feeTooLow _ => true
  | .nonceUsed _ => true
  | _ => false

end ChainError

end BondedRelay
