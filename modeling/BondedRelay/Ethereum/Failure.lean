import BondedRelay.Dispatch.ChainError
import BondedRelay.Text.Lower

namespace BondedRelay

inductive Refusal where
  | feeTooLow
  | nonceUsed
  | outOfGas
  deriving DecidableEq, Repr

namespace Refusal

def feeTooLowFragments : List String :=
  ["fee too low", "underpriced", "max fee per gas less than block base fee"]

def nonceUsedFragments : List String :=
  ["nonce too low", "already known", "nonce has already been used"]

def outOfGasFragments : List String :=
  ["out of gas", "gas required exceeds allowance", "intrinsic gas too low"]

def mentions (fragments : List String) (text : List Char) : Bool :=
  fragments.any fun f => Text.occursIn f.toList text

def ofText? (text : String) : Option Refusal :=
  let text := Text.lowerCase text
  if mentions feeTooLowFragments text then some .feeTooLow
  else if mentions nonceUsedFragments text then some .nonceUsed
  else if mentions outOfGasFragments text then some .outOfGas
  else none

end Refusal

inductive NodeFailure where
  | provider (text : String)
  | middleware (text : String)
  | dropped (txid : Hash)
  | notExecuted (txid : Hash)
  deriving DecidableEq, Repr

namespace NodeFailure

def message : NodeFailure → String
  | .provider text => text
  | .middleware text => text
  | .dropped txid => "Transaction dropped from mempool " ++ Hex.ofUint txid
  | .notExecuted txid => "Transaction was not executed successfully " ++ Hex.ofUint txid

def ofText (text : String) : ChainError :=
  match Refusal.ofText? text with
  | some .feeTooLow => .feeTooLow text
  | some .nonceUsed => .nonceUsed text
  | _ => .custom text

def chainError : NodeFailure → ChainError
  | .notExecuted txid => .notExecuted txid
  | f => ofText f.message

end NodeFailure

end BondedRelay
