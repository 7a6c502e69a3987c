import BondedRelay.Job.Payload
import BondedRelay.Token.Basic

namespace BondedRelay

inductive Rejection where
  | invalidJob (job : JobId)
  | duplicateJob (job : JobId)
  | operatorHasTime (job : JobId) (primary : Address)
  | invalidFallback (job : JobId) (window : Nat) (expected : Address)
  | fallbacksExhausted (job : JobId)
  | gasSpike (allowed offered : Amount)
  | notEnoughGas (required provided : Uint 64)
  | bondBelowMinimum (required offered : Amount)
  | operatorIsBonded (operator : Address)
  | notBonded (operator : Address)
  | notOwner (operator caller : Address)
  | podDoesNotExist (pod : Uint 32)
  | invalidBeneficiary (beneficiary : Address)
  | untrustedSource (chain : Uint 32) (sender : Address)
  | sourceChainMismatch (claimed delivered : Uint 32)
  | payload (error : PayloadError)
  | token (error : TokenError)
  deriving DecidableEq, Repr

inductive RetryHint where
  | later
  | never
  | differentCaller
  deriving DecidableEq, Repr

namespace Rejection

def message : Rejection → String
  | .invalidJob job => "Invalid job " ++ Hex.ofUint job
  | .duplicateJob job => "Duplicate job " ++ Hex.ofUint job
  | .operatorHasTime job primary =>
      "Job " ++ Hex.ofUint job ++ " is still in the window of its primary " ++ Hex.ofUint primary
  | .invalidFallback job window expected =>
      "Job " ++ Hex.ofUint job ++ " is in fallback window " ++ toString window ++ " of " ++
        Hex.ofUint expected
  | .fallbacksExhausted job => "Fallbacks exhausted for job " ++ Hex.ofUint job
  | .gasSpike allowed offered =>
      "Gas spike detected: offered " ++ toString offered.toNat ++ ", allowed " ++
        toString allowed.toNat
  | .notEnoughGas required provided =>
      "Not enough gas left: " ++ toString provided.toNat ++ " of " ++ toString required.toNat
  | .bondBelowMinimum required offered =>
      "Bond of " ++ toString offered.toNat ++ " is below the pod minimum of " ++
        toString required.toNat
  | .operatorIsBonded operator => "Operator " ++ Hex.ofUint operator ++ " is bonded"
  | .notBonded operator => "Operator " ++ Hex.ofUint operator ++ " is not bonded"
  | .notOwner operator caller => Hex.ofUint caller ++ " may not unbond " ++ Hex.ofUint operator
  | .podDoesNotExist pod => "Pod " ++ toString pod.toNat ++ " does not exist"
  | .invalidBeneficiary b => "Invalid slash beneficiary " ++ Hex.ofUint b
  | .untrustedSource chain sender =>
      "Untrusted source " ++ Hex.ofUint sender ++ " on chain " ++ toString chain.toNat
  | .sourceChainMismatch claimed delivered =>
      "Payload from chain " ++ toString claimed.toNat ++ " delivered as chain " ++
        toString delivered.toNat
  | .payload e => e.message
  | .token e => e.message

def code : Rejection → String
  | .invalidJob _ => "invalid job"
  | .duplicateJob _ => "duplicate job"
  | .operatorHasTime .. => "operator has time"
  | .invalidFallback .. => "invalid fallback"
  | .fallbacksExhausted _ => "fallbacks exhausted"
  | .gasSpike .. => "gas spike detected"
  | .notEnoughGas .. => "not enough gas left"
  | .bondBelowMinimum .. => "bond below pod minimum"
  | .operatorIsBonded _ => "operator is bonded"
  | .notBonded _ => "not bonded"
  | .notOwner .. => "unbonding by non-owner"
  | .podDoesNotExist _ => "pod does not exist"
  | .invalidBeneficiary _ => "invalid beneficiary"
  | .untrustedSource .. => "untrusted source"
  | .sourceChainMismatch .. => "source chain mismatch"
  | .payload _ => "invalid payload"
  | .token _ => "token transfer failed"

def hint : Rejection → RetryHint
  | .operatorHasTime .. => .later
  | .gasSpike .. => .later
  | .notEnoughGas .. => .later
  | .token _ => .later
  | .invalidFallback .. => .differentCaller
  | .notOwner .. => .differentCaller
  | .notBonded _ => .differentCaller
  | _ => .never

end Rejection

end BondedRelay
