import BondedRelay.Hex

namespace BondedRelay

inductive TokenError where
  | insufficientBalance (holder : Address) (needed available : Amount)
  | insufficientAllowance (owner spender : Address) (needed allowed : Amount)
  | custom (text : String)
  deriving DecidableEq, Repr

def TokenError.message : TokenError → String
  | .insufficientBalance holder needed available =>
      Hex.ofUint holder ++ " holds " ++ toString available.toNat ++ " but " ++
        toString needed.toNat ++ " is required"
  | .insufficientAllowance owner spender needed allowed =>
      Hex.ofUint spender ++ " may spend " ++ toString allowed.toNat ++ " of " ++
        Hex.ofUint owner ++ " but " ++ toString needed.toNat ++ " is required"
  | .custom text => text

class UtilityToken (τ : Type) where
  balanceOf : τ → Address → Amount
  transfer : τ → Address → Address → Amount → Except TokenError Unit × τ
  transferFrom : τ → Address → Address → Address → Amount → Except TokenError Unit × τ

end BondedRelay
