import BondedRelay.Token.Basic

namespace BondedRelay

structure Fuse where
  remaining : Nat
  error : TokenError
  deriving DecidableEq, Repr

structure FusedToken (τ : Type) where
  inner : τ
  fuse : Option Fuse
  deriving DecidableEq, Repr

namespace FusedToken

variable {τ : Type}

def guarded (t : FusedToken τ) (call : τ → Except TokenError Unit × τ) :
    Except TokenError Unit × FusedToken τ :=
  match t.fuse with
  | some ⟨0, error⟩ => (.error error, { t with fuse := none })
  | some ⟨n + 1, error⟩ =>
      let (answer, inner) := call t.inner
      (answer, ⟨inner, some ⟨n, error⟩⟩)
  | none =>
      let (answer, inner) := call t.inner
      (answer, ⟨inner, none⟩)

instance [UtilityToken τ] : UtilityToken (FusedToken τ) where
  balanceOf t := UtilityToken.balanceOf t.inner
  transfer t payer payee amount :=
    t.guarded fun inner => UtilityToken.transfer inner payer payee amount
  transferFrom t spender payer payee amount :=
    t.guarded fun inner => UtilityToken.transferFrom inner spender payer payee amount

end FusedToken

end BondedRelay
