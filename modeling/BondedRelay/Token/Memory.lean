import BondedRelay.Table
import BondedRelay.Token.Basic

namespace BondedRelay

structure MemoryToken where
  balances : Table Address Amount
  allowances : Table (Address × Address) Amount
  deriving DecidableEq, Repr

namespace MemoryToken

def empty : MemoryToken := ⟨.empty, .empty⟩

instance : Inhabited MemoryToken := ⟨empty⟩

def balanceOf (t : MemoryToken) (who : Address) : Amount := t.balances.getD who 0

def allowance (t : MemoryToken) (owner spender : Address) : Amount :=
  t.allowances.getD (owner, spender) 0

def setBalance (t : MemoryToken) (who : Address) (amount : Amount) : MemoryToken :=
  { t with balances := t.balances.set who amount }

def mint (t : MemoryToken) (payee : Address) (amount : Amount) : MemoryToken :=
  t.setBalance payee ((t.balanceOf payee).satAdd amount)

def approve (t : MemoryToken) (owner spender : Address) (amount : Amount) : MemoryToken :=
  { t with allowances := t.allowances.set (owner, spender) amount }

def totalSupply (t : MemoryToken) : Amount := t.balances.values.foldl Uint.satAdd 0

def debit (t : MemoryToken) (holder : Address) (amount : Amount) :
    Except TokenError MemoryToken :=
  let available := t.balanceOf holder
  if available < amount then .error (.insufficientBalance holder amount available)
  else .ok (t.setBalance holder (available.satSub amount))

def transfer (t : MemoryToken) (payer payee : Address) (amount : Amount) :
    Except TokenError Unit × MemoryToken :=
  match t.debit payer amount with
  | .error e => (.error e, t)
  | .ok debited => (.ok (), debited.mint payee amount)

def transferFrom (t : MemoryToken) (spender payer payee : Address) (amount : Amount) :
    Except TokenError Unit × MemoryToken :=
  let allowed := t.allowance payer spender
  if allowed < amount then (.error (.insufficientAllowance payer spender amount allowed), t)
  else
    match t.debit payer amount with
    | .error e => (.error e, t)
    | .ok debited =>
        let lowered :=
          if allowed = .top then debited else debited.approve payer spender (allowed.satSub amount)
        (.ok (), lowered.mint payee amount)

instance : UtilityToken MemoryToken where
  balanceOf := balanceOf
  transfer := transfer
  transferFrom := transferFrom

end MemoryToken

end BondedRelay
