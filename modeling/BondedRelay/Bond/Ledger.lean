import BondedRelay.Pod.Registry

namespace BondedRelay

structure Ledger (τ : Type) where
  address : Address
  token : τ
  pods : PodRegistry
  bonds : Table Address BondRecord
  deriving DecidableEq, Repr

namespace Ledger

variable {τ : Type}

def create (address : Address) (token : τ) (schedule : BondSchedule) : Ledger τ :=
  ⟨address, token, .empty schedule, .empty⟩

def record? (l : Ledger τ) (operator : Address) : Option BondRecord := l.bonds.find? operator

def isBonded (l : Ledger τ) (operator : Address) : Bool := (l.record? operator).isSome

def bondedAmount (l : Ledger τ) (operator : Address) : Amount :=
  match l.record? operator with
  | some r => r.amount
  | none => 0

def bondedPod (l : Ledger τ) (operator : Address) : Uint 32 :=
  match l.record? operator with
  | some r => r.pod
  | none => 0

def totalBonded (l : Ledger τ) : Amount :=
  l.bonds.values.foldl (fun acc r => acc.satAdd r.amount) 0

def remove (l : Ledger τ) (operator : Address) : Ledger τ :=
  { l with pods := l.pods.leave operator, bonds := l.bonds.erase operator }

def updateAmount (l : Ledger τ) (operator : Address) (f : Amount → Amount) : Ledger τ :=
  { l with bonds := l.bonds.modify operator fun r => { r with amount := f r.amount } }

variable [UtilityToken τ]

def held (l : Ledger τ) : Amount := UtilityToken.balanceOf l.token l.address

def collect (l : Ledger τ) (payer : Address) (amount : Amount) : Except Rejection Unit × Ledger τ :=
  let (answer, token) := UtilityToken.transferFrom l.token l.address payer l.address amount
  (answer.mapError .token, { l with token })

def pay (l : Ledger τ) (payee : Address) (amount : Amount) : Except Rejection Unit × Ledger τ :=
  let (answer, token) := UtilityToken.transfer l.token l.address payee amount
  (answer.mapError .token, { l with token })

def payNonzero (l : Ledger τ) (payee : Address) (amount : Amount) :
    Except Rejection Unit × Ledger τ :=
  if amount.toNat = 0 then (.ok (), l) else l.pay payee amount

def bond (l : Ledger τ) (payer operator : Address) (amount : Amount) (pod : Uint 32)
    (kind : OperatorKind) : Except Rejection BondRecord × Ledger τ :=
  if l.isBonded operator then (.error (.operatorIsBonded operator), l)
  else
    match l.pods.entryRequirement pod with
    | .error e => (.error e, l)
    | .ok required =>
        if amount < required.current then
          (.error (.bondBelowMinimum required.current amount), l)
        else
          match l.collect payer amount with
          | (.error e, l) => (.error e, l)
          | (.ok _, l) =>
              match l.pods.join pod operator with
              | .error e => (.error e, l)
              | .ok pods =>
                  let record : BondRecord := ⟨amount, pod, kind⟩
                  (.ok record, { l with pods, bonds := l.bonds.set operator record })

def topUp (l : Ledger τ) (payer operator : Address) (amount : Amount) :
    Except Rejection Amount × Ledger τ :=
  match l.record? operator with
  | none => (.error (.notBonded operator), l)
  | some record =>
      match l.collect payer amount with
      | (.error e, l) => (.error e, l)
      | (.ok _, l) =>
          let updated := record.amount.satAdd amount
          (.ok updated, l.updateAmount operator fun _ => updated)

def unbond (l : Ledger τ) (caller operator recipient : Address) :
    Except Rejection Amount × Ledger τ :=
  match l.record? operator with
  | none => (.error (.notBonded operator), l)
  | some record =>
      if record.kind.mayUnbond operator caller then
        match l.pay recipient record.amount with
        | (.error e, l) => (.error e, l)
        | (.ok _, l) => (.ok record.amount, l.remove operator)
      else (.error (.notOwner operator caller), l)

def refuses? (l : Ledger τ) (operator : Address) (beneficiary : Beneficiary) : Option Rejection :=
  if beneficiary.address = operator then some (.invalidBeneficiary operator)
  else
    match beneficiary with
    | .bond receiver => if l.isBonded receiver then none else some (.invalidBeneficiary receiver)
    | .account _ => none

def slashReceipt (record : BondRecord) (required : BondRequirement) (operator : Address)
    (amount : Amount) (beneficiary : Beneficiary) : SlashReceipt :=
  let slashed := min amount record.amount
  let leftover := record.amount.satSub slashed
  let demoted := decide (leftover < required.current)
  { operator, slashed, beneficiary, demoted,
    remaining := if demoted then 0 else leftover,
    refunded := if demoted then leftover else 0 }

def outgoing (receipt : SlashReceipt) : Amount :=
  match receipt.beneficiary with
  | .account _ => receipt.slashed.satAdd receipt.refunded
  | .bond _ => receipt.refunded

def payOut (l : Ledger τ) (receipt : SlashReceipt) : Except Rejection Unit × Ledger τ :=
  let rewarded := match receipt.beneficiary with
    | .account receiver => l.payNonzero receiver receipt.slashed
    | .bond _ => (.ok (), l)
  match rewarded with
  | (.error e, l) => (.error e, l)
  | (.ok _, l) => l.payNonzero receipt.operator receipt.refunded

def settle (l : Ledger τ) (receipt : SlashReceipt) : Ledger τ :=
  let l :=
    if receipt.demoted then l.remove receipt.operator
    else l.updateAmount receipt.operator fun _ => receipt.remaining
  match receipt.beneficiary with
  | .bond receiver => l.updateAmount receiver fun amount => amount.satAdd receipt.slashed
  | .account _ => l

def slash (l : Ledger τ) (operator : Address) (amount : Amount) (beneficiary : Beneficiary) :
    Except Rejection SlashReceipt × Ledger τ :=
  match l.record? operator with
  | none => (.error (.notBonded operator), l)
  | some record =>
      match l.refuses? operator beneficiary with
      | some e => (.error e, l)
      | none =>
          match l.pods.requirement record.pod with
          | .error e => (.error e, l)
          | .ok required =>
              let receipt := slashReceipt record required operator amount beneficiary
              if l.held < outgoing receipt then
                (.error (.token (.insufficientBalance l.address (outgoing receipt) l.held)), l)
              else
                match l.payOut receipt with
                | (.error e, l) => (.error e, l)
                | (.ok _, l) => (.ok receipt, l.settle receipt)

end Ledger

end BondedRelay
