import Mathlib.Logic.Relation
import BondedRelay.Proofs.Bond.Atomic
import BondedRelay.Proofs.Bond.Records

namespace BondedRelay

namespace MemoryToken

variable {t t' : MemoryToken} {account payer payee : Address} {amount : Amount}

inductive Outside (account : Address) (t : MemoryToken) : MemoryToken → Prop
  | mint (payee : Address) (amount : Amount)
      (h : t.supply + amount.toNat ≤ (Uint.top : Amount).toNat) :
      Outside account t (t.mint payee amount)
  | approve (owner spender : Address) (amount : Amount) (h : owner ≠ account) :
      Outside account t (t.approve owner spender amount)
  | transfer (payer payee : Address) (amount : Amount) (h : payer ≠ account) :
      Outside account t (t.transfer payer payee amount).2
  | transferFrom (spender payer payee : Address) (amount : Amount) (h : payer ≠ account) :
      Outside account t (t.transferFrom spender payer payee amount).2

structure Fit (t : MemoryToken) (account : Address) : Prop where
  supply_le : t.supply ≤ (Uint.top : Amount).toNat
  allowance_eq : (t.allowance account account).toNat = 0

theorem Moves.fit (hm : t.Moves payer payee amount t') (hf : t.Fit account)
    (h : (t'.allowance account account).toNat ≤ (t.allowance account account).toNat) :
    t'.Fit account := by
  have hzero := hf.allowance_eq
  exact ⟨hm.supply_eq ▸ hf.supply_le, by omega⟩

theorem Moves.le_balanceOf (hm : t.Moves payer payee amount t') (hne : payer ≠ account) :
    (t.balanceOf account).toNat ≤ (t'.balanceOf account).toNat := by
  have hbalance := hm.balanceOf_eq account
  rw [if_neg hne] at hbalance
  omega

namespace Fit

theorem collect (hf : t.Fit account)
    (h : t.transferFrom account payer account amount = (.ok (), t')) :
    t'.Fit account ∧ (t'.balanceOf account).toNat = (t.balanceOf account).toNat + amount.toNat := by
  obtain ⟨hmoves, hallowed, hless⟩ := transferFrom_ok hf.supply_le h
  refine ⟨hmoves.fit hf (hless ..), ?_⟩
  have hbalance := hmoves.balanceOf_eq account
  have hzero := hf.allowance_eq
  rw [if_pos rfl] at hbalance
  split at hbalance
  · next hpayer =>
      rw [hpayer] at hallowed
      omega
  · omega

theorem pay (hf : t.Fit account) (h : t.transfer account payee amount = (.ok (), t')) :
    t'.Fit account ∧ (t.balanceOf account).toNat ≤ (t'.balanceOf account).toNat + amount.toNat := by
  obtain ⟨hmoves, hallowances⟩ := transfer_ok hf.supply_le h
  refine ⟨hmoves.fit hf ?_, le_balanceOf_transfer h⟩
  rw [allowance, hallowances]
  exact Nat.le_refl _

theorem outside_transfer (hf : t.Fit account) (hne : payer ≠ account) (payee : Address)
    (amount : Amount) :
    (t.transfer payer payee amount).2.Fit account ∧
      (t.balanceOf account).toNat ≤
        ((t.transfer payer payee amount).2.balanceOf account).toNat := by
  rcases h : t.transfer payer payee amount with ⟨e | u, t'⟩
  · obtain rfl := transfer_error h
    exact ⟨hf, Nat.le_refl _⟩
  · obtain ⟨hmoves, hallowances⟩ := transfer_ok hf.supply_le h
    refine ⟨hmoves.fit hf ?_, hmoves.le_balanceOf hne⟩
    rw [allowance, hallowances]
    exact Nat.le_refl _

theorem outside_transferFrom (hf : t.Fit account) (hne : payer ≠ account)
    (spender payee : Address) (amount : Amount) :
    (t.transferFrom spender payer payee amount).2.Fit account ∧
      (t.balanceOf account).toNat ≤
        ((t.transferFrom spender payer payee amount).2.balanceOf account).toNat := by
  rcases h : t.transferFrom spender payer payee amount with ⟨e | u, t'⟩
  · obtain rfl := transferFrom_error h
    exact ⟨hf, Nat.le_refl _⟩
  · obtain ⟨hmoves, -, hless⟩ := transferFrom_ok hf.supply_le h
    exact ⟨hmoves.fit hf (hless ..), hmoves.le_balanceOf hne⟩

theorem outside (hf : t.Fit account) (h : Outside account t t') :
    t'.Fit account ∧ (t.balanceOf account).toNat ≤ (t'.balanceOf account).toNat := by
  cases h with
  | mint payee amount hsupply =>
      refine ⟨⟨?_, hf.allowance_eq⟩, t.le_balanceOf_mint payee account amount⟩
      rw [supply_mint hsupply]
      exact hsupply
  | approve owner spender amount hne =>
      refine ⟨⟨hf.supply_le, ?_⟩, Nat.le_refl _⟩
      rw [allowance_approve, if_neg fun hk => hne (Prod.mk.inj hk).1]
      exact hf.allowance_eq
  | transfer payer payee amount hne => exact hf.outside_transfer hne payee amount
  | transferFrom spender payer payee amount hne =>
      exact hf.outside_transferFrom hne spender payee amount

end Fit

end MemoryToken

namespace SlashReceipt

variable {receipt : SlashReceipt} {who : Address}

def paid (receipt : SlashReceipt) : Nat :=
  match receipt.beneficiary with
  | .bond _ => receipt.refunded.toNat
  | .account _ => receipt.slashed.toNat + receipt.refunded.toNat

def paidTo (receipt : SlashReceipt) (who : Address) : Nat :=
  (if receipt.operator = who then receipt.refunded.toNat else 0) +
    if receipt.beneficiary = .account who then receipt.slashed.toNat else 0

theorem paidTo_operator (h : receipt.beneficiary.address ≠ receipt.operator) :
    receipt.paidTo receipt.operator = receipt.refunded.toNat := by
  have hother : receipt.beneficiary ≠ .account receipt.operator := fun hown =>
    h (congrArg Beneficiary.address hown)
  rw [paidTo, if_pos rfl, if_neg hother, Nat.add_zero]

theorem paidTo_account (h : receipt.beneficiary = .account who) (hne : who ≠ receipt.operator) :
    receipt.paidTo who = receipt.slashed.toNat := by
  rw [paidTo, if_neg hne.symm, if_pos h, Nat.zero_add]

theorem paidTo_other (h : receipt.beneficiary ≠ .account who) (hne : who ≠ receipt.operator) :
    receipt.paidTo who = 0 := by
  rw [paidTo, if_neg hne.symm, if_neg h]

end SlashReceipt

namespace Ledger

def liabilities {τ : Type} (l : Ledger τ) : Nat := l.bonds.total fun r => r.amount.toNat

structure Solvent (l : Ledger MemoryToken) : Prop where
  fit : l.token.Fit l.address
  liabilities_le : l.liabilities ≤ l.held.toNat

variable {l l' : Ledger MemoryToken} {payer payee caller operator recipient : Address}
  {amount : Amount} {pod : Uint 32} {kind : OperatorKind} {beneficiary : Beneficiary}
  {r : BondRecord} {receipt : SlashReceipt}

theorem amount_le_liabilities {τ : Type} {l : Ledger τ} (h : l.record? operator = some r) :
    r.amount.toNat ≤ l.liabilities :=
  Table.le_total (fun r => r.amount.toNat) h

theorem liabilities_remove {τ : Type} {l : Ledger τ} (h : l.record? operator = some r) :
    (l.remove operator).liabilities + r.amount.toNat = l.liabilities :=
  Table.total_erase (fun r => r.amount.toNat) h

theorem liabilities_updateAmount {τ : Type} {l : Ledger τ} (f : Amount → Amount)
    (h : l.record? operator = some r) :
    (l.updateAmount operator f).liabilities + r.amount.toNat =
      l.liabilities + (f r.amount).toNat :=
  Table.total_modify (fun r => { r with amount := f r.amount }) (fun r => r.amount.toNat) h

theorem liabilities_deduct {τ : Type} {l : Ledger τ} {receipt : SlashReceipt}
    (hr : l.record? receipt.operator = some r) (hd : Divides receipt r) :
    (l.deduct receipt).liabilities + receipt.slashed.toNat + receipt.refunded.toNat =
      l.liabilities := by
  have hsum := hd.sum_eq
  unfold deduct
  cases h : receipt.demoted with
  | true =>
      have hzero := hd.remaining_eq h
      have hliabilities := liabilities_remove hr
      simp only [if_true]
      omega
  | false =>
      have hzero := hd.refunded_eq h
      have hliabilities := liabilities_updateAmount (fun _ => receipt.remaining) hr
      simp only [Bool.false_eq_true, if_false]
      omega

theorem add_le_liabilities {τ : Type} {l : Ledger τ} {other : Address} {s : BondRecord}
    (hne : operator ≠ other) (hr : l.record? operator = some r) (hs : l.record? other = some s) :
    r.amount.toNat + s.amount.toNat ≤ l.liabilities := by
  have hremoved := liabilities_remove hr
  have hkept : (l.remove operator).record? other = some s := by rw [record?_remove, if_neg hne, hs]
  have hle := amount_le_liabilities hkept
  omega

theorem liabilities_settle {τ : Type} {l : Ledger τ} (hr : l.record? receipt.operator = some r)
    (hd : Divides receipt r) (hne : receipt.beneficiary.address ≠ receipt.operator)
    (hreceiver : ∀ receiver, receipt.beneficiary = .bond receiver →
      ∃ s, l.record? receiver = some s)
    (hbound : l.liabilities ≤ Uint.limit 256 - 1) :
    (l.settle receipt).liabilities + receipt.paid = l.liabilities := by
  have hdeduct := liabilities_deduct hr hd
  have hsum := hd.sum_eq
  rw [settle_eq, SlashReceipt.paid]
  cases hb : receipt.beneficiary with
  | account receiver =>
      simp only
      omega
  | bond receiver =>
      simp only
      have hother : receipt.operator ≠ receiver := by
        rw [hb] at hne
        exact Ne.symm hne
      obtain ⟨s, hs⟩ := hreceiver receiver hb
      have hfit := add_le_liabilities hother hr hs
      have hdeducted := (record?_deduct_other l hother).trans hs
      have hcredit := liabilities_updateAmount (fun amount => amount.satAdd receipt.slashed)
        hdeducted
      simp only [Uint.toNat_satAdd] at hcredit
      omega

theorem payNonzero_moves {paid : Ledger MemoryToken} (hf : l.token.Fit l.address)
    (h : l.payNonzero payee amount = (.ok (), paid)) :
    ∃ token, paid = { l with token } ∧ token.Fit l.address ∧
      l.token.Moves l.address payee amount token := by
  unfold payNonzero at h
  split at h
  · next hzero =>
      obtain rfl : l = paid := congrArg Prod.snd h
      exact ⟨l.token, rfl, hf, by omega, rfl, fun who => by simp [hzero]⟩
  · obtain ⟨token, htransfer, rfl⟩ := pay_ok h
    exact ⟨token, rfl, (hf.pay htransfer).1, (MemoryToken.transfer_ok hf.supply_le htransfer).1⟩

theorem payOut_moves {paid : Ledger MemoryToken} (hf : l.token.Fit l.address)
    (h : l.payOut receipt = (.ok (), paid)) :
    ∃ token, paid = { l with token } ∧ token.Fit l.address ∧
      ∀ who, (token.balanceOf who).toNat + (if l.address = who then receipt.paid else 0) =
        (l.token.balanceOf who).toNat + receipt.paidTo who := by
  rw [payOut_eq] at h
  unfold reward at h
  unfold SlashReceipt.paid SlashReceipt.paidTo
  cases hb : receipt.beneficiary with
  | bond receiver =>
      simp only [hb] at h
      obtain ⟨token, rfl, hfit, hmoves⟩ := payNonzero_moves hf h
      exact ⟨token, rfl, hfit, fun who => by simpa using hmoves.balanceOf_eq who⟩
  | account receiver =>
      simp only [hb] at h
      split at h
      · simp at h
      · next rewarded hreward =>
          obtain ⟨first, rfl, hfit, hfirst⟩ := payNonzero_moves hf hreward
          obtain ⟨token, rfl, hfit', hsecond⟩ := payNonzero_moves hfit h
          refine ⟨token, rfl, hfit', fun who => ?_⟩
          have hrewarded := hfirst.balanceOf_eq who
          have hrefunded := hsecond.balanceOf_eq who
          simp only [Beneficiary.account.injEq] at hrewarded hrefunded ⊢
          by_cases hown : l.address = who
          · simp only [hown, if_true] at hrewarded hrefunded ⊢
            omega
          · simp only [hown, if_false] at hrewarded hrefunded ⊢
            omega

theorem slash_pays (hf : l.token.Fit l.address)
    (h : l.slash operator amount beneficiary = (.ok receipt, l')) :
    l'.address = l.address ∧ l'.token.Fit l.address ∧
      ∀ who, (l'.token.balanceOf who).toNat + (if l.address = who then receipt.paid else 0) =
        (l.token.balanceOf who).toNat + receipt.paidTo who := by
  obtain ⟨token, hpaid, rfl⟩ := slash_settles h
  obtain ⟨pods, bonds, hsettled⟩ := ({ l with token } : Ledger MemoryToken).settle_frame receipt
  obtain ⟨token', hsame, hfit, hbalance⟩ := payOut_moves hf hpaid
  obtain rfl : token = token' := congrArg Ledger.token hsame
  rw [hsettled]
  exact ⟨rfl, hfit, hbalance⟩

theorem outgoing_le (receipt : SlashReceipt) :
    (outgoing receipt).toNat ≤ receipt.slashed.toNat + receipt.refunded.toNat := by
  unfold outgoing
  cases receipt.beneficiary with
  | account receiver => exact Nat.min_le_left ..
  | bond receiver => exact Nat.le_add_left ..

theorem slashes_of_covered {required : BondRequirement} (hcovered : l.liabilities ≤ l.held.toNat)
    (hr : l.record? operator = some r)
    (hrefuses : l.refuses? operator beneficiary = none)
    (hrequired : l.pods.requirement r.pod = .ok required) (amount : Amount) :
    ∃ receipt l', l.slash operator amount beneficiary = (.ok receipt, l') := by
  let receipt := slashReceipt r required operator amount beneficiary
  have hd : Divides receipt r := divides_slashReceipt ..
  have hheld : outgoing receipt ≤ l.held := by
    have hbonded := amount_le_liabilities hr
    have hsum := hd.sum_eq
    have hpaid := outgoing_le receipt
    rw [Uint.le_iff]
    omega
  obtain ⟨paid, hpaid⟩ := payOut_of_outgoing_le hd.paid_le hheld
  refine ⟨receipt, paid.settle receipt, ?_⟩
  have hpayable : ¬ l.held < outgoing receipt := Nat.not_lt_of_le hheld
  simp only [Ledger.slash, hr, hrefuses, hrequired]
  rw [if_neg hpayable, hpaid]

namespace Solvent

theorem bond (hs : l.Solvent) (h : l.bond payer operator amount pod kind = (.ok r, l')) :
    l'.Solvent := by
  obtain ⟨hfree, rfl, -, token, pods, htransfer, -, rfl⟩ := bond_ok h
  obtain ⟨hfit, hheld⟩ := hs.fit.collect htransfer
  refine ⟨hfit, ?_⟩
  have hcovered : l.liabilities ≤ (l.token.balanceOf l.address).toNat := hs.liabilities_le
  have htotal := Table.total_set l.bonds operator ⟨amount, pod, kind⟩ fun r => r.amount.toNat
  rw [show l.bonds.find? operator = none from hfree, Option.elim_none] at htotal
  unfold liabilities at hcovered ⊢
  show _ ≤ (token.balanceOf l.address).toNat
  simp only at htotal ⊢
  omega

theorem topUp {updated : Amount} (hs : l.Solvent)
    (h : l.topUp payer operator amount = (.ok updated, l')) : l'.Solvent := by
  obtain ⟨r, token, hr, htransfer, rfl, rfl⟩ := topUp_ok h
  obtain ⟨hfit, hheld⟩ := hs.fit.collect htransfer
  refine ⟨hfit, ?_⟩
  have hcovered : l.liabilities ≤ (l.token.balanceOf l.address).toNat := hs.liabilities_le
  have htotal := liabilities_updateAmount (fun _ => r.amount.satAdd amount) hr
  show (l.updateAmount operator fun _ => r.amount.satAdd amount).liabilities ≤
    (token.balanceOf l.address).toNat
  simp only [Uint.toNat_satAdd] at htotal
  omega

theorem unbond {paid : Amount} (hs : l.Solvent)
    (h : l.unbond caller operator recipient = (.ok paid, l')) : l'.Solvent := by
  obtain ⟨r, token, hr, -, htransfer, -, rfl⟩ := unbond_ok h
  obtain ⟨hfit, hheld⟩ := hs.fit.pay htransfer
  refine ⟨hfit, ?_⟩
  have hcovered : l.liabilities ≤ (l.token.balanceOf l.address).toNat := hs.liabilities_le
  have htotal := liabilities_remove hr
  show (l.remove operator).liabilities ≤ (token.balanceOf l.address).toNat
  omega

theorem liabilities_slash (hs : l.Solvent)
    (h : l.slash operator amount beneficiary = (.ok receipt, l')) :
    l'.liabilities + receipt.paid = l.liabilities := by
  obtain ⟨r, required, -, hr, hrefuses, -, hreceipt, -⟩ := slash_ok h
  obtain ⟨hne, hbonded⟩ := refuses?_eq_none_iff.1 hrefuses
  have hd : Divides receipt r := hreceipt ▸ divides_slashReceipt ..
  have hbound : l.liabilities ≤ Uint.limit 256 - 1 :=
    Nat.le_trans hs.liabilities_le l.held.toNat_le
  obtain ⟨token, -, hl'⟩ := slash_settles h
  have htotal := liabilities_settle (l := { l with token }) (by rwa [operator_slash h]) hd
    (by rwa [operator_slash h, beneficiary_slash h])
    (fun receiver hreceiver => Option.isSome_iff_exists.1
      (hbonded receiver ((beneficiary_slash h).symm.trans hreceiver))) hbound
  rwa [← hl'] at htotal

theorem slash (hs : l.Solvent) (h : l.slash operator amount beneficiary = (.ok receipt, l')) :
    l'.Solvent := by
  obtain ⟨haddress, hfit, hbalance⟩ := slash_pays hs.fit h
  refine ⟨by rwa [haddress], ?_⟩
  have hown := hbalance l.address
  rw [if_pos rfl] at hown
  have hcovered : l.liabilities ≤ (l.token.balanceOf l.address).toNat := hs.liabilities_le
  have htotal := hs.liabilities_slash h
  show l'.liabilities ≤ (l'.token.balanceOf l'.address).toNat
  rw [haddress]
  omega

theorem after (hs : l.Solvent) (call : Call) : (l.after call).Solvent := by
  rcases l.after_cases call with ⟨e, hrejected⟩ | haccepted
  · rwa [after_rejected hrejected]
  · generalize l.after call = l' at haccepted ⊢
    cases haccepted with
    | bond h => exact hs.bond h
    | topUp h => exact hs.topUp h
    | unbond h => exact hs.unbond h
    | slash h => exact hs.slash h

theorem outside {token : MemoryToken} (hs : l.Solvent) (h : l.token.Outside l.address token) :
    ({ l with token } : Ledger MemoryToken).Solvent := by
  obtain ⟨hfit, hheld⟩ := hs.fit.outside h
  exact ⟨hfit, Nat.le_trans hs.liabilities_le hheld⟩

theorem pays (hs : l.Solvent) (hr : l.record? operator = some r) (recipient : Address) :
    (l.unbond (r.kind.authority operator) operator recipient).1 = .ok r.amount := by
  have hcovered : r.amount ≤ l.held :=
    Nat.le_trans (amount_le_liabilities hr) hs.liabilities_le
  obtain ⟨paid, hpay, -⟩ := pay_of_le recipient hcovered
  simp [Ledger.unbond, hr, OperatorKind.mayUnbond, hpay]

end Solvent

theorem solvent_create {address : Address} {token : MemoryToken} (hf : token.Fit address)
    (schedule : BondSchedule) : (create address token schedule).Solvent :=
  ⟨hf, Nat.zero_le _⟩

inductive Guarded : Ledger MemoryToken → Ledger MemoryToken → Prop
  | call (l : Ledger MemoryToken) (call : Call) : Guarded l (l.after call)
  | token (l : Ledger MemoryToken) (token : MemoryToken) (h : l.token.Outside l.address token) :
      Guarded l { l with token }

theorem Solvent.guarded (hs : l.Solvent) (h : Guarded l l') : l'.Solvent := by
  cases h with
  | call call => exact hs.after call
  | token token houtside => exact hs.outside houtside

theorem Solvent.run (hs : l.Solvent) (h : Relation.ReflTransGen Guarded l l') : l'.Solvent := by
  induction h with
  | refl => exact hs
  | tail _ hstep ih => exact ih.guarded hstep

end Ledger

end BondedRelay
