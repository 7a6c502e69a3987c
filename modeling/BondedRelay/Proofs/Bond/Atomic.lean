import BondedRelay.Proofs.Bond.Operations
import BondedRelay.Proofs.Token.Supply

namespace BondedRelay.Ledger

variable {l l' : Ledger MemoryToken} {payer payee caller operator recipient : Address}
  {amount : Amount} {pod : Uint 32} {kind : OperatorKind} {beneficiary : Beneficiary}
  {receipt : SlashReceipt} {e : Rejection}

theorem bond_rejected (h : l.bond payer operator amount pod kind = (.error e, l')) : l' = l := by
  rcases bond_error h with rfl | ⟨error, token, htransfer, -, rfl⟩
  · rfl
  · rw [MemoryToken.transferFrom_error htransfer]

theorem topUp_rejected (h : l.topUp payer operator amount = (.error e, l')) : l' = l := by
  rcases topUp_error h with rfl | ⟨error, token, htransfer, -, rfl⟩
  · rfl
  · rw [MemoryToken.transferFrom_error htransfer]

theorem unbond_rejected (h : l.unbond caller operator recipient = (.error e, l')) : l' = l := by
  rcases unbond_error h with rfl | ⟨amount, error, token, htransfer, -, rfl⟩
  · rfl
  · rw [MemoryToken.transfer_error htransfer]

theorem pay_of_le (payee : Address) (h : amount ≤ l.held) :
    ∃ paid, l.pay payee amount = (.ok (), paid) ∧
      l.held.toNat ≤ paid.held.toNat + amount.toNat := by
  obtain ⟨token, htransfer⟩ := MemoryToken.transfer_of_le payee h
  have hbalance := MemoryToken.le_balanceOf_transfer htransfer
  refine ⟨{ l with token }, ?_, hbalance⟩
  rw [pay, show UtilityToken.transfer l.token l.address payee amount = _ from htransfer]
  rfl

theorem payNonzero_of_le (payee : Address) (h : amount ≤ l.held) :
    ∃ paid, l.payNonzero payee amount = (.ok (), paid) ∧
      l.held.toNat ≤ paid.held.toNat + amount.toNat := by
  unfold payNonzero
  split
  · exact ⟨l, rfl, Nat.le_add_right ..⟩
  · exact pay_of_le payee h

theorem payOut_of_outgoing_le
    (hsum : receipt.slashed.toNat + receipt.refunded.toNat ≤ (Uint.top : Amount).toNat)
    (h : outgoing receipt ≤ l.held) : ∃ paid, l.payOut receipt = (.ok (), paid) := by
  rw [Uint.le_iff] at h
  rw [Uint.toNat_top] at hsum
  obtain ⟨rewarded, hreward, hleft⟩ : ∃ rewarded, l.reward receipt = (.ok (), rewarded) ∧
      receipt.refunded.toNat ≤ rewarded.held.toNat := by
    unfold outgoing at h
    unfold reward
    cases hb : receipt.beneficiary with
    | account receiver =>
        simp only [hb, Uint.toNat_satAdd] at h
        have hslashed : receipt.slashed ≤ l.held := by
          rw [Uint.le_iff]
          omega
        obtain ⟨rewarded, hpay, hheld⟩ := payNonzero_of_le receiver hslashed
        exact ⟨rewarded, hpay, by omega⟩
    | bond receiver =>
        simp only [hb] at h
        exact ⟨l, rfl, h⟩
  obtain ⟨paid, hrefund, -⟩ := payNonzero_of_le receipt.operator hleft
  exact ⟨paid, by rw [payOut_eq, hreward]; exact hrefund⟩

theorem slash_rejected (h : l.slash operator amount beneficiary = (.error e, l')) : l' = l := by
  rcases slash_error h with rfl | ⟨r, required, -, -, -, hheld, hpaid⟩
  · rfl
  · have hdivides := divides_slashReceipt r required operator amount beneficiary
    obtain ⟨paid, hok⟩ := payOut_of_outgoing_le hdivides.paid_le hheld
    simp [hok] at hpaid

theorem after_rejected {call : Call} (h : l.rejects e call) : l.after call = l := by
  cases call with
  | bond payer operator amount pod kind => exact bond_rejected (Prod.ext h rfl)
  | topUp payer operator amount => exact topUp_rejected (Prod.ext h rfl)
  | unbond caller operator recipient => exact unbond_rejected (Prod.ext h rfl)
  | slash operator amount beneficiary => exact slash_rejected (Prod.ext h rfl)

end BondedRelay.Ledger
