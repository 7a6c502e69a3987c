import BondedRelay.Proofs.Bond.Operations

namespace BondedRelay.Ledger

variable {τ : Type} [UtilityToken τ] {l l' : Ledger τ} {payer caller operator recipient : Address}
  {amount : Amount} {pod : Uint 32} {kind : OperatorKind} {beneficiary : Beneficiary}
  {r : BondRecord} {receipt : SlashReceipt}

theorem record?_bond (h : l.bond payer operator amount pod kind = (.ok r, l')) (other : Address) :
    l'.record? other = if operator = other then some r else l.record? other := by
  obtain ⟨-, -, -, token, pods, -, -, rfl⟩ := bond_ok h
  exact Table.find?_set ..

theorem record?_topUp {updated : Amount} (h : l.topUp payer operator amount = (.ok updated, l'))
    (other : Address) :
    l'.record? other =
      if operator = other then
        (l.record? other).map fun r => { r with amount := r.amount.satAdd amount }
      else l.record? other := by
  obtain ⟨r, token, hr, -, rfl, rfl⟩ := topUp_ok h
  rw [record?_updateAmount, record?_token]
  split
  · next hother => simp [← hother, hr]
  · rfl

theorem record?_unbond {paid : Amount} (h : l.unbond caller operator recipient = (.ok paid, l'))
    (other : Address) :
    l'.record? other = if operator = other then none else l.record? other := by
  obtain ⟨r, token, -, -, -, -, rfl⟩ := unbond_ok h
  rw [record?_remove, record?_token]

theorem operator_slash (h : l.slash operator amount beneficiary = (.ok receipt, l')) :
    receipt.operator = operator := by
  obtain ⟨r, required, paid, -, -, -, hreceipt, -⟩ := slash_ok h
  rw [hreceipt]
  rfl

theorem beneficiary_slash (h : l.slash operator amount beneficiary = (.ok receipt, l')) :
    receipt.beneficiary = beneficiary := by
  obtain ⟨r, required, paid, -, -, -, hreceipt, -⟩ := slash_ok h
  rw [hreceipt]
  rfl

theorem record?_slash_operator (h : l.slash operator amount beneficiary = (.ok receipt, l')) :
    ∃ r, l.record? operator = some r ∧ Divides receipt r ∧
      l'.record? operator =
        if receipt.demoted then none else some { r with amount := receipt.remaining } := by
  obtain ⟨r, required, paid, hr, hrefuses, -, hreceipt, -⟩ := slash_ok h
  obtain ⟨token, -, hl'⟩ := slash_settles h
  have hne : receipt.beneficiary.address ≠ receipt.operator := by
    rw [operator_slash h, beneficiary_slash h]
    exact (refuses?_eq_none_iff.1 hrefuses).1
  have hsettled := record?_settle_operator ({ l with token } : Ledger τ) hne
  rw [← hl', operator_slash h, record?_token l token operator, hr] at hsettled
  exact ⟨r, hr, hreceipt ▸ divides_slashReceipt .., hsettled⟩

theorem record?_slash_other (h : l.slash operator amount beneficiary = (.ok receipt, l'))
    {other : Address} (hne : operator ≠ other) :
    l'.record? other =
      if receipt.beneficiary = .bond other then
        (l.record? other).map fun r => { r with amount := r.amount.satAdd receipt.slashed }
      else l.record? other := by
  have hoperator := operator_slash h
  obtain ⟨token, -, rfl⟩ := slash_settles h
  exact record?_settle_other ({ l with token } : Ledger τ) (hoperator ▸ hne)

end BondedRelay.Ledger
