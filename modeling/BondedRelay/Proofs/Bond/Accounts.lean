import BondedRelay.Proofs.Bond.Records
import BondedRelay.Proofs.Bond.Representation
import BondedRelay.Proofs.Bond.Solvency

namespace BondedRelay

namespace Ledger

section

variable {τ : Type} {l : Ledger τ} {operator other : Address} {r s : BondRecord}
  {receipt : SlashReceipt}

theorem toNat_foldl_satAdd (amounts : List BondRecord) (acc : Amount) :
    (amounts.foldl (fun acc r => acc.satAdd r.amount) acc).toNat =
      min (acc.toNat + (amounts.map fun r => r.amount.toNat).sum) (Uint.limit 256 - 1) := by
  induction amounts generalizing acc with
  | nil =>
      have hbound := acc.toNat_le
      simp only [List.foldl_nil, List.map_nil, List.sum_nil]
      omega
  | cons r rest ih =>
      rw [List.foldl_cons, ih, Uint.toNat_satAdd, List.map_cons, List.sum_cons]
      omega

theorem toNat_totalBonded (l : Ledger τ) :
    l.totalBonded.toNat = min l.liabilities (Uint.limit 256 - 1) := by
  rw [totalBonded, toNat_foldl_satAdd, Uint.toNat_zero, Nat.zero_add]
  rfl

end

variable {l l' paid : Ledger MemoryToken} {payee operator : Address} {amount : Amount}
  {beneficiary : Beneficiary} {r : BondRecord} {receipt : SlashReceipt}

theorem edits_guarded (h : Relation.ReflTransGen Guarded l l') :
    Relation.ReflTransGen Edit l l' := by
  induction h with
  | refl => exact .refl
  | tail _ hstep ih =>
      cases hstep with
      | call call => exact ih.trans (edits_after _ call)
      | token token houtside => exact ih.tail (.token _ token)

theorem aligned_slash (ha : l.Aligned)
    (h : l.slash operator amount beneficiary = (.ok receipt, l')) : l'.Aligned := by
  have hedits := l.edits_after (.slash operator amount beneficiary)
  rw [after, h] at hedits
  exact ha.edits hedits

structure Accounted (l l' : Ledger MemoryToken) (operator : Address) (amount : Amount)
    (beneficiary : Beneficiary) (r : BondRecord) (receipt : SlashReceipt) : Prop
    extends Divides receipt r where
  operator_eq : receipt.operator = operator
  beneficiary_eq : receipt.beneficiary = beneficiary
  slashed_eq : receipt.slashed = min amount r.amount
  demoted_iff : ∃ required, l.pods.requirement r.pod = .ok required ∧
    (receipt.demoted = true ↔
      r.amount.toNat - receipt.slashed.toNat < required.current.toNat)
  removed : receipt.demoted = true →
    l'.record? operator = none ∧ l'.pods.positionOf operator = none ∧
      receipt.refunded.toNat = r.amount.toNat - receipt.slashed.toNat
  kept : receipt.demoted = false →
    l'.record? operator = some { r with amount := receipt.remaining }
  credited : ∀ receiver, beneficiary = .bond receiver → ∃ s s', l.record? receiver = some s ∧
    l'.record? receiver = some s' ∧ s'.amount.toNat = s.amount.toNat + receipt.slashed.toNat ∧
      s'.pod = s.pod ∧ s'.kind = s.kind
  record?_eq : ∀ other, other ≠ operator → beneficiary ≠ .bond other →
    l'.record? other = l.record? other
  refund_paid :
    (l'.token.balanceOf operator).toNat =
      (l.token.balanceOf operator).toNat + receipt.refunded.toNat
  reward_paid : ∀ receiver, beneficiary = .account receiver →
    (l'.token.balanceOf receiver).toNat =
      (l.token.balanceOf receiver).toNat + receipt.slashed.toNat
  balanceOf_eq : ∀ who, who ≠ l.address → who ≠ operator → beneficiary ≠ .account who →
    l'.token.balanceOf who = l.token.balanceOf who
  held_eq : l'.held.toNat + receipt.paid = l.held.toNat
  liabilities_eq : l'.liabilities + receipt.paid = l.liabilities
  totalBonded_eq : l'.totalBonded.toNat + receipt.paid = l.totalBonded.toNat

namespace Solvent

theorem credited_slash (hs : l.Solvent)
    (h : l.slash operator amount (.bond payee) = (.ok receipt, l')) :
    ∃ s s', l.record? payee = some s ∧ l'.record? payee = some s' ∧
      s'.amount.toNat = s.amount.toNat + receipt.slashed.toNat ∧ s'.pod = s.pod ∧
        s'.kind = s.kind := by
  obtain ⟨r, required, -, hr, hrefuses, -⟩ := slash_ok h
  obtain ⟨hne, hbonded⟩ := refuses?_eq_none_iff.1 hrefuses
  obtain ⟨s, hreceiver⟩ := Option.isSome_iff_exists.1 (hbonded payee rfl)
  have hother : operator ≠ payee := Ne.symm hne
  refine ⟨s, { s with amount := s.amount.satAdd receipt.slashed }, hreceiver, ?_, ?_, rfl, rfl⟩
  · rw [record?_slash_other h hother, beneficiary_slash h, if_pos rfl, hreceiver]
    rfl
  · obtain ⟨r', hr', hd, -⟩ := record?_slash_operator h
    have hfit := add_le_liabilities hother hr' hreceiver
    have hcovered := hs.liabilities_le
    have hheld := l.held.toNat_le
    have hsum := hd.sum_eq
    rw [Uint.toNat_satAdd]
    omega

theorem totalBonded_slash (hs : l.Solvent)
    (h : l.slash operator amount beneficiary = (.ok receipt, l')) :
    l'.totalBonded.toNat + receipt.paid = l.totalBonded.toNat := by
  have htotal := hs.liabilities_slash h
  have hcovered := hs.liabilities_le
  have hheld := l.held.toNat_le
  rw [toNat_totalBonded, toNat_totalBonded]
  omega

theorem balanceOf_slash_other (hs : l.Solvent)
    (h : l.slash operator amount beneficiary = (.ok receipt, l')) {who : Address}
    (hwho : who ≠ l.address) :
    (l'.token.balanceOf who).toNat = (l.token.balanceOf who).toNat + receipt.paidTo who := by
  have hbalance := (slash_pays hs.fit h).2.2 who
  rwa [if_neg hwho.symm] at hbalance

theorem held_slash (hs : l.Solvent)
    (h : l.slash operator amount beneficiary = (.ok receipt, l')) (hoperator : operator ≠ l.address)
    (hreceiver : ∀ receiver, beneficiary = .account receiver → receiver ≠ l.address) :
    l'.held.toNat + receipt.paid = l.held.toNat := by
  have hnothing : receipt.paidTo l.address = 0 := by
    apply SlashReceipt.paidTo_other
    · rw [beneficiary_slash h]
      exact fun hown => hreceiver _ hown rfl
    · rw [operator_slash h]
      exact hoperator.symm
  obtain ⟨haddress, -, hbalance⟩ := slash_pays hs.fit h
  have hown := hbalance l.address
  rw [if_pos rfl, hnothing] at hown
  show (l'.token.balanceOf l'.address).toNat + _ = (l.token.balanceOf l.address).toNat
  rw [haddress]
  exact hown

theorem accounted (ha : l.Aligned) (hs : l.Solvent)
    (h : l.slash operator amount beneficiary = (.ok receipt, l')) (hoperator : operator ≠ l.address)
    (hreceiver : ∀ receiver, beneficiary = .account receiver → receiver ≠ l.address) :
    ∃ r, l.record? operator = some r ∧ Accounted l l' operator amount beneficiary r receipt := by
  obtain ⟨r, required, -, hr, hrefuses, hrequired, hreceipt, -⟩ := slash_ok h
  obtain ⟨r', hr', hd, hafter⟩ := record?_slash_operator h
  obtain rfl : r = r' := Option.some.inj (hr.symm.trans hr')
  have hne := (refuses?_eq_none_iff.1 hrefuses).1
  have hslashed : receipt.slashed = min amount r.amount := by rw [hreceipt]; rfl
  have hpaid (who : Address) (hwho : who ≠ l.address) := hs.balanceOf_slash_other h hwho
  refine ⟨r, hr, {
    toDivides := hd
    operator_eq := operator_slash h
    beneficiary_eq := beneficiary_slash h
    slashed_eq := hslashed
    demoted_iff := ⟨required, hrequired, ?demoted⟩
    removed := ?removed
    kept := ?kept
    credited := ?credited
    record?_eq := ?record
    refund_paid := ?refund
    reward_paid := ?reward
    balanceOf_eq := ?balance
    held_eq := hs.held_slash h hoperator hreceiver
    liabilities_eq := hs.liabilities_slash h
    totalBonded_eq := hs.totalBonded_slash h }⟩
  case demoted =>
    rw [hslashed, Uint.toNat_min, hreceipt]
    simp [slashReceipt, Uint.lt_iff]
  case removed =>
    intro hdemoted
    rw [hdemoted, if_pos rfl] at hafter
    have hsum := hd.sum_eq
    have hnothing := hd.remaining_eq hdemoted
    exact ⟨hafter, (aligned_slash ha h).positionOf_eq_none hafter, by omega⟩
  case kept =>
    intro hstays
    rw [hafter, hstays]
    rfl
  case credited =>
    rintro receiver rfl
    exact hs.credited_slash h
  case record =>
    intro other hother hcredited
    rw [record?_slash_other h hother.symm, beneficiary_slash h, if_neg hcredited]
  case refund =>
    rw [hpaid operator hoperator, ← operator_slash h, SlashReceipt.paidTo_operator]
    rwa [operator_slash h, beneficiary_slash h]
  case reward =>
    rintro receiver rfl
    rw [hpaid receiver (hreceiver receiver rfl), SlashReceipt.paidTo_account (beneficiary_slash h)]
    rwa [operator_slash h]
  case balance =>
    intro who hwho hother hrewarded
    apply Uint.ext
    rw [hpaid who hwho, SlashReceipt.paidTo_other, Nat.add_zero]
    · rwa [beneficiary_slash h]
    · rwa [operator_slash h]

end Solvent

theorem slash_accounts_exact (address : Address) (token : MemoryToken) (schedule : BondSchedule)
    (hsupply : token.supply ≤ (Uint.top : Amount).toNat)
    (hallowance : (token.allowance address address).toNat = 0) (l l' : Ledger MemoryToken)
    (hrun : Relation.ReflTransGen Guarded (create address token schedule) l)
    (operator : Address) (amount : Amount) (beneficiary : Beneficiary) (receipt : SlashReceipt)
    (hoperator : operator ≠ l.address)
    (hreceiver : ∀ receiver, beneficiary = .account receiver → receiver ≠ l.address)
    (h : l.slash operator amount beneficiary = (.ok receipt, l')) :
    ∃ r, l.record? operator = some r ∧ Accounted l l' operator amount beneficiary r receipt := by
  have ha : l.Aligned := (aligned_create address token schedule).edits (edits_guarded hrun)
  have hs : l.Solvent := (solvent_create ⟨hsupply, hallowance⟩ schedule).run hrun
  exact hs.accounted ha h hoperator hreceiver

theorem demotion_pays_both_accounts :
    let token := (MemoryToken.empty.mint 1 150).approve 1 9 150
    let l := (create 9 token ⟨100, 5, 0⟩).after (.bond 1 7 150 1 .account)
    let l' := l.after (.slash 7 100 (.account 3))
    (l.slash 7 100 (.account 3)).1 = .ok ⟨7, 100, 0, 50, true, .account 3⟩ ∧
      l'.record? 7 = none ∧ (l'.token.balanceOf 3).toNat = 100 ∧
      (l'.token.balanceOf 7).toNat = 50 ∧ l'.held.toNat + 150 = l.held.toNat := by
  intro token l l'
  have hslash : (l.slash 7 100 (.account 3)).1 = .ok ⟨7, 100, 0, 50, true, .account 3⟩ := by
    decide +kernel
  have hsupply : token.supply ≤ (Uint.top : Amount).toNat := by decide +kernel
  have hallowance : (token.allowance 9 9).toNat = 0 := by decide +kernel
  have hrun : Relation.ReflTransGen Guarded (create 9 token ⟨100, 5, 0⟩) l := .single (.call _ _)
  have hoperator : 7 ≠ l.address := by decide +kernel
  have hreceiver : 3 ≠ l.address := by decide +kernel
  obtain ⟨r, -, haccounts⟩ := slash_accounts_exact 9 token ⟨100, 5, 0⟩ hsupply hallowance l l' hrun
    7 100 (.account 3) _ hoperator (fun receiver h => Beneficiary.account.inj h ▸ hreceiver)
    (Prod.ext hslash rfl)
  have hbefore : (l.token.balanceOf 3).toNat = 0 ∧ (l.token.balanceOf 7).toNat = 0 := by
    decide +kernel
  refine ⟨hslash, (haccounts.removed rfl).1, ?_, ?_, haccounts.held_eq⟩
  · rw [haccounts.reward_paid 3 rfl, hbefore.1]
    decide +kernel
  · rw [haccounts.refund_paid, hbefore.2]
    decide +kernel

end Ledger

end BondedRelay
