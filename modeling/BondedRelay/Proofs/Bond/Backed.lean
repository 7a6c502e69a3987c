import BondedRelay.Proofs.Bond.Representation

namespace BondedRelay.Ledger

variable {τ : Type} {l l' : Ledger τ} {schedule : BondSchedule}
  {payer caller operator recipient : Address} {amount : Amount} {pod : Uint 32}
  {kind : OperatorKind} {beneficiary : Beneficiary} {r : BondRecord} {receipt : SlashReceipt}

structure Backed (l : Ledger τ) (schedule : BondSchedule) : Prop where
  aligned : l.Aligned
  priced : l.pods.Priced schedule
  base_le : ∀ operator r, l.record? operator = some r → schedule.base r.pod ≤ r.amount

theorem backed_create (address : Address) (token : τ) (schedule : BondSchedule) :
    (create address token schedule).Backed schedule :=
  ⟨aligned_create address token schedule, PodRegistry.priced_empty schedule,
    fun _ _ hr => by cases hr⟩

namespace Backed

theorem pod_of_record (hb : l.Backed schedule) (hr : l.record? operator = some r) :
    ∃ p, l.pods.pod r.pod = .ok p ∧ p.base = schedule.base r.pod ∧ p.base ≤ r.amount := by
  obtain ⟨p, hp⟩ := PodRegistry.pod_of_exists (hb.aligned.exists_of_record hr)
  have hbase := hb.priced.base_eq hp
  exact ⟨p, hp, hbase, hbase ▸ hb.base_le operator r hr⟩

theorem edits (hb : l.Backed schedule) (h : Relation.ReflTransGen Edit l l')
    (hbase : ∀ operator r, l'.record? operator = some r → schedule.base r.pod ≤ r.amount) :
    l'.Backed schedule :=
  ⟨hb.aligned.edits h, priced_edits hb.priced h, hbase⟩

theorem token (hb : l.Backed schedule) (token : τ) :
    ({ l with token } : Ledger τ).Backed schedule :=
  hb.edits (.single (.token l token)) hb.base_le

theorem base_le_raised (hb : l.Backed schedule) {other : Address} {s : BondRecord}
    (hs : (l.record? other).map (fun r => { r with amount := r.amount.satAdd amount }) = some s) :
    schedule.base s.pod ≤ s.amount := by
  obtain ⟨r, hr, rfl⟩ := Option.map_eq_some_iff.1 hs
  have hbase := Uint.le_iff.1 (hb.base_le other r hr)
  have hbound := r.amount.toNat_le
  show (schedule.base r.pod).toNat ≤ (r.amount.satAdd amount).toNat
  rw [Uint.toNat_satAdd]
  omega

variable [UtilityToken τ]

theorem base_le_bond (hb : l.Backed schedule)
    (h : l.bond payer operator amount pod kind = (.ok r, l')) (other : Address) (s : BondRecord)
    (hs : l'.record? other = some s) : schedule.base s.pod ≤ s.amount := by
  obtain ⟨-, rfl, ⟨required, hrequired, hpaid⟩, -⟩ := bond_ok h
  rw [record?_bond h] at hs
  split at hs
  · obtain rfl := Option.some.inj hs
    exact Nat.le_trans (hb.priced.le_of_entryRequirement hrequired) hpaid
  · exact hb.base_le other s hs

theorem base_le_topUp {updated : Amount} (hb : l.Backed schedule)
    (h : l.topUp payer operator amount = (.ok updated, l')) (other : Address) (s : BondRecord)
    (hs : l'.record? other = some s) : schedule.base s.pod ≤ s.amount := by
  rw [record?_topUp h] at hs
  split at hs
  · exact hb.base_le_raised hs
  · exact hb.base_le other s hs

theorem base_le_unbond {paid : Amount} (hb : l.Backed schedule)
    (h : l.unbond caller operator recipient = (.ok paid, l')) (other : Address) (s : BondRecord)
    (hs : l'.record? other = some s) : schedule.base s.pod ≤ s.amount := by
  rw [record?_unbond h] at hs
  split at hs
  · cases hs
  · exact hb.base_le other s hs

theorem base_le_slash (hb : l.Backed schedule)
    (h : l.slash operator amount beneficiary = (.ok receipt, l')) (other : Address) (s : BondRecord)
    (hs : l'.record? other = some s) : schedule.base s.pod ≤ s.amount := by
  by_cases hother : operator = other
  · subst hother
    obtain ⟨r, required, paid, hr, -, hrequired, hreceipt, -⟩ := slash_ok h
    obtain ⟨r', hr', -, hafter⟩ := record?_slash_operator h
    obtain rfl : r = r' := Option.some.inj (hr.symm.trans hr')
    rw [hafter] at hs
    split at hs
    · cases hs
    · next hstays =>
        obtain rfl := Option.some.inj hs
        obtain ⟨p, -, -, hbase, hle⟩ := hb.priced.requirement_ok hrequired
        rw [hreceipt] at hstays ⊢
        exact Nat.le_trans (hbase ▸ hle) (current_le_remaining (by simpa using hstays))
  · rw [record?_slash_other h hother] at hs
    split at hs
    · exact hb.base_le_raised hs
    · exact hb.base_le other s hs

theorem after (hb : l.Backed schedule) (call : Call) : (l.after call).Backed schedule := by
  refine hb.edits (l.edits_after call) ?_
  rcases l.after_cases call with ⟨e, hrejected⟩ | haccepted
  · obtain ⟨token, hafter⟩ := after_frame hrejected
    rw [hafter]
    exact hb.base_le
  · generalize l.after call = l' at haccepted ⊢
    cases haccepted with
    | bond h => exact hb.base_le_bond h
    | topUp h => exact hb.base_le_topUp h
    | unbond h => exact hb.base_le_unbond h
    | slash h => exact hb.base_le_slash h

theorem slashed_eq (hb : l.Backed schedule) {p : Pod} (hp : l.pods.pod pod = .ok p)
    (h : l.slash operator p.base beneficiary = (.ok receipt, l')) :
    ∃ r, l.record? operator = some r ∧ receipt.slashed = min p.base r.amount ∧
      (pod ≤ r.pod → receipt.slashed = p.base) := by
  obtain ⟨r, required, paid, hr, -, -, hreceipt, -⟩ := slash_ok h
  have hslashed : receipt.slashed = min p.base r.amount := by rw [hreceipt]; rfl
  refine ⟨r, hr, hslashed, fun hdearer => ?_⟩
  have hbase : p.base ≤ r.amount := by
    rw [hb.priced.base_eq hp]
    exact Nat.le_trans (schedule.base_mono hdearer) (hb.base_le operator r hr)
  rw [hslashed]
  exact if_pos hbase

end Backed

end BondedRelay.Ledger
