import Mathlib.Logic.Relation
import BondedRelay.Proofs.Bond.Operations
import BondedRelay.Proofs.Pod.Membership

namespace BondedRelay.Ledger

variable {τ : Type} {l l' : Ledger τ} {operator member : Address} {pod : Uint 32} {r : BondRecord}

inductive Edit : Ledger τ → Ledger τ → Prop
  | token (l : Ledger τ) (token : τ) : Edit l { l with token }
  | amount (l : Ledger τ) (operator : Address) (f : Amount → Amount) :
      Edit l (l.updateAmount operator f)
  | remove (l : Ledger τ) (operator : Address) : Edit l (l.remove operator)
  | join {l : Ledger τ} {operator : Address} {r : BondRecord} {pods : PodRegistry}
      (hfree : l.record? operator = none) (hjoin : l.pods.join r.pod operator = .ok pods) :
      Edit l { l with pods, bonds := l.bonds.set operator r }

theorem edits_settle (l : Ledger τ) (receipt : SlashReceipt) :
    Relation.ReflTransGen Edit l (l.settle receipt) := by
  have hdeduct : Edit l (l.deduct receipt) := by
    unfold deduct
    split
    · exact .remove ..
    · exact .amount ..
  rw [settle_eq]
  cases receipt.beneficiary with
  | account receiver => exact .single hdeduct
  | bond receiver => exact (Relation.ReflTransGen.single hdeduct).tail (.amount ..)

theorem edits_after [UtilityToken τ] (l : Ledger τ) (call : Call) :
    Relation.ReflTransGen Edit l (l.after call) := by
  have htoken (token : τ) : Relation.ReflTransGen Edit l { l with token } :=
    .single (.token l token)
  rcases l.after_cases call with ⟨e, hrejected⟩ | haccepted
  · obtain ⟨token, hafter⟩ := after_frame hrejected
    exact hafter ▸ htoken token
  · generalize l.after call = l' at haccepted ⊢
    cases haccepted with
    | bond h =>
        obtain ⟨hfree, rfl, -, token, pods, -, hjoin, rfl⟩ := bond_ok h
        exact (htoken token).tail (.join (l := { l with token }) hfree hjoin)
    | @topUp _ operator _ updated _ h =>
        obtain ⟨r, token, -, -, -, rfl⟩ := topUp_ok h
        exact (htoken token).tail (.amount { l with token } operator fun _ => updated)
    | unbond h =>
        obtain ⟨r, token, -, -, -, -, rfl⟩ := unbond_ok h
        exact (htoken token).tail (.remove ..)
    | slash h =>
        obtain ⟨token, -, rfl⟩ := slash_settles h
        exact (htoken token).trans (edits_settle ..)

theorem count_le_edit (h : Edit l l') : l.pods.count ≤ l'.pods.count := by
  cases h with
  | token token => exact Nat.le_refl _
  | amount operator f => exact Nat.le_refl _
  | remove operator => exact Nat.le_of_eq (l.pods.count_leave operator).symm
  | join hfree hjoin => exact PodRegistry.count_le_join hjoin

theorem count_le_edits (h : Relation.ReflTransGen Edit l l') : l.pods.count ≤ l'.pods.count := by
  induction h with
  | refl => exact Nat.le_refl _
  | tail _ hedit ih => exact Nat.le_trans ih (count_le_edit hedit)

structure Aligned (l : Ledger τ) : Prop where
  pods : l.pods.Aligned
  pod_eq : ∀ operator,
    (l.record? operator).map BondRecord.pod = (l.pods.positionOf operator).map Position.pod

theorem aligned_create (address : Address) (token : τ) (schedule : BondSchedule) :
    (create address token schedule).Aligned :=
  ⟨PodRegistry.aligned_empty schedule, fun _ => rfl⟩

namespace Aligned

theorem positionOf_eq_none (ha : l.Aligned) (h : l.record? operator = none) :
    l.pods.positionOf operator = none := by
  have hpod := ha.pod_eq operator
  rw [h, Option.map_none] at hpod
  exact Option.map_eq_none_iff.1 hpod.symm

theorem edit (ha : l.Aligned) (h : Edit l l') : l'.Aligned := by
  cases h with
  | token token => exact ⟨ha.pods, ha.pod_eq⟩
  | amount operator f =>
      refine ⟨ha.pods, fun other => ?_⟩
      show _ = (l.pods.positionOf other).map Position.pod
      rw [record?_updateAmount, ← ha.pod_eq]
      split
      · rw [Option.map_map]
        rfl
      · rfl
  | remove operator =>
      refine ⟨ha.pods.leave operator, fun other => ?_⟩
      show _ = ((l.pods.leave operator).positionOf other).map Position.pod
      rw [record?_remove, ha.pods.pod_positionOf_leave, ← ha.pod_eq]
      split <;> rfl
  | @join operator r pods hfree hjoin =>
      refine ⟨ha.pods.join (ha.positionOf_eq_none hfree) hjoin, fun other => ?_⟩
      show ((l.bonds.set operator r).find? other).map _ = (pods.positionOf other).map _
      rw [Table.find?_set, PodRegistry.positionOf_join hjoin]
      split
      · rfl
      · exact ha.pod_eq other

theorem edits (ha : l.Aligned) (h : Relation.ReflTransGen Edit l l') : l'.Aligned := by
  induction h with
  | refl => exact ha
  | tail _ hedit ih => exact ih.edit hedit

theorem record_of_mem (ha : l.Aligned) (h : member ∈ l.pods.membersOf pod) :
    ∃ r, l.record? member = some r ∧ r.pod = pod := by
  obtain ⟨i, hposition⟩ := ha.pods.positionOf_of_mem h
  have hpod := ha.pod_eq member
  rw [hposition, Option.map_some] at hpod
  exact Option.map_eq_some_iff.1 hpod

theorem exists_of_record (ha : l.Aligned) (h : l.record? operator = some r) :
    l.pods.exists? r.pod = true := by
  have hpod := ha.pod_eq operator
  rw [h, Option.map_some] at hpod
  obtain ⟨⟨pod, i⟩, hposition, rfl⟩ := Option.map_eq_some_iff.1 hpod.symm
  exact ha.pods.exists? hposition

end Aligned

end BondedRelay.Ledger
