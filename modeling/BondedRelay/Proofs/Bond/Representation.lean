import BondedRelay.Proofs.Bond.Membership
import BondedRelay.Proofs.Bond.Records
import BondedRelay.Proofs.Pod.Roster

namespace BondedRelay.Ledger

inductive Move (τ : Type) where
  | call (call : Call)
  | token (token : τ)

variable {τ : Type} {l l' : Ledger τ} {who : Address} {r : BondRecord} {schedule : BondSchedule}

inductive Turnover (l : Ledger τ) : PodRegistry → Prop
  | same : l.Turnover l.pods
  | join {operator : Address} {pod : Uint 32} {pods : PodRegistry}
      (hfree : l.record? operator = none) (hjoin : l.pods.join pod operator = .ok pods) :
      l.Turnover pods
  | leave {operator : Address} {pod : Uint 32} {i : Nat}
      (hplace : l.pods.positionOf operator = some ⟨pod, i⟩)
      (hinside : l.pods.memberAt pod i = some operator) :
      l.Turnover (l.pods.leave operator)

theorem pods_updateAmount (l : Ledger τ) (operator : Address) (f : Amount → Amount) :
    (l.updateAmount operator f).pods = l.pods := rfl

theorem pods_remove (l : Ledger τ) (operator : Address) :
    (l.remove operator).pods = l.pods.leave operator := rfl

theorem pods_settle (l : Ledger τ) (receipt : SlashReceipt) :
    (l.settle receipt).pods =
      if receipt.demoted then l.pods.leave receipt.operator else l.pods := by
  have hdeduct : (l.deduct receipt).pods =
      if receipt.demoted then l.pods.leave receipt.operator else l.pods := by
    unfold deduct
    split <;> rfl
  rw [settle_eq]
  cases receipt.beneficiary with
  | account receiver => exact hdeduct
  | bond receiver => exact hdeduct

theorem pods_slash [UtilityToken τ] {operator : Address} {amount : Amount}
    {beneficiary : Beneficiary} {receipt : SlashReceipt}
    (h : l.slash operator amount beneficiary = (.ok receipt, l')) :
    l'.pods = if receipt.demoted then l.pods.leave operator else l.pods := by
  obtain ⟨token, -, hsettled⟩ := slash_settles h
  rw [hsettled, pods_settle, operator_slash h]

theorem bases_prefix_edits (h : Relation.ReflTransGen Edit l l') :
    l.pods.bases <+: l'.pods.bases := by
  induction h with
  | refl => exact List.prefix_refl _
  | tail _ hedit ih =>
      apply ih.trans
      cases hedit with
      | token token => exact List.prefix_refl _
      | amount operator f => exact List.prefix_refl _
      | remove operator => simp only [pods_remove, PodRegistry.bases_leave, List.prefix_refl]
      | join hfree hjoin => exact PodRegistry.bases_prefix_join hjoin

theorem priced_edits (hp : l.pods.Priced schedule) (h : Relation.ReflTransGen Edit l l') :
    l'.pods.Priced schedule := by
  induction h with
  | refl => exact hp
  | tail _ hedit ih =>
      cases hedit with
      | token token => exact ih
      | amount operator f => exact ih
      | remove operator => exact ih.leave operator
      | join hfree hjoin => exact ih.join hjoin

namespace Aligned

theorem position_of_record (ha : l.Aligned) (h : l.record? who = some r) :
    ∃ i, l.pods.positionOf who = some ⟨r.pod, i⟩ := by
  have hpod := ha.pod_eq who
  rw [h, Option.map_some] at hpod
  obtain ⟨⟨pod, i⟩, hposition, rfl⟩ := Option.map_eq_some_iff.1 hpod.symm
  exact ⟨i, hposition⟩

theorem record_iff_position (ha : l.Aligned) (who : Address) :
    (∃ r, l.record? who = some r) ↔ ∃ place, l.pods.positionOf who = some place := by
  rw [← Option.isSome_iff_exists, ← Option.isSome_iff_exists, ← Option.isSome_map, ha.pod_eq,
    Option.isSome_map]

theorem position_iff_member (ha : l.Aligned) (who : Address) :
    (∃ place, l.pods.positionOf who = some place) ↔ ∃ pod, who ∈ l.pods.membersOf pod := by
  constructor
  · rintro ⟨⟨pod, i⟩, hposition⟩
    exact ⟨pod, List.mem_of_getElem? ((ha.pods.positionOf_iff who pod i).1 hposition)⟩
  · rintro ⟨pod, hmember⟩
    obtain ⟨i, hposition⟩ := ha.pods.positionOf_of_mem hmember
    exact ⟨_, hposition⟩

theorem turnover_leave (ha : l.Aligned) (h : l.record? who = some r) :
    l.Turnover (l.pods.leave who) := by
  obtain ⟨i, hposition⟩ := ha.position_of_record h
  exact .leave hposition ((ha.pods.positionOf_iff who r.pod i).1 hposition)

theorem turnover_after [UtilityToken τ] (ha : l.Aligned) (call : Call) :
    l.Turnover (l.after call).pods := by
  rcases l.after_cases call with ⟨e, hrejected⟩ | haccepted
  · obtain ⟨token, hafter⟩ := after_frame hrejected
    rw [hafter]
    exact .same
  · generalize l.after call = l' at haccepted ⊢
    cases haccepted with
    | bond h =>
        obtain ⟨hfree, rfl, -, token, pods, -, hjoin, rfl⟩ := bond_ok h
        exact .join hfree hjoin
    | topUp h =>
        obtain ⟨r, token, -, -, -, rfl⟩ := topUp_ok h
        rw [pods_updateAmount]
        exact .same
    | unbond h =>
        obtain ⟨r, token, hr, -, -, -, rfl⟩ := unbond_ok h
        rw [pods_remove]
        exact ha.turnover_leave hr
    | slash h =>
        obtain ⟨r, required, paid, hr, -⟩ := slash_ok h
        rw [pods_slash h]
        split
        · exact ha.turnover_leave hr
        · exact .same

end Aligned

variable [UtilityToken τ]

def step (l : Ledger τ) : Move τ → Ledger τ
  | .call call => l.after call
  | .token token => { l with token }

def run (l : Ledger τ) (moves : List (Move τ)) : Ledger τ := moves.foldl step l

theorem edits_step (l : Ledger τ) (move : Move τ) :
    Relation.ReflTransGen Edit l (l.step move) := by
  cases move with
  | call call => exact l.edits_after call
  | token token => exact .single (.token l token)

theorem edits_run (l : Ledger τ) (moves : List (Move τ)) :
    Relation.ReflTransGen Edit l (l.run moves) := by
  induction moves generalizing l with
  | nil => exact .refl
  | cons move rest ih => exact (l.edits_step move).trans (ih (l.step move))

theorem membership_represented (address : Address) (token : τ) (schedule : BondSchedule)
    (moves : List (Move τ)) :
    let l := (create address token schedule).run moves
    (∀ who, ((∃ r, l.record? who = some r) ↔ ∃ place, l.pods.positionOf who = some place) ∧
      ((∃ place, l.pods.positionOf who = some place) ↔ who ∈ l.pods.roster)) ∧
    (∀ who r, l.record? who = some r → l.pods.roster.count who = 1 ∧
      ∃ i, l.pods.positionOf who = some ⟨r.pod, i⟩ ∧
        ∀ pod j, l.pods.memberAt pod j = some who ↔ pod = r.pod ∧ j = i) ∧
    l.pods.count < Uint.limit 32 ∧
    (∀ pod, (∃ p, l.pods.pod pod = .ok p) ↔ 1 ≤ pod.toNat ∧ pod.toNat ≤ l.pods.count) ∧
    l.pods.bases = (List.range l.pods.count).map (fun n => schedule.base (.wrap (n + 1))) ∧
    (∀ later, l.pods.bases <+: (l.run later).pods.bases) ∧
    ∀ call, l.Turnover (l.after call).pods := by
  intro l
  have hedits := edits_run (create address token schedule) moves
  have ha : l.Aligned := (aligned_create address token schedule).edits hedits
  have hp : l.pods.Priced schedule := priced_edits (PodRegistry.priced_empty schedule) hedits
  have hmember (who : Address) : (∃ place, l.pods.positionOf who = some place) ↔
      who ∈ l.pods.roster := by
    rw [PodRegistry.mem_roster_iff hp.count_lt]
    exact ha.position_iff_member who
  refine ⟨fun who => ⟨ha.record_iff_position who, hmember who⟩, ?_, hp.count_lt,
    fun pod => PodRegistry.pod_ok_iff, hp.bases_eq,
    fun later => bases_prefix_edits (l.edits_run later), ha.turnover_after⟩
  intro who r hr
  obtain ⟨i, hposition⟩ := ha.position_of_record hr
  refine ⟨?_, i, hposition, fun pod j => ?_⟩
  · exact List.count_eq_one_of_mem (ha.pods.nodup_roster hp.count_lt)
      ((hmember who).1 ⟨_, hposition⟩)
  · rw [← ha.pods.positionOf_iff, hposition]
    simp [eq_comm]

end BondedRelay.Ledger
