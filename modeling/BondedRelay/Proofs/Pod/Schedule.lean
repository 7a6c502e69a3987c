import Mathlib.Algebra.Ring.Nat
import BondedRelay.Pod.Schedule
import BondedRelay.Proofs.BasisPoints

namespace BondedRelay

theorem Uint.clamp_mono {w n m : Nat} (h : n ≤ m) : (clamp n : Uint w) ≤ clamp m := by
  rw [le_iff, toNat_clamp, toNat_clamp]
  omega

theorem Uint.satAdd_mono {w : Nat} (a : Uint w) {b c : Uint w} (h : b ≤ c) :
    a.satAdd b ≤ a.satAdd c :=
  clamp_mono (Nat.add_le_add_left (le_iff.1 h) _)

namespace BondSchedule

variable {s : BondSchedule} {pod : Uint 32} {base : Amount} {members members' : Nat}

theorem toNat_base (hunit : s.unit ≠ 0) (pod : Uint 32) :
    (s.base pod).toNat = min (s.unit.toNat * 2 ^ doublings pod) (Uint.limit 256 - 1) := by
  have hpos : 0 < s.unit.toNat := by
    refine Nat.pos_of_ne_zero fun hzero => hunit (Uint.ext ?_)
    rw [hzero, Uint.toNat_zero]
  unfold BondSchedule.base
  split
  · next hlarge =>
      have hpower : Uint.limit 256 ≤ 2 ^ doublings pod := Uint.limit_le_limit hlarge
      have hproduct : 2 ^ doublings pod ≤ s.unit.toNat * 2 ^ doublings pod :=
        Nat.le_mul_of_pos_left _ hpos
      rw [Uint.toNat_top]
      omega
  · rw [Uint.toNat_clamp, Nat.shiftLeft_eq]

def excess (s : BondSchedule) (pod : Uint 32) (members : Nat) : Nat :=
  members - (s.threshold pod).toNat

def rise (s : BondSchedule) (pod : Uint 32) (base : Amount) (members : Nat) : Amount :=
  BasisPoints.apply (.clamp (base.toNat * s.excess pod members)) s.stepBps

theorem current_eq (s : BondSchedule) (pod : Uint 32) (base : Amount) (members : Nat) :
    s.current pod base members = base.satAdd (s.rise pod base members) := by
  have hbase := base.toNat_le
  unfold current rise excess
  dsimp only
  split
  · next hexcess => exact Uint.ext (by simp [hexcess, hbase])
  · rfl

theorem rise_mono (h : members ≤ members') : s.rise pod base members ≤ s.rise pod base members' :=
  BasisPoints.apply_mono (Uint.clamp_mono (Nat.mul_le_mul_left _ (Nat.sub_le_sub_right h _))) _

theorem current_mono (h : members ≤ members') :
    s.current pod base members ≤ s.current pod base members' := by
  rw [current_eq, current_eq]
  exact base.satAdd_mono (rise_mono h)

theorem toNat_current (s : BondSchedule) (pod : Uint 32) (base : Amount) (members : Nat) :
    (s.current pod base members).toNat =
      min (base.toNat + min (base.toNat * s.excess pod members * s.stepBps.toNat)
        (Uint.limit 256 - 1) / BasisPoints.denominator) (Uint.limit 256 - 1) := by
  rw [current_eq, Uint.toNat_satAdd, rise, BasisPoints.toNat_apply_clamp]

theorem bonds_follow_schedule (s : BondSchedule) (hunit : s.unit ≠ 0) (pod : Uint 32) :
    (s.base pod).toNat = min (s.unit.toNat * 2 ^ (pod.toNat - 1)) (Uint.limit 256 - 1) ∧
      (∀ later, pod ≤ later → s.base pod ≤ s.base later) ∧
      (s.threshold pod).toNat = s.operatorThreshold.toNat / 2 ^ (pod.toNat - 1) ∧
      ∀ (base : Amount) (members : Nat),
        let excess := members - (s.threshold pod).toNat
        let product := base.toNat * excess * s.stepBps.toNat
        base ≤ s.current pod base members ∧
          (∀ members', members ≤ members' →
            s.current pod base members ≤ s.current pod base members') ∧
          (product < Uint.limit 256 → (s.current pod base members).toNat =
            min (base.toNat + product / 10000) (Uint.limit 256 - 1)) ∧
          (Uint.limit 256 ≤ product → (s.current pod base members).toNat =
            min (base.toNat + (Uint.limit 256 - 1) / 10000) (Uint.limit 256 - 1)) := by
  refine ⟨toNat_base hunit pod, fun later h => s.base_mono h, ?_, fun base members => ?_⟩
  · rw [toNat_threshold, Nat.shiftRight_eq_div_pow]
    rfl
  · intro excess product
    have hcurrent : (s.current pod base members).toNat =
      min (base.toNat + min product (Uint.limit 256 - 1) / 10000) (Uint.limit 256 - 1) :=
        s.toNat_current pod base members
    refine ⟨s.base_le_current pod base members, fun members' h => current_mono h, fun hfits => ?_,
      fun hlarge => ?_⟩
    · rw [hcurrent, Nat.min_eq_left (Nat.le_sub_one_of_lt hfits)]
    · rw [hcurrent, Nat.min_eq_right (Nat.le_trans (Nat.sub_le ..) hlarge)]

theorem third_pod_bonds_follow_schedule :
    let s : BondSchedule := ⟨100, 4, 1000⟩
    s.unit ≠ 0 ∧ (s.base 3).toNat = 400 ∧ (s.base 3) ≤ s.base 300 ∧
      (s.threshold 3).toNat = 1 ∧ (s.current 3 400 3).toNat = 480 := by
  intro s
  have hunit : s.unit ≠ 0 := by decide
  obtain ⟨hbase, hlater, hthreshold, hcurrent⟩ := bonds_follow_schedule s hunit 3
  obtain ⟨-, -, hexact, -⟩ := hcurrent 400 3
  exact ⟨hunit, hbase.trans (by decide +kernel), hlater 300 (by decide),
    hthreshold.trans (by decide +kernel), (hexact (by decide +kernel)).trans (by decide +kernel)⟩

end BondSchedule

end BondedRelay
