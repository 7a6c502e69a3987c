import BondedRelay.BasisPoints
import BondedRelay.Bond.Record
import BondedRelay.Config.Protocol

namespace BondedRelay

structure BondSchedule where
  unit : Amount
  operatorThreshold : Uint 32
  stepBps : Uint 32
  deriving DecidableEq, Repr

namespace BondSchedule

def ofProtocol (p : Protocol) : BondSchedule :=
  ⟨p.bondUnit, p.operatorThreshold, p.thresholdStepBps⟩

def doublings (pod : Uint 32) : Nat := pod.toNat - 1

def base (s : BondSchedule) (pod : Uint 32) : Amount :=
  if 256 ≤ doublings pod then .top else .clamp (s.unit.toNat <<< doublings pod)

def threshold (s : BondSchedule) (pod : Uint 32) : Uint 32 :=
  if doublings pod < 32 then s.operatorThreshold.divNat (1 <<< doublings pod) else 0

def current (s : BondSchedule) (pod : Uint 32) (base : Amount) (members : Nat) : Amount :=
  let excess := members - (s.threshold pod).toNat
  if excess = 0 then base
  else base.satAdd (BasisPoints.apply (.clamp (base.toNat * excess)) s.stepBps)

theorem toNat_threshold (s : BondSchedule) (pod : Uint 32) :
    (s.threshold pod).toNat = s.operatorThreshold.toNat >>> doublings pod := by
  unfold threshold
  rw [Nat.shiftRight_eq_div_pow]
  split
  · rw [Uint.toNat_divNat, Nat.one_shiftLeft]
  · next h =>
      have hp := Uint.limit_le_limit (Nat.le_of_not_lt h)
      exact (Nat.div_eq_of_lt (Nat.lt_of_lt_of_le s.operatorThreshold.isLt hp)).symm

theorem base_mono (s : BondSchedule) {pod other : Uint 32} (h : pod ≤ other) :
    s.base pod ≤ s.base other := by
  have hdoublings : doublings pod ≤ doublings other := Nat.sub_le_sub_right (Uint.le_iff.1 h) 1
  unfold base
  rw [Uint.le_iff]
  split
  · exact Nat.le_of_eq (congrArg Uint.toNat (if_pos (by omega)).symm)
  · split
    · rw [Uint.toNat_top]
      exact Uint.toNat_le _
    · have hshifted : s.unit.toNat <<< doublings pod ≤ s.unit.toNat <<< doublings other := by
        rw [Nat.shiftLeft_eq, Nat.shiftLeft_eq]
        exact Nat.mul_le_mul_left _ (Nat.pow_le_pow_right (by decide) hdoublings)
      rw [Uint.toNat_clamp, Uint.toNat_clamp]
      omega

theorem base_le_current (s : BondSchedule) (pod : Uint 32) (b : Amount) (m : Nat) :
    b ≤ s.current pod b m := by
  unfold current
  have := b.toNat_le
  simp only [Uint.le_iff]
  split
  · exact Nat.le_refl _
  · simp only [Uint.toNat_satAdd]
    omega

end BondSchedule

end BondedRelay
