import BondedRelay.BasisPoints

namespace BondedRelay.BasisPoints

variable {value : Amount} {bps : Uint 32}

def Scalable (value : Amount) : Prop := value.toNat * denominator < Uint.limit 256

instance : DecidablePred Scalable :=
  fun value => inferInstanceAs (Decidable (value.toNat * denominator < Uint.limit 256))

theorem toNat_apply_clamp (n : Nat) (bps : Uint 32) :
    (apply (.clamp n) bps).toNat = min (n * bps.toNat) (Uint.limit 256 - 1) / denominator := by
  rw [toNat_apply, Uint.toNat_clamp]
  rcases Nat.eq_zero_or_pos bps.toNat with hzero | hpos
  · rw [hzero]
    rfl
  · rcases Nat.le_total n (Uint.limit 256 - 1) with hfits | hlarge
    · rw [Nat.min_eq_left hfits]
    · have hproduct : n ≤ n * bps.toNat := Nat.le_mul_of_pos_right n hpos
      have hcut := Nat.le_mul_of_pos_right (Uint.limit 256 - 1) hpos
      rw [Nat.min_eq_right hlarge, Nat.min_eq_right hcut,
        Nat.min_eq_right (Nat.le_trans hlarge hproduct)]

theorem le_apply_iff (h : denominator ≤ bps.toNat) : value ≤ apply value bps ↔ Scalable value := by
  have hproduct : value.toNat * denominator ≤ value.toNat * bps.toNat := Nat.mul_le_mul_left _ h
  have hlimit := Uint.limit_pos 256
  rw [Uint.le_iff, toNat_apply, Nat.le_div_iff_mul_le (by decide), Scalable]
  omega

theorem le_ceiling_iff (price : Amount) (tolerance : Uint 32) :
    price ≤ ceiling price tolerance ↔ Scalable price := by
  refine le_apply_iff ?_
  rw [Uint.toNat_satAdd, Uint.toNat_wrap]
  exact Nat.le_min.2 ⟨Nat.le_add_right .., by decide⟩

end BondedRelay.BasisPoints
