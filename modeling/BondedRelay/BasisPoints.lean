import BondedRelay.Uint

namespace BondedRelay.BasisPoints

def denominator : Nat := 10000

def apply (value : Amount) (bps : Uint 32) : Amount :=
  (Uint.clamp (value.toNat * bps.toNat)).divNat denominator

def ceiling (embedded : Amount) (tolerance : Uint 32) : Amount :=
  apply embedded (Uint.satAdd (.wrap denominator) tolerance)

@[simp]
theorem toNat_apply (value : Amount) (bps : Uint 32) :
    (apply value bps).toNat =
      min (value.toNat * bps.toNat) (Uint.limit 256 - 1) / denominator :=
  rfl

theorem apply_mono {a b : Amount} (h : a ≤ b) (bps : Uint 32) : apply a bps ≤ apply b bps := by
  rw [Uint.le_iff] at h ⊢
  have := Nat.mul_le_mul_right bps.toNat h
  simp only [toNat_apply]
  exact Nat.div_le_div_right (by omega)

end BondedRelay.BasisPoints
