import BondedRelay.Config.Gas
import BondedRelay.Proofs.BasisPoints

namespace BondedRelay.GasConfig

open BasisPoints

variable {c : GasConfig}

structure Accepted (c : GasConfig) : Prop where
  allowance_pos : 0 < c.simulationAllowance.toNat
  gas_margin : denominator ≤ c.gasMarginBps.toNat
  price_multiplier : denominator ≤ c.priceMultiplierBps.toNat
  fee_margin : denominator ≤ c.feeMarginBps.toNat

theorem fault?_eq_none_iff : c.fault? = none ↔ c.Accepted := by
  constructor
  · intro h
    unfold fault? at h
    split at h
    · cases h
    · split at h
      · cases h
      · split at h
        · cases h
        · split at h
          · cases h
          · constructor <;> omega
  · rintro ⟨hallowance, hgas, hprice, hfee⟩
    rw [fault?, if_neg (Nat.ne_of_gt hallowance), if_neg (Nat.not_lt_of_le hgas),
      if_neg (Nat.not_lt_of_le hprice), if_neg (Nat.not_lt_of_le hfee)]

theorem toNat_paddedGas (c : GasConfig) (used : Uint 64) :
    (c.paddedGas used).toNat =
      min (used.toNat * c.gasMarginBps.toNat / denominator) (Uint.limit 64 - 1) := rfl

theorem le_paddedGas (h : denominator ≤ c.gasMarginBps.toNat) (used : Uint 64) :
    used ≤ c.paddedGas used := by
  have hproduct : used.toNat * denominator ≤ used.toNat * c.gasMarginBps.toNat :=
    Nat.mul_le_mul_left _ h
  rw [Uint.le_iff, toNat_paddedGas]
  exact Nat.le_min.2 ⟨(Nat.le_div_iff_mul_le (by decide)).2 hproduct, used.toNat_le⟩

theorem paddedGas_mono (c : GasConfig) {used used' : Uint 64} (h : used ≤ used') :
    c.paddedGas used ≤ c.paddedGas used' := by
  have hproduct := Nat.mul_le_mul_right c.gasMarginBps.toNat (Uint.le_iff.1 h)
  have hquotient := Nat.div_le_div_right (c := denominator) hproduct
  rw [Uint.le_iff, toNat_paddedGas, toNat_paddedGas]
  omega

theorem le_destinationPrice_iff {price observed : Amount} :
    price ≤ c.destinationPrice observed ↔
      price ≤ apply observed c.priceMultiplierBps ∨
        ∃ floor, c.minGasPrice = some floor ∧ price ≤ floor := by
  unfold destinationPrice
  cases c.minGasPrice with
  | none => simp
  | some floor =>
      simp only [Uint.le_iff, Uint.toNat_max, Option.some.injEq, exists_eq_left']
      omega

theorem destinationPrice_mono (c : GasConfig) {observed observed' : Amount}
    (h : observed ≤ observed') : c.destinationPrice observed ≤ c.destinationPrice observed' := by
  rcases le_destinationPrice_iff.1 (Nat.le_refl (c.destinationPrice observed).toNat) with
    hscaled | hfloor
  · exact le_destinationPrice_iff.2
      (.inl (Nat.le_trans hscaled (apply_mono h c.priceMultiplierBps)))
  · exact le_destinationPrice_iff.2 (.inr hfloor)

theorem margins_never_shrink_scalable (c : GasConfig) (haccepted : c.fault? = none) :
    (∀ used, used ≤ c.paddedGas used) ∧
      (∀ observed, observed ≤ c.destinationPrice observed ↔
        Scalable observed ∨ ∃ floor, c.minGasPrice = some floor ∧ observed ≤ floor) ∧
      (∀ floor, c.minGasPrice = some floor → ∀ observed, floor ≤ c.destinationPrice observed) ∧
      (∀ quoted, quoted ≤ c.feeWithMargin quoted ↔ Scalable quoted) ∧
      (∀ used used', used ≤ used' → c.paddedGas used ≤ c.paddedGas used') ∧
      (∀ observed observed', observed ≤ observed' →
        c.destinationPrice observed ≤ c.destinationPrice observed') ∧
      ∀ quoted quoted', quoted ≤ quoted' → c.feeWithMargin quoted ≤ c.feeWithMargin quoted' := by
  obtain ⟨-, hgas, hprice, hfee⟩ := fault?_eq_none_iff.1 haccepted
  refine ⟨le_paddedGas hgas, fun observed => ?_, fun floor hfloor observed => ?_,
    fun quoted => le_apply_iff hfee, fun used used' h => c.paddedGas_mono h,
    fun observed observed' h => c.destinationPrice_mono h, fun quoted quoted' h => apply_mono h _⟩
  · rw [le_destinationPrice_iff, le_apply_iff hprice]
  · exact le_destinationPrice_iff.2 (.inr ⟨floor, hfloor, Nat.le_refl _⟩)

theorem largest_scalable_figure_kept :
    let figure : Amount := Uint.top.divNat denominator
    evmDefault.fault? = none ∧ figure ≤ evmDefault.destinationPrice figure ∧
      figure ≤ evmDefault.feeWithMargin figure := by
  intro figure
  have haccepted : evmDefault.fault? = none := by decide
  have hscalable : Scalable figure := by decide +kernel
  obtain ⟨-, hprice, -, hfee, -⟩ := margins_never_shrink_scalable evmDefault haccepted
  exact ⟨haccepted, (hprice figure).2 (.inl hscalable), (hfee figure).2 hscalable⟩

theorem largest_figures_shrink :
    evmDefault.fault? = none ∧ evmDefault.destinationPrice .top < .top ∧
      evmDefault.feeWithMargin .top < .top := by
  decide +kernel

end BondedRelay.GasConfig
