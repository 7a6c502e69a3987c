import Mathlib.Control.Monad.Basic
import BondedRelay.Proofs.Dispatch.Retries
import BondedRelay.Rehearsal.World

namespace BondedRelay.Submission

variable {config : RetryConfig} {price : Amount}

theorem toNat_raised {bps : Uint 32}
    (hfits : price.toNat * bps.toNat < Uint.limit 256)
    (hwhole : BasisPoints.denominator ≤ bps.toNat) :
    (max (BasisPoints.apply price bps) (price.satAdd 1)).toNat =
      max (price.toNat * bps.toNat / BasisPoints.denominator) (price.toNat + 1) := by
  have hone : (1 : Amount).toNat = 1 := by decide
  have hscaled : price.toNat * BasisPoints.denominator ≤ price.toNat * bps.toNat :=
    Nat.mul_le_mul_left _ hwhole
  have hsum : min (price.toNat + 1) (Uint.limit 256 - 1) = price.toNat + 1 := by
    unfold BasisPoints.denominator at hscaled
    have hlarge : 10000 ≤ Uint.limit 256 := by decide
    omega
  rw [Uint.toNat_max, Uint.toNat_satAdd, BasisPoints.toNat_apply, hone, hsum,
    Nat.min_eq_left (Nat.le_sub_one_of_lt hfits)]

theorem raisedPrice?_eq_some_iff (hfits : price.toNat * factor config < Uint.limit 256)
    {raised : Amount} :
    raisedPrice? config price = some raised ↔ factor config < Uint.limit 32 ∧
      raised.toNat = max (price.toNat * factor config / BasisPoints.denominator)
        (price.toNat + 1) := by
  rcases Nat.lt_or_ge (factor config) (Uint.limit 32) with hsmall | hlarge
  · obtain ⟨bps, hbps⟩ : ∃ bps : Uint 32, factor config = bps.toNat := ⟨⟨_, hsmall⟩, rfl⟩
    have hwhole : BasisPoints.denominator ≤ bps.toNat := hbps ▸ Nat.le_add_right ..
    rw [raisedPrice?, hbps, Uint.ofNat?_toNat, Option.map_some, Option.some.injEq, Uint.ext_iff]
    rw [hbps] at hfits hsmall
    rw [toNat_raised hfits hwhole]
    exact ⟨fun h => ⟨hsmall, h.symm⟩, fun h => h.2.symm⟩
  · rw [raisedPrice?_eq_none_iff.2 hlarge]
    exact ⟨fun h => (Option.some_ne_none _ h.symm).elim,
      fun h => absurd h.1 (Nat.not_lt_of_le hlarge)⟩

section Submitted

variable {σ : Type} [TxSubmitter σ] {destination : Uint 32} {payload : Payload} {fee : Amount}
  {calls before : List TxCall} {result : Except Halt Hash} {q : DispatchRequest} {text : String}

theorem Conversation.last_of_tooLow
    (h : Conversation config destination payload fee calls result)
    (hcalls : calls = before ++ [.submit q (.error (.feeTooLow text))]) :
    (TxCall.requests calls).length = attempts config ∨
      result = .error .panicked ∧ Uint.limit 32 ≤ factor config := by
  subst hcalls
  cases h.ends.settles with
  | told hverdict => simp [TxCall.verdict?, ChainError.isTransient] at hverdict
  | exhausted hmade htransient => exact .inl hmade
  | overflowed hmade hlarge => exact .inr ⟨rfl, hlarge⟩

theorem prices_rise_by_share_unless_overflowed (config : RetryConfig) (world : σ)
    (destination : Uint 32) (payload : Payload) (fee : Amount) :
    let s := submit config world destination payload fee
    let factor := 10000 + config.priceBumpBps.toNat
    (∀ price raised : Amount, price.toNat * factor < Uint.limit 256 →
      (raisedPrice? config price = some raised ↔ factor < Uint.limit 32 ∧
        raised.toNat = max (price.toNat * factor / 10000) (price.toNat + 1))) ∧
    (∀ price, raisedPrice? config price = none ↔ Uint.limit 32 ≤ factor) ∧
    ∃ calls, submit config (⟨world, []⟩ : Overheard σ) destination payload fee =
        ⟨s.result, s.requests, s.retries, ⟨s.world, calls⟩⟩ ∧
      TxCall.requests calls = s.requests ∧
      ∀ before q text after, calls = before ++ .submit q (.error (.feeTooLow text)) :: after →
        (after = [] ∧ s.requests.length = max 1 config.maxAttempts.toNat) ∨
        (after = [] ∧ s.result = .error .panicked ∧ Uint.limit 32 ≤ factor) ∨
        ∃ txGasPrice answer later, raisedPrice? config q.txGasPrice = some txGasPrice ∧
          after = .submit { q with txGasPrice } answer :: later := by
  intro s factor
  refine ⟨fun price raised hfits => raisedPrice?_eq_some_iff hfits,
    fun price => raisedPrice?_eq_none_iff, ?_⟩
  have hsubmits : Submits config world destination payload fee s := submits ..
  obtain ⟨calls, hsubmit, hrequests, hconversation⟩ := hsubmits.overheard
  refine ⟨calls, hsubmit, hrequests, fun before q text after hcalls => ?_⟩
  cases hconversation.mends before q _ after hcalls with
  | stops =>
      rcases hconversation.last_of_tooLow hcalls with hspent | hpanicked
      · exact .inl ⟨rfl, hrequests ▸ hspent⟩
      · exact .inr (.inl ⟨rfl, hpanicked⟩)
  | raised hprice => exact .inr (.inr ⟨_, _, _, hprice, rfl⟩)

theorem largest_bump_panics :
    let config : RetryConfig := ⟨2, 0, .top⟩
    let world : ScriptedWorld :=
      { name := "", destinationGasPrices := ⟨.ok 0, []⟩, simulations := ⟨.ok (.left 0), []⟩,
        fees := ⟨.ok ⟨0, 0⟩, []⟩, sourceGasPrices := ⟨.ok 100, []⟩, nonces := ⟨.ok 3, []⟩,
        submissions := ⟨.error (.feeTooLow "underpriced"), [.ok 7]⟩, calls := [] }
    let s := submit config world 10 ⟨1, 0, 0, [], 100000, 10⟩ 0
    config.isValid = true ∧ 100 * (10000 + config.priceBumpBps.toNat) / 10000 = 42949772 ∧
      s.requests.map DispatchRequest.txGasPrice = [100] ∧ s.result = .error .panicked := by
  decide +kernel

end Submitted

end BondedRelay.Submission
