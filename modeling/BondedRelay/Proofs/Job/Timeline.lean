import BondedRelay.Proofs.Job.Window

namespace BondedRelay

variable {r : JobRecord} {now later windowDuration : Uint 64} {k : Nat}

theorem Window.seconds_of_pos (h : 1 ≤ windowDuration.toNat) :
    Window.seconds windowDuration = windowDuration.toNat := Nat.max_eq_left h

namespace JobDetails

theorem toNat_fallbackWindowStart (hlong : 1 ≤ windowDuration.toNat)
    (hfits : r.assignedAt.toNat + windowDuration.toNat * (r.fallbacks.length + 1) ≤
      (Uint.top : Uint 64).toNat) (hk : k ≤ r.fallbacks.length + 1) :
    ((ofRecord r windowDuration).fallbackWindowStart k).toNat =
      r.assignedAt.toNat + k * Window.seconds windowDuration := by
  have hstart : windowDuration.toNat * k ≤ windowDuration.toNat * (r.fallbacks.length + 1) :=
    Nat.mul_le_mul_left _ hk
  rw [Uint.toNat_top] at hfits
  rw [Window.seconds_of_pos hlong, Nat.mul_comm k]
  simp only [fallbackWindowStart, ofRecord, Uint.toNat_satAdd, Uint.toNat_clamp]
  omega

theorem windowsLapsed_iff (hlong : 1 ≤ windowDuration.toNat)
    (hfits : r.assignedAt.toNat + windowDuration.toNat * (r.fallbacks.length + 1) ≤
      (Uint.top : Uint 64).toNat) :
    (ofRecord r windowDuration).windowsLapsed now = true ↔
      WindowPhase.Spans r windowDuration now.toNat .exhausted := by
  have hend := toNat_fallbackWindowStart hlong hfits (Nat.le_refl _)
  simp only [windowsLapsed, Bool.and_eq_true, decide_eq_true_eq, Uint.le_iff]
  rw [show (ofRecord r windowDuration).fallbacks = r.fallbacks from rfl, hend]
  exact Iff.rfl

end JobDetails

namespace WindowPhase

def rank (fallbacks : Nat) : WindowPhase → Nat
  | .unassigned => 0
  | .primary => 0
  | .fallback k => k
  | .exhausted => fallbacks + 1

theorem rank_at (hassigned : r.primary ≠ 0) (now windowDuration : Uint 64) :
    rank r.fallbacks.length (at_ r now windowDuration) =
      min (passed r now windowDuration) (r.fallbacks.length + 1) := by
  rw [at_eq, if_neg hassigned]
  split
  · next hnone => rw [hnone, Nat.zero_min, rank]
  · split
    · next hlast => rw [Nat.min_eq_left (Nat.le_succ_of_le hlast), rank]
    · next hlast => rw [Nat.min_eq_right (Nat.lt_of_not_le hlast), rank]

theorem passed_mono (h : now ≤ later) :
    passed r now windowDuration ≤ passed r later windowDuration :=
  Nat.div_le_div_right (Nat.sub_le_sub_right (Uint.le_iff.1 h) _)

theorem rank_at_mono (hassigned : r.primary ≠ 0) (h : now ≤ later) :
    rank r.fallbacks.length (at_ r now windowDuration) ≤
      rank r.fallbacks.length (at_ r later windowDuration) := by
  have hpassed : passed r now windowDuration ≤ passed r later windowDuration := passed_mono h
  rw [rank_at hassigned, rank_at hassigned]
  omega

theorem windows_divide_time (r : JobRecord) (windowDuration : Uint 64) (hassigned : r.primary ≠ 0)
    (hlong : 1 ≤ windowDuration.toNat)
    (hfits : r.assignedAt.toNat + windowDuration.toNat * (r.fallbacks.length + 1) ≤
      (Uint.top : Uint 64).toNat) (now : Uint 64) :
    let details := JobDetails.ofRecord r windowDuration
    let phase := at_ r now windowDuration
    phase ≠ .unassigned ∧
      (phase = .primary ↔ now < details.fallbackWindowStart 1) ∧
      (∀ k, phase = .fallback k ↔ 1 ≤ k ∧ k ≤ r.fallbacks.length ∧
        details.fallbackWindowStart k ≤ now ∧ now < details.fallbackWindowStart (k + 1)) ∧
      (phase = .exhausted ↔ details.windowsLapsed now = true) ∧
      ∀ later, now ≤ later →
        rank r.fallbacks.length phase ≤ rank r.fallbacks.length (at_ r later windowDuration) := by
  intro details phase
  have hstart {k : Nat} (hk : k ≤ r.fallbacks.length + 1) :
      (details.fallbackWindowStart k).toNat =
        r.assignedAt.toNat + k * Window.seconds windowDuration :=
    JobDetails.toNat_fallbackWindowStart hlong hfits hk
  refine ⟨fun hopen => hassigned (at_eq_iff.1 hopen), ?_, fun k => ?_, ?_,
    fun later => rank_at_mono hassigned⟩
  · rw [at_eq_iff, Uint.lt_iff, hstart (Nat.le_add_left ..), Nat.one_mul]
    exact and_iff_right hassigned
  · rw [at_eq_iff, Uint.le_iff, Uint.lt_iff]
    constructor
    · rintro ⟨-, hfirst, hlast, hfrom, hupto⟩
      rw [hstart (by omega), hstart (by omega)]
      exact ⟨hfirst, hlast, hfrom, hupto⟩
    · rintro ⟨hfirst, hlast, hfrom, hupto⟩
      rw [hstart (by omega)] at hfrom hupto
      exact ⟨hassigned, hfirst, hlast, hfrom, hupto⟩
  · rw [at_eq_iff]
    exact (JobDetails.windowsLapsed_iff hlong hfits).symm

theorem lone_fallback_window_at_end_of_time :
    let r : JobRecord :=
      ⟨1, 5, 1, 7, 0, .satSub .top 120, [0], 0, 0, .pending⟩
    r.primary ≠ 0 ∧ 1 ≤ (60 : Uint 64).toNat ∧
      r.assignedAt.toNat + (60 : Uint 64).toNat * (r.fallbacks.length + 1) ≤
        (Uint.top : Uint 64).toNat ∧
      at_ r (.satSub .top 1) 60 = .fallback 1 ∧ at_ r .top 60 = .exhausted := by
  intro r
  have hassigned : r.primary ≠ 0 := by decide
  have hlong : 1 ≤ (60 : Uint 64).toNat := by decide
  have hfits : r.assignedAt.toNat + (60 : Uint 64).toNat * (r.fallbacks.length + 1) ≤
      (Uint.top : Uint 64).toNat := by decide
  have hbefore := windows_divide_time r 60 hassigned hlong hfits (.satSub .top 1)
  have hafter := windows_divide_time r 60 hassigned hlong hfits .top
  exact ⟨hassigned, hlong, hfits, (hbefore.2.2.1 1).2 (by decide), hafter.2.2.2.1.2 (by decide)⟩

end WindowPhase

end BondedRelay
