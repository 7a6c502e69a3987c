import BondedRelay.Job.Window

namespace BondedRelay

namespace Window

def seconds (windowDuration : Uint 64) : Nat := max windowDuration.toNat 1

theorem seconds_pos (windowDuration : Uint 64) : 0 < seconds windowDuration :=
  Nat.lt_of_lt_of_le Nat.one_pos (Nat.le_max_right ..)

end Window

namespace WindowPhase

variable {r : JobRecord} {now windowDuration : Uint 64}

def passed (r : JobRecord) (now windowDuration : Uint 64) : Nat :=
  (now.toNat - r.assignedAt.toNat) / Window.seconds windowDuration

theorem le_passed_iff {k : Nat} (h : 1 ≤ k) :
    k ≤ passed r now windowDuration ↔
      r.assignedAt.toNat + k * Window.seconds windowDuration ≤ now.toNat := by
  have hpos : 0 < k * Window.seconds windowDuration :=
    Nat.mul_pos h (Window.seconds_pos windowDuration)
  unfold passed
  rw [Nat.le_div_iff_mul_le (Window.seconds_pos windowDuration)]
  omega

def Spans (r : JobRecord) (windowDuration : Uint 64) (now : Nat) : WindowPhase → Prop
  | .unassigned => r.primary = 0
  | .primary => r.primary ≠ 0 ∧ now < r.assignedAt.toNat + Window.seconds windowDuration
  | .fallback k => r.primary ≠ 0 ∧ 1 ≤ k ∧ k ≤ r.fallbacks.length ∧
      r.assignedAt.toNat + k * Window.seconds windowDuration ≤ now ∧
      now < r.assignedAt.toNat + (k + 1) * Window.seconds windowDuration
  | .exhausted => r.primary ≠ 0 ∧
      r.assignedAt.toNat + (r.fallbacks.length + 1) * Window.seconds windowDuration ≤ now

theorem at_eq (r : JobRecord) (now windowDuration : Uint 64) :
    at_ r now windowDuration =
      if r.primary = 0 then .unassigned
      else if passed r now windowDuration = 0 then .primary
      else if passed r now windowDuration ≤ r.fallbacks.length then
        .fallback (passed r now windowDuration)
      else .exhausted := by
  simp only [at_, JobRecord.isOpen, decide_eq_true_eq]
  rfl

theorem at_eq_iff {phase : WindowPhase} :
    at_ r now windowDuration = phase ↔ Spans r windowDuration now.toNat phase := by
  rw [at_eq]
  by_cases hopen : r.primary = 0
  · cases phase <;> simp [Spans, hopen]
  · have hle {k : Nat} (h : 1 ≤ k) : k ≤ passed r now windowDuration ↔
        r.assignedAt.toNat + k * Window.seconds windowDuration ≤ now.toNat := le_passed_iff h
    generalize passed r now windowDuration = n at hle ⊢
    simp only [if_neg hopen]
    cases phase with
    | unassigned =>
        simp only [Spans, hopen, iff_false]
        split
        · simp
        · split <;> simp
    | primary =>
        have hfirst := hle (Nat.le_refl 1)
        rw [Nat.one_mul] at hfirst
        simp only [Spans, ne_eq, hopen, not_false_eq_true, true_and]
        split
        · simp only [true_iff]
          omega
        · split <;> simp only [reduceCtorEq, false_iff] <;> omega
    | fallback k =>
        simp only [Spans, ne_eq, hopen, not_false_eq_true, true_and]
        by_cases hk : 1 ≤ k
        · have hfrom := hle hk
          have hupto := hle (Nat.le_add_left 1 k)
          split
          · simp only [reduceCtorEq, false_iff]
            omega
          · split <;> simp only [fallback.injEq, reduceCtorEq, false_iff] <;> omega
        · split
          · simp [hk]
          · split
            · simp only [fallback.injEq, hk, false_and, iff_false]
              omega
            · simp [hk]
    | exhausted =>
        have hlast := hle (Nat.le_add_left 1 r.fallbacks.length)
        simp only [Spans, ne_eq, hopen, not_false_eq_true, true_and]
        split
        · simp only [reduceCtorEq, false_iff]
          omega
        · split <;> simp only [reduceCtorEq, false_iff, true_iff] <;> omega

theorem isEscalated_iff {phase : WindowPhase} :
    phase.isEscalated = true ↔ (∃ k, phase = .fallback k) ∨ phase = .exhausted := by
  cases phase <;> simp [isEscalated]

theorem Spans.elapsed {phase : WindowPhase} {time : Nat} (h : phase.Spans r windowDuration time)
    (hescalated : phase.isEscalated = true) :
    r.primary ≠ 0 ∧ r.assignedAt.toNat + Window.seconds windowDuration ≤ time := by
  cases phase with
  | unassigned => simp [isEscalated] at hescalated
  | primary => simp [isEscalated] at hescalated
  | fallback k =>
      obtain ⟨hprimary, hk, -, hstart, -⟩ := h
      have hlong := Nat.le_mul_of_pos_left (Window.seconds windowDuration) hk
      exact ⟨hprimary, by omega⟩
  | exhausted =>
      obtain ⟨hprimary, hend⟩ := h
      rw [Nat.add_mul, Nat.one_mul] at hend
      exact ⟨hprimary, by omega⟩

end WindowPhase

namespace Window

variable {config : Protocol} {pods : PodRegistry} {isBonded : Address → Bool} {r : JobRecord}
  {caller : Address} {now : Uint 64} {phase : WindowPhase}

def Admits (config : Protocol) (pods : PodRegistry) (isBonded : Address → Bool) (r : JobRecord)
    (caller : Address) : WindowPhase → Prop
  | .unassigned => True
  | .primary => caller = r.primary
  | .fallback k => ∀ expected, fallbackOperator pods r k = some expected → caller = expected
  | .exhausted => config.afterFallbacks = .anyBonded ∧ isBonded caller = true

theorem authorize_eq_ok_iff :
    authorize config pods isBonded r caller now = .ok phase ↔
      phase = WindowPhase.at_ r now config.windowDuration ∧
        Admits config pods isBonded r caller phase := by
  unfold authorize
  generalize WindowPhase.at_ r now config.windowDuration = current
  cases current with
  | unassigned =>
      simp only [Except.ok.injEq]
      exact ⟨fun h => ⟨h.symm, h ▸ trivial⟩, fun h => h.1.symm⟩
  | primary =>
      by_cases hcaller : caller = r.primary
      · simp only [hcaller, if_true, Except.ok.injEq]
        exact ⟨fun h => ⟨h.symm, h ▸ rfl⟩, fun h => h.1.symm⟩
      · simp only [hcaller, if_false, reduceCtorEq, false_iff]
        rintro ⟨rfl, hadmits⟩
        exact hcaller hadmits
  | fallback k =>
      cases hoperator : fallbackOperator pods r k with
      | none =>
          simp only [hoperator, Except.ok.injEq]
          refine ⟨fun h => ⟨h.symm, ?_⟩, fun h => h.1.symm⟩
          subst h
          simp [Admits, hoperator]
      | some expected =>
          by_cases hcaller : expected = caller
          · simp only [hoperator, hcaller, if_true, Except.ok.injEq]
            refine ⟨fun h => ⟨h.symm, ?_⟩, fun h => h.1.symm⟩
            subst h
            simp [Admits, hoperator, hcaller]
          · simp only [hoperator, hcaller, if_false, reduceCtorEq, false_iff]
            rintro ⟨rfl, hadmits⟩
            exact hcaller (hadmits expected hoperator).symm
  | exhausted =>
      cases hpolicy : config.afterFallbacks with
      | stalled =>
          simp only [reduceCtorEq, false_iff]
          rintro ⟨rfl, hadmits, -⟩
          simp [hpolicy] at hadmits
      | anyBonded =>
          by_cases hbonded : isBonded caller = true
          · simp only [hbonded, if_true, Except.ok.injEq]
            exact ⟨fun h => ⟨h.symm, h ▸ ⟨hpolicy, hbonded⟩⟩, fun h => h.1.symm⟩
          · simp only [hbonded, if_false, reduceCtorEq, false_iff]
            rintro ⟨rfl, -, hadmits⟩
            exact hbonded hadmits

theorem elapsed_of_admits {windowDuration : Uint 64} {time : Nat}
    (hspans : WindowPhase.Spans r windowDuration time phase) (hassigned : r.primary ≠ 0)
    (hadmits : Admits config pods isBonded r caller phase) (hne : caller ≠ r.primary) :
    r.assignedAt.toNat + seconds windowDuration ≤ time := by
  cases phase with
  | unassigned => exact absurd hspans hassigned
  | primary => exact absurd hadmits hne
  | fallback k => exact (hspans.elapsed rfl).2
  | exhausted => exact (hspans.elapsed rfl).2

theorem fallbackOperator_eq {k : Nat} {place : Uint 32} (hk : 1 ≤ k)
    (hplace : r.fallbacks[k - 1]? = some place) :
    fallbackOperator pods r k = pods.memberAt r.pod place.toNat := by
  unfold fallbackOperator
  rw [if_neg (Nat.ne_of_gt hk), hplace]

theorem admits_both {windowDuration : Uint 64} {other : Address} {time : Nat}
    (hspans : WindowPhase.Spans r windowDuration time phase) (hne : caller ≠ other)
    (h : Admits config pods isBonded r caller phase)
    (h' : Admits config pods isBonded r other phase) :
    r.primary = 0 ∨
      (∃ k place, phase = .fallback k ∧ r.fallbacks[k - 1]? = some place ∧
        (pods.membersOf r.pod).length ≤ place.toNat) ∨
      phase = .exhausted ∧ config.afterFallbacks = .anyBonded ∧ isBonded caller = true ∧
        isBonded other = true := by
  cases phase with
  | unassigned => exact .inl hspans
  | primary => exact absurd (h.trans h'.symm) hne
  | fallback k =>
      obtain ⟨-, hk, hlast, -⟩ := hspans
      have hplace : r.fallbacks[k - 1]? = some r.fallbacks[k - 1] :=
        List.getElem?_eq_getElem (by omega)
      refine .inr (.inl ⟨k, _, rfl, hplace, ?_⟩)
      cases hoperator : fallbackOperator pods r k with
      | none =>
          rw [fallbackOperator_eq hk hplace] at hoperator
          exact List.getElem?_eq_none_iff.1 hoperator
      | some expected =>
          exact absurd ((h expected hoperator).trans (h' expected hoperator).symm) hne
  | exhausted => exact .inr (.inr ⟨rfl, h.1, h.2, h'.2⟩)

end Window

end BondedRelay
