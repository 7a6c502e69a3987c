import BondedRelay.Proofs.Bond.Faults
import BondedRelay.Proofs.Coordinator.DryRun

namespace BondedRelay

theorem JobStore.pending_error {s : JobStore} {id : JobId} {e : Rejection}
    (h : s.pending id = .error e) :
    e = .invalidJob id ∧ ∀ r, s.get? id = some r → r.status ≠ .pending := by
  unfold pending at h
  split at h
  · next r hfound =>
      split at h
      · simp at h
      · next hstatus =>
          refine ⟨(Except.error.inj h).symm, fun r' hfound' => ?_⟩
          obtain rfl := Option.some.inj (hfound.symm.trans hfound')
          exact hstatus
  · next hfree => exact ⟨(Except.error.inj h).symm, fun r hfound => by simp [hfree] at hfound⟩

theorem Ledger.token_of_slash_error {τ : Type} [UtilityToken τ] {l l' : Ledger τ}
    {operator : Address} {amount : Amount} {beneficiary : Beneficiary} {e : Rejection}
    {r : BondRecord} {required : BondRequirement} (hr : l.record? operator = some r)
    (hrefuses : l.refuses? operator beneficiary = none)
    (hrequired : l.pods.requirement r.pod = .ok required)
    (h : l.slash operator amount beneficiary = (.error e, l')) : ∃ error, e = .token error := by
  unfold slash at h
  simp only [hr, hrefuses, hrequired] at h
  split at h
  · obtain ⟨rfl, -⟩ := by simpa using h
    exact ⟨_, rfl⟩
  · split at h
    · next e' l₁ hpaid =>
        obtain ⟨rfl, rfl⟩ : e' = e ∧ l₁ = l' := by simpa using h
        obtain ⟨error, token, rfl, -⟩ := payOut_error hpaid
        exact ⟨error, rfl⟩
    · simp at h

namespace Coordinator

variable {τ ε : Type} {c c' : Coordinator τ ε} {r : JobRecord} {id : JobId} {caller : Address}
  {payload : Payload} {params : ExecutionParams} {phase : WindowPhase} {e : Rejection}

inductive Refuses (c : Coordinator τ ε) (r : JobRecord) (caller : Address) : Rejection → Prop
  | waiting {e : Rejection} (hhint : e.hint = .later) : Refuses c r caller e
  | fallback {k : Nat} {expected : Address} (hphase : c.InPhase r (.fallback k))
      (hexpected : Window.fallbackOperator c.pods r k = some expected) (hne : expected ≠ caller) :
      Refuses c r caller (.invalidFallback r.id k expected)
  | stalled (hphase : c.InPhase r .exhausted) (hpolicy : c.config.afterFallbacks = .stalled) :
      Refuses c r caller (.fallbacksExhausted r.id)
  | unbonded (hphase : c.InPhase r .exhausted) (hpolicy : c.config.afterFallbacks = .anyBonded)
      (hbonded : c.ledger.isBonded caller = false) : Refuses c r caller (.notBonded caller)

theorem refuses_of_authorize_error
    (h : Window.authorize c.config c.pods c.ledger.isBonded r caller c.clock.timestamp =
      .error e) : c.Refuses r caller e := by
  unfold Window.authorize at h
  have hphase : c.InPhase r (.at_ r c.clock.timestamp c.config.windowDuration) :=
    WindowPhase.at_eq_iff.1 rfl
  generalize WindowPhase.at_ r c.clock.timestamp c.config.windowDuration = phase at h hphase
  cases phase with
  | unassigned => simp at h
  | primary =>
      dsimp only at h
      split at h
      · simp at h
      · obtain rfl := Except.error.inj h
        exact .waiting rfl
  | fallback k =>
      dsimp only at h
      split at h
      · simp at h
      · next expected hexpected =>
          split at h
          · simp at h
          · next hne =>
              obtain rfl := Except.error.inj h
              exact .fallback hphase hexpected hne
  | exhausted =>
      dsimp only at h
      split at h
      · next hpolicy =>
          obtain rfl := Except.error.inj h
          exact .stalled hphase hpolicy
      · next hpolicy =>
          split at h
          · simp at h
          · next hbonded =>
              obtain rfl := Except.error.inj h
              exact .unbonded hphase hpolicy (Bool.eq_false_iff.2 hbonded)

theorem check_error (h : c.check caller id params = .error e) :
    (e = .invalidJob id ∧ ∀ r, c.jobs.get? id = some r → r.status ≠ .pending) ∨
      ∃ r, c.jobs.get? id = some r ∧ r.status = .pending ∧ c.Refuses r caller e := by
  unfold check at h
  split at h
  · next e' hpending =>
      obtain rfl := Except.error.inj h
      exact .inl (JobStore.pending_error hpending)
  · next r hpending =>
      obtain ⟨hfound, hstatus⟩ := JobStore.pending_eq_ok_iff.1 hpending
      refine .inr ⟨r, hfound, hstatus, ?_⟩
      unfold Execution.check at h
      split at h
      · next e' hauthorize =>
          obtain rfl := Except.error.inj h
          exact refuses_of_authorize_error hauthorize
      · dsimp only at h
        split at h
        · obtain rfl := Except.error.inj h
          exact .waiting rfl
        · split at h
          · obtain rfl := Except.error.inj h
            exact .waiting rfl
          · simp at h

variable [UtilityToken τ] [JobEffect ε]

omit [JobEffect ε] in
theorem token_of_penalize_error {ledger : Ledger τ} (hseated : c.Seated)
    (hfound : c.jobs.get? id = some r) (hphase : c.InPhase r phase)
    (h : Execution.penalize c.ledger r caller phase = (.error e, ledger)) :
    ∃ error, e = .token error := by
  by_cases hdue : Execution.Due c.ledger r caller phase
  · have ⟨hescalated, hne, hbonded⟩ := hdue
    have hprimary : r.primary ≠ 0 := (hphase.elapsed hescalated).1
    obtain ⟨required, hrequired⟩ :=
      PodRegistry.requirement_of_exists (hseated.pod_exists id r hfound hprimary)
    obtain ⟨bond, hbond⟩ := Option.isSome_iff_exists.1 hbonded
    obtain ⟨asked, hasked⟩ :=
      PodRegistry.requirement_of_exists (hseated.aligned.exists_of_record hbond)
    rcases hslash : c.ledger.slash r.primary required.base (Execution.claimant c.ledger caller) with
      ⟨e' | receipt, l'⟩
    · rw [Execution.penalize_eq_of_due hdue hrequired, hslash] at h
      obtain ⟨rfl, -⟩ : e' = e ∧ _ := by simpa using h
      exact Ledger.token_of_slash_error hbond (Execution.refuses?_claimant hne) hasked hslash
    · simp [Execution.penalize_of_due hdue hrequired hslash] at h
  · simp [Execution.penalize_of_not_due hdue] at h

theorem token_of_execute_error (hseated : c.Seated)
    (hcheck : c.check caller payload.jobId params = .ok phase)
    (h : c.execute caller payload params = (.error e, c')) : ∃ error, e = .token error := by
  obtain ⟨r, hfound, hpending, hchecked⟩ := check_ok hcheck
  rcases hpenalize : Execution.penalize c.ledger r caller phase with ⟨e' | slash, ledger⟩
  · have hexecute :=
      Execution.execute_of_penalize_error (w := c.place) hfound hpending hchecked hpenalize
    obtain ⟨rfl, -⟩ : e' = e ∧ _ := by simpa [execute, hexecute] using h
    exact token_of_penalize_error hseated hfound (inPhase_of_check hchecked).1 hpenalize
  · obtain ⟨receipt, place, hexecute, -⟩ :=
      Execution.execute_of_check (w := c.place) hfound hpending hchecked hpenalize
    simp [execute, hexecute] at h

end Coordinator

end BondedRelay
