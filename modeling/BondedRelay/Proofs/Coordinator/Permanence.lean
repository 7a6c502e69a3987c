import BondedRelay.Proofs.Coordinator.Refusal
import BondedRelay.Proofs.Operator.Reopened

namespace BondedRelay

theorem JobStatus.isFinal_of_ne_pending {status : JobStatus} (h : status ≠ .pending) :
    status.isFinal = true := by
  cases status with
  | pending => exact absurd rfl h
  | completed => rfl
  | failedTerminal reason => rfl

namespace Coordinator

section

variable {τ ε : Type} {c : Coordinator τ ε} {r : JobRecord} {id : JobId} {caller : Address}
  {params : ExecutionParams} {e : Rejection}

inductive Shut (c : Coordinator τ ε) (r : JobRecord) : Prop
  | closed (hfinal : r.status.isFinal = true)
  | stalled (hphase : c.InPhase r .exhausted) (hpolicy : c.config.afterFallbacks = .stalled)

theorem Refuses.shut (h : c.Refuses r caller e) (hnever : e.hint = .never) : c.Shut r := by
  cases h with
  | waiting hhint => simp [hhint] at hnever
  | fallback hphase hexpected hne => simp [Rejection.hint] at hnever
  | stalled hphase hpolicy => exact .stalled hphase hpolicy
  | unbonded hphase hpolicy hbonded => simp [Rejection.hint] at hnever

theorem shut_of_check (hfound : c.jobs.get? id = some r) (h : c.check caller id params = .error e)
    (hnever : e.hint = .never) : c.Shut r := by
  rcases check_error h with ⟨-, hclosed⟩ | ⟨r', hfound', -, hrefuses⟩
  · exact .closed (JobStatus.isFinal_of_ne_pending (hclosed r hfound))
  · obtain rfl := Option.some.inj (hfound.symm.trans hfound')
    exact hrefuses.shut hnever

theorem Shut.check (h : c.Shut r) (hfound : c.jobs.get? id = some r) (caller : Address)
    (params : ExecutionParams) :
    ∃ e, c.check caller id params = .error e ∧ e.hint = .never := by
  by_cases hpending : r.status = .pending
  · cases h with
    | closed hfinal => simp [hpending] at hfinal
    | stalled hphase hpolicy =>
        have hat : .at_ r c.clock.timestamp c.config.windowDuration = WindowPhase.exhausted :=
          WindowPhase.at_eq_iff.2 hphase
        refine ⟨.fallbacksExhausted r.id, ?_, rfl⟩
        rw [check_of_pending hfound hpending]
        simp [Execution.check, Window.authorize, hat, hpolicy]
  · exact ⟨.invalidJob id, check_of_not_pending hfound hpending, rfl⟩

variable [UtilityToken τ] [JobEffect ε] {call : Call} {later : List (Move τ ε)}

theorem shut_of_answer (hseated : c.Seated) (hfound : c.jobs.get? id = some r)
    (hcall : call.executed? = some id) (h : c.answer call = .error e) (hnever : e.hint = .never) :
    c.Shut r := by
  obtain ⟨⟨caller, payload, params⟩, hexecution, rfl⟩ := Option.map_eq_some_iff.1 hcall
  have hrespond := respond_of_execution (c := c) hexecution
  rcases hexecute : c.execute caller payload params with ⟨e' | receipt, c'⟩
  · obtain rfl : e' = e := by simpa [answer, hrespond, hexecute, Except.map] using h
    cases hcheck : c.check caller payload.jobId params with
    | error e =>
        have hsame := execute_of_check_error hcheck
        rw [hexecute] at hsame
        obtain rfl := Except.error.inj hsame
        exact shut_of_check hfound hcheck hnever
    | ok phase =>
        -- Tokens may be there at the next attempt.
        obtain ⟨error, rfl⟩ := token_of_execute_error hseated hcheck hexecute
        simp [Rejection.hint] at hnever
  · simp [answer, hrespond, hexecute, Except.map] at h

theorem Shut.answer (h : c.Shut r) (hfound : c.jobs.get? id = some r)
    (hcall : call.executed? = some id) :
    ∃ e, c.answer call = .error e ∧ e.hint = .never := by
  obtain ⟨⟨caller, payload, params⟩, hexecution, rfl⟩ := Option.map_eq_some_iff.1 hcall
  obtain ⟨e, hcheck, hnever⟩ := h.check hfound caller params
  refine ⟨e, ?_, hnever⟩
  simp [Coordinator.answer, respond_of_execution hexecution, execute_of_check_error hcheck,
    Except.map]

theorem Shut.run (h : c.Shut r) (hfound : c.jobs.get? id = some r) (hforward : c.Forward later) :
    ∃ r', (c.run later).jobs.get? id = some r' ∧ (c.run later).Shut r' := by
  obtain ⟨r', hlater, hfields, hstatus⟩ := follows_run later hfound
  refine ⟨r', hlater, ?_⟩
  cases h with
  | closed hfinal =>
      rcases hstatus with hsame | ⟨-, hfinal'⟩
      · exact .closed (hsame ▸ hfinal)
      · exact .closed hfinal'
  | stalled hphase hpolicy =>
      have hphase' : (c.run later).InPhase r' .exhausted := by
        rw [hfields]
        exact hphase.exhausted_later (c.config_run later) (timestamp_le_run hforward)
      exact .stalled hphase' (c.config_run later ▸ hpolicy)

end

variable {τ ε : Type} [UtilityToken τ] [JobEffect ε]

theorem never_is_permanent (chainId : Uint 32) (config : Protocol) (address : Address) (token : τ)
    (clock : Clock) (effect : ε) (owners : Table Address Address)
    (earlier later : List (Move τ ε)) (c : Coordinator τ ε)
    (hreached : (create chainId config address token clock effect owners).run earlier = c)
    (id : JobId) (hknown : (c.jobs.get? id).isSome = true)
    (hnever : (∃ caller params e, c.check caller id params = .error e ∧ e.hint = .never) ∨
      ∃ call e, call.executed? = some id ∧ c.answer call = .error e ∧ e.hint = .never)
    (hforward : c.Forward later) :
    (∀ caller params, ∃ e, (c.run later).check caller id params = .error e ∧ e.hint = .never) ∧
      ∀ call, call.executed? = some id →
        ∃ e, (c.run later).answer call = .error e ∧ e.hint = .never := by
  obtain ⟨r, hfound⟩ := Option.isSome_iff_exists.1 hknown
  have hseated : c.Seated := hreached ▸ (seated_create ..).run earlier
  have hshut : c.Shut r := by
    rcases hnever with ⟨caller, params, e, hcheck, hhint⟩ | ⟨call, e, hcall, hanswer, hhint⟩
    · exact shut_of_check hfound hcheck hhint
    · exact shut_of_answer hseated hfound hcall hanswer hhint
  obtain ⟨r', hlater, hshut'⟩ := hshut.run hfound hforward
  exact ⟨hshut'.check hlater, fun call hcall => hshut'.answer hlater hcall⟩

theorem stalled_job_refused_for_good :
    let config : Protocol :=
      { Protocol.standard with fallbackCount := 0, bondUnit := 100, afterFallbacks := .stalled }
    let token := (MemoryToken.empty.mint 1 100).approve 1 9 100
    let job : Payload := ⟨5, 3, 0, [], 0, 0⟩
    let c := (create 1 config 9 token .standard (RecordingEffect.create []) .empty).run
      [.call (.bond 1 7 100 1), .source 5 6, .call (.deliver job 5 6),
        .clock (Clock.standard.advance 60)]
    let later : List (Move MemoryToken RecordingEffect) :=
      [.call (.unbond 7 7 7), .clock (Clock.standard.advance 90)]
    c.check 7 job.jobId ⟨0, 0⟩ = .error (.fallbacksExhausted job.jobId) ∧
      ∃ e, (c.run later).answer (.executeBytes 7 job.toBytes ⟨0, 0⟩) = .error e ∧
        e.hint = .never := by
  intro config token job c later
  obtain ⟨hknown, hcheck, hforward, hcall⟩ : (c.jobs.get? job.jobId).isSome = true ∧
      c.check 7 job.jobId ⟨0, 0⟩ = .error (.fallbacksExhausted job.jobId) ∧ c.Forward later ∧
      (Call.executeBytes 7 job.toBytes ⟨0, 0⟩).executed? = some job.jobId := by
    decide +kernel
  obtain ⟨-, hrefused⟩ := never_is_permanent 1 config 9 token .standard
    (RecordingEffect.create []) .empty _ later c rfl job.jobId hknown
    (.inl ⟨7, ⟨0, 0⟩, _, hcheck, rfl⟩) hforward
  exact ⟨hcheck, hrefused _ hcall⟩

end Coordinator

end BondedRelay
