import BondedRelay.Operator.Process
import BondedRelay.Proofs.Coordinator.Custody
import BondedRelay.Proofs.Coordinator.Delivered
import BondedRelay.Proofs.Coordinator.Refusal

namespace BondedRelay

def KnownJob.params (job : KnownJob) : ExecutionParams :=
  ⟨job.details.gasLimit, job.details.gasPrice⟩

def KnownJob.Reads (id : JobId) (job : KnownJob) : Prop :=
  ∀ payload, Payload.ofBytes job.payload = .ok payload → payload.jobId = id

namespace Coordinator

variable {τ ε : Type} [UtilityToken τ] [JobEffect ε] {c c' : Coordinator τ ε} {id : JobId}
  {who : Address} {bytes : Bytes} {payload : Payload} {params : ExecutionParams}
  {receipt : ExecutionReceipt} {e : Rejection}

theorem executeBytes_ok (h : c.executeBytes who bytes params = (.ok receipt, c')) :
    ∃ payload, Payload.ofBytes bytes = .ok payload ∧
      c.execute who payload params = (.ok receipt, c') := by
  unfold executeBytes at h
  split at h
  · simp at h
  · next payload hread => exact ⟨payload, hread, h⟩

theorem executeBytes_error (h : c.executeBytes who bytes params = (.error e, c')) :
    (∃ error, Payload.ofBytes bytes = .error error) ∨
      ∃ payload, Payload.ofBytes bytes = .ok payload ∧
        c.execute who payload params = (.error e, c') := by
  unfold executeBytes at h
  split at h
  · next error hread => exact .inl ⟨error, hread⟩
  · next payload hread => exact .inr ⟨payload, hread, h⟩

theorem closed_of_execute (h : c.execute who payload params = (.ok receipt, c')) :
    c.isClosed payload.jobId = false ∧ c'.isClosed payload.jobId = true ∧
      ∃ i, i.executor = who ∧ i.payload = payload ∧
        c'.place.invocations = i :: c.place.invocations := by
  obtain ⟨place, hexecute, rfl⟩ := execute_ok h
  obtain ⟨r, phase, hfound, hpending, -, -, -, -, hinvoked, hjobs⟩ := Execution.execute_ok hexecute
  refine ⟨?_, ?_, ⟨payload, who, r.gasLimit⟩, rfl, rfl, hinvoked⟩
  · rw [isClosed, show c.jobs.get? payload.jobId = some r from hfound, Option.any_some, hpending]
    rfl
  · refine isClosed_eq_true_iff.2 ⟨{ r with status := receipt.outcome.status }, ?_, by simp⟩
    show place.jobs.get? payload.jobId = _
    rw [hjobs, JobStore.get?_set, if_pos rfl]

structure Works (who : Address) (c c' : Coordinator τ ε) : Prop where
  reaches : ∃ moves, c' = c.run moves
  clock : c'.clock = c.clock
  isBonded : c'.ledger.isBonded who = c.ledger.isBonded who
  invocations : c.place.invocations <:+ c'.place.invocations

theorem Works.refl (who : Address) (c : Coordinator τ ε) : c.Works who c :=
  ⟨⟨[], rfl⟩, rfl, rfl, List.suffix_refl _⟩

theorem Works.trans {c'' : Coordinator τ ε} (h : c.Works who c') (h' : c'.Works who c'') :
    c.Works who c'' := by
  obtain ⟨moves, rfl⟩ := h.reaches
  obtain ⟨moves', rfl⟩ := h'.reaches
  exact ⟨⟨moves ++ moves', (c.run_append moves moves').symm⟩, h'.clock.trans h.clock,
    h'.isBonded.trans h.isBonded, h.invocations.trans h'.invocations⟩

theorem Works.config (h : c.Works who c') : c'.config = c.config := by
  obtain ⟨moves, rfl⟩ := h.reaches
  exact c.config_run moves

theorem isBonded_after_own (c : Coordinator τ ε) (who : Address) (bytes : Bytes)
    (params : ExecutionParams) :
    (c.after (.executeBytes who bytes params)).ledger.isBonded who = c.ledger.isBonded who := by
  have hown {reply : Reply} : ¬ c.Escalates (.executeBytes who bytes params) reply who := by
    rintro ⟨caller, payload, _, receipt, slash, job, hcall, -, -, -, hne, -⟩
    obtain ⟨_, -, hcaller⟩ := Option.map_eq_some_iff.1 hcall
    exact hne (congrArg Prod.fst hcaller).symm
  unfold Ledger.isBonded
  rcases c.bondChange_after (.executeBytes who bytes params) with ⟨reply, -, hchange⟩ | hsame
  · have hwho := hchange who
    generalize c.ledger.record? who = before at hwho ⊢
    generalize (c.after _).ledger.record? who = now at hwho ⊢
    cases hwho with
    | same => rfl
    | bonded hcall => cases hcall
    | raised => rfl
    | unbonded hcall => cases hcall
    | demoted hescalates => exact absurd hescalates hown
    | slashed => rfl
  · rw [hsame]

theorem works_after (c : Coordinator τ ε) (who : Address) (bytes : Bytes)
    (params : ExecutionParams) : c.Works who (c.after (.executeBytes who bytes params)) := by
  refine ⟨⟨[.call (.executeBytes who bytes params)], rfl⟩, c.clock_after _,
    c.isBonded_after_own who bytes params, ?_⟩
  rcases c.invocations_step (.call (.executeBytes who bytes params)) with
    hsame | ⟨_, _, _, i, -, -, hnew⟩
  · exact ⟨[], hsame.symm⟩
  · exact ⟨[i], hnew.symm⟩

theorem get?_after_other (hother : ∀ payload, Payload.ofBytes bytes = .ok payload →
      payload.jobId ≠ id) :
    (c.after (.executeBytes who bytes params)).jobs.get? id = c.jobs.get? id := by
  have hexecuted : (Call.executeBytes who bytes params).executed? ≠ some id := by
    intro hid
    cases hread : Payload.ofBytes bytes with
    | error error => simp [Call.executed?, Call.execution?, hread, Except.toOption] at hid
    | ok payload =>
        exact hother payload hread
          (by simpa [Call.executed?, Call.execution?, hread, Except.toOption] using hid)
  rcases c.step_cases (.call (.executeBytes who bytes params)) with
    ⟨call, reply, hcall, -, haccepts⟩ | ⟨hquiet, -⟩
  · obtain rfl := Move.call.inj hcall
    have hchange := jobChange_of_accepts haccepts id
    change c.JobChange _ id _ ((c.after _).jobs.get? id) at hchange
    generalize c.jobs.get? id = before at hchange ⊢
    generalize (c.after _).jobs.get? id = now at hchange ⊢
    cases hchange with
    | same => rfl
    | assigned hdelivered => cases hdelivered
    | closed hclosed => exact absurd hclosed hexecuted
  · exact congrArg (fun jobs => jobs.get? id) hquiet.jobs

end Coordinator

namespace Operator

open Coordinator

variable {τ ε : Type} [UtilityToken τ] [JobEffect ε] {c c' : Coordinator τ ε}
  {config : OperatorConfig} {id other : JobId} {job : KnownJob} {flow : Flow} {r : JobRecord}
  {phase : WindowPhase} {receipt : ExecutionReceipt} {e : Rejection}

def verdict (now : Uint 64) (job : KnownJob) (e : Rejection) : Flow :=
  if settles now job e.hint then .advance else .rest

inductive Attempts (config : OperatorConfig) (c : Coordinator τ ε) (id : JobId) (job : KnownJob) :
    Flow → Coordinator τ ε → Prop
  | refused {e : Rejection} {flow : Flow}
      (hcheck : c.check config.operator id job.params = .error e)
      (hflow : flow = verdict c.clock.timestamp job e) : Attempts config c id job flow c
  | passed {phase : WindowPhase} (hcheck : c.check config.operator id job.params = .ok phase)
      (hescalated : phase.isEscalated = true) (hdeclines : config.executeAsFallback = false) :
      Attempts config c id job .rest c
  | failed {phase : WindowPhase} {e : Rejection} {flow : Flow} {c' : Coordinator τ ε}
      (hcheck : c.check config.operator id job.params = .ok phase)
      (hexecute : c.executeBytes config.operator job.payload job.params = (.error e, c'))
      (hflow : flow = verdict c'.clock.timestamp job e) : Attempts config c id job flow c'
  | executed {phase : WindowPhase} {receipt : ExecutionReceipt} {c' : Coordinator τ ε}
      (hcheck : c.check config.operator id job.params = .ok phase)
      (hexecute : c.executeBytes config.operator job.payload job.params = (.ok receipt, c')) :
      Attempts config c id job .advance c'

theorem executed_eq (o : Operator) (receipt : ExecutionReceipt) :
    o.executed receipt = { o with metrics := (o.executed receipt).metrics } := by
  unfold executed
  cases receipt.slash <;> rfl

theorem executesIn_eq_false_iff {o : Operator} :
    o.executesIn phase = false ↔ phase.isEscalated = true ∧ o.config.executeAsFallback = false := by
  simp [executesIn]

theorem attempts (c : Coordinator τ ε) (o : Operator) (id : JobId) (job : KnownJob) :
    let a := attempt c o id job
    Attempts o.config c id job a.1 a.2.1 ∧ a.2.2 = { o with metrics := a.2.2.metrics } := by
  intro a
  rcases hcheck : c.check o.config.operator id job.params with e | phase
  · have hdesk : JobDesk.check c o.config.operator id ⟨job.details.gasLimit, job.details.gasPrice⟩ =
      (.error e, c) := Prod.ext hcheck rfl
    have ha : a = (verdict c.clock.timestamp job e, c, (o.rejected c.clock.timestamp job e).2) := by
      simp only [a, attempt, hdesk]
      rfl
    rw [ha]
    exact ⟨.refused hcheck rfl, rfl⟩
  · have hdesk : JobDesk.check c o.config.operator id ⟨job.details.gasLimit, job.details.gasPrice⟩ =
      (.ok phase, c) := Prod.ext hcheck rfl
    cases hruns : o.executesIn phase with
    | false =>
        have ha : a = (.rest, c, o) := by simp [a, attempt, hdesk, hruns]
        obtain ⟨hescalated, hdeclines⟩ := executesIn_eq_false_iff.1 hruns
        rw [ha]
        exact ⟨.passed hcheck hescalated hdeclines, rfl⟩
    | true =>
        rcases hexecute : c.executeBytes o.config.operator job.payload job.params with
          ⟨e | receipt, c'⟩
        · have hdesk' : JobDesk.execute c o.config.operator job.payload
            ⟨job.details.gasLimit, job.details.gasPrice⟩ = (.error e, c') := hexecute
          have ha : a =
              (verdict c'.clock.timestamp job e, c', (o.rejected c'.clock.timestamp job e).2) := by
            simp only [a, attempt, hdesk, hruns, hdesk', if_true]
            rfl
          rw [ha]
          exact ⟨.failed hcheck hexecute rfl, rfl⟩
        · have hdesk' : JobDesk.execute c o.config.operator job.payload
            ⟨job.details.gasLimit, job.details.gasPrice⟩ = (.ok receipt, c') := hexecute
          have ha : a = (.advance, c', o.executed receipt) := by
            simp [a, attempt, hdesk, hruns, hdesk']
          rw [ha]
          exact ⟨.executed hcheck hexecute, executed_eq o receipt⟩

theorem settles_of_verdict {now : Uint 64} (h : .advance = verdict now job e) :
    settles now job e.hint = true := by
  unfold verdict at h
  split at h
  · assumption
  · cases h

theorem hint_ne_never_of_verdict {now : Uint 64} (h : .rest = verdict now job e) :
    e.hint ≠ .never := by
  intro hnever
  simp [verdict, hnever, settles] at h

theorem Attempts.works (h : Attempts config c id job flow c') : c.Works config.operator c' := by
  cases h with
  | refused hcheck hflow => exact .refl ..
  | passed hcheck hescalated hdeclines => exact .refl ..
  | failed hcheck hexecute hflow =>
      obtain rfl := congrArg Prod.snd hexecute
      exact c.works_after ..
  | executed hcheck hexecute =>
      obtain rfl := congrArg Prod.snd hexecute
      exact c.works_after ..

theorem Attempts.get?_other (h : Attempts config c id job flow c') (hreads : job.Reads id)
    (hne : id ≠ other) : c'.jobs.get? other = c.jobs.get? other := by
  have hother (payload : Payload) (hread : Payload.ofBytes job.payload = .ok payload) :
      payload.jobId ≠ other := hreads payload hread ▸ hne
  cases h with
  | refused hcheck hflow => rfl
  | passed hcheck hescalated hdeclines => rfl
  | failed hcheck hexecute hflow =>
      obtain rfl := congrArg Prod.snd hexecute
      exact get?_after_other hother
  | executed hcheck hexecute =>
      obtain rfl := congrArg Prod.snd hexecute
      exact get?_after_other hother

theorem jobs_of_failed {bytes : Bytes} {params : ExecutionParams}
    (h : c.executeBytes config.operator bytes params = (.error e, c')) : c'.jobs = c.jobs := by
  have hrespond : c.respond (.executeBytes config.operator bytes params) = (.error e, c') := by
    rw [respond, h]
    rfl
  exact (quiet_of_rejected hrespond).jobs

theorem Attempts.pending_of_rest (h : Attempts config c id job .rest c') :
    ∃ r, c'.jobs.get? id = some r ∧ r.status = .pending := by
  cases h with
  | refused hcheck hflow =>
      rcases check_error hcheck with ⟨rfl, -⟩ | ⟨r, hfound, hpending, -⟩
      · exact absurd rfl (hint_ne_never_of_verdict hflow)
      · exact ⟨r, hfound, hpending⟩
  | passed hcheck hescalated hdeclines =>
      obtain ⟨r, hfound, hpending, -⟩ := check_ok hcheck
      exact ⟨r, hfound, hpending⟩
  | failed hcheck hexecute hflow =>
      obtain ⟨r, hfound, hpending, -⟩ := check_ok hcheck
      exact ⟨r, by rw [jobs_of_failed hexecute, hfound], hpending⟩

inductive Settled (config : OperatorConfig) (c : Coordinator τ ε) (id : JobId) (job : KnownJob) :
    Prop
  | closed (hclosed : ∀ r, c.jobs.get? id = some r → r.status ≠ .pending)
  | stalled {r : JobRecord} (hfound : c.jobs.get? id = some r)
      (hphase : c.InPhase r .exhausted) (hpolicy : c.config.afterFallbacks = .stalled)
  | unbonded {r : JobRecord} (hfound : c.jobs.get? id = some r)
      (hphase : c.InPhase r .exhausted) (hpolicy : c.config.afterFallbacks = .anyBonded)
      (hbonded : c.ledger.isBonded config.operator = false)
  | overrun {r : JobRecord} {k : Nat} (hfound : c.jobs.get? id = some r)
      (hphase : c.InPhase r (.fallback k))
      (hlapsed : job.details.windowsLapsed c.clock.timestamp = true)
  | unreadable {error : PayloadError} (hread : Payload.ofBytes job.payload = .error error)

omit [UtilityToken τ] [JobEffect ε] in
theorem settled_of_check_error (hcheck : c.check config.operator id job.params = .error e)
    (hsettles : settles c.clock.timestamp job e.hint = true) : Settled config c id job := by
  rcases check_error hcheck with ⟨rfl, hclosed⟩ | ⟨r, hfound, -, hrefuses⟩
  · exact .closed hclosed
  · cases hrefuses with
    | waiting hhint => simp [hhint, settles] at hsettles
    | fallback hphase hexpected hne => exact .overrun hfound hphase hsettles
    | stalled hphase hpolicy => exact .stalled hfound hphase hpolicy
    | unbonded hphase hpolicy hbonded => exact .unbonded hfound hphase hpolicy hbonded

theorem Attempts.settled (h : Attempts config c id job .advance c') (hseated : c.Seated)
    (hreads : job.Reads id) :
    (∃ payload receipt, payload.jobId = id ∧
      c.execute config.operator payload job.params = (.ok receipt, c')) ∨
      c'.jobs = c.jobs ∧ Settled config c id job := by
  cases h with
  | refused hcheck hflow =>
      exact .inr ⟨rfl, settled_of_check_error hcheck (settles_of_verdict hflow)⟩
  | failed hcheck hexecute hflow =>
      rcases executeBytes_error hexecute with ⟨error, hread⟩ | ⟨payload, hread, herror⟩
      · exact .inr ⟨jobs_of_failed hexecute, .unreadable hread⟩
      · rw [← hreads payload hread] at hcheck
        obtain ⟨error, rfl⟩ := token_of_execute_error hseated hcheck herror
        cases settles_of_verdict hflow
  | executed hcheck hexecute =>
      obtain ⟨payload, hread, hok⟩ := executeBytes_ok hexecute
      exact .inl ⟨payload, _, hreads payload hread, hok⟩

end Operator

end BondedRelay
