import BondedRelay.Proofs.Job.Penalty
import BondedRelay.Proofs.Operator.Tracking

namespace BondedRelay

namespace Coordinator

variable {τ ε : Type} {c c' c'' : Coordinator τ ε} {who : Address} {id : JobId}
  {params : ExecutionParams} {view : JobStatus → JobStatus}

structure Unmoved (c c' : Coordinator τ ε) : Prop where
  config : c'.config = c.config
  clock : c'.clock = c.clock
  pods : c'.pods = c.pods
  isBonded : c'.ledger.isBonded = c.ledger.isBonded

theorem Unmoved.refl (c : Coordinator τ ε) : c.Unmoved c := ⟨rfl, rfl, rfl, rfl⟩

theorem Unmoved.symm (h : c.Unmoved c') : c'.Unmoved c :=
  ⟨h.config.symm, h.clock.symm, h.pods.symm, h.isBonded.symm⟩

theorem Unmoved.trans (h : c.Unmoved c') (h' : c'.Unmoved c'') : c.Unmoved c'' :=
  ⟨h'.config.trans h.config, h'.clock.trans h.clock, h'.pods.trans h.pods,
    h'.isBonded.trans h.isBonded⟩

theorem Unmoved.check (h : c.Unmoved c') (hjob : c'.jobs.pending id = c.jobs.pending id) :
    c'.check who id params = c.check who id params := by
  have hpods : c'.ledger.pods = c.ledger.pods := h.pods
  unfold Coordinator.check Execution.check
  rw [hjob, h.config, h.clock, hpods, h.isBonded]

structure Alike (view : JobStatus → JobStatus) (c c' : Coordinator τ ε) : Prop where
  config : c'.config = c.config
  clock : c'.clock = c.clock
  jobs : c'.jobs.through view = c.jobs.through view
  ledger : c'.ledger = c.ledger

theorem Alike.refl (c : Coordinator τ ε) : c.Alike view c := ⟨rfl, rfl, rfl, rfl⟩

theorem Alike.symm (h : c.Alike view c') : c'.Alike view c :=
  ⟨h.config.symm, h.clock.symm, h.jobs.symm, h.ledger.symm⟩

theorem Alike.trans (h : c.Alike view c') (h' : c'.Alike view c'') : c.Alike view c'' :=
  ⟨h'.config.trans h.config, h'.clock.trans h.clock, h'.jobs.trans h.jobs,
    h'.ledger.trans h.ledger⟩

theorem Alike.unmoved (h : c.Alike view c') : c.Unmoved c' :=
  ⟨h.config, h.clock, congrArg Ledger.pods h.ledger, congrArg Ledger.isBonded h.ledger⟩

theorem Alike.pending_eq (hview : JobStatus.ShowsPending view) (h : c.Alike view c') (id : JobId) :
    c'.jobs.pending id = c.jobs.pending id :=
  JobStore.pending_congr hview h.jobs id

variable [JobEffect ε]

def closed (c : Coordinator τ ε) (id : JobId) (r : JobRecord) (i : Invocation)
    (ledger : Ledger τ) : Coordinator τ ε :=
  let record := { r with status := (JobEffect.outcome c.place.effect i).status }
  (c.setJobs ⟨c.jobs.jobs.set id record⟩).setLedger ledger

theorem get?_closed (c : Coordinator τ ε) (id other : JobId) (r : JobRecord) (i : Invocation)
    (ledger : Ledger τ) :
    (c.closed id r i ledger).jobs.get? other =
      if id = other then some { r with status := (JobEffect.outcome c.place.effect i).status }
      else c.jobs.get? other :=
  JobStore.get?_set ..

theorem through_closed (view : JobStatus → JobStatus) (c : Coordinator τ ε) (id : JobId)
    (r : JobRecord) (i : Invocation) (ledger : Ledger τ) :
    (c.closed id r i ledger).jobs.through view = ⟨(c.jobs.through view).jobs.set id
      { r with status := view (JobEffect.outcome c.place.effect i).status }⟩ :=
  JobStore.through_set ..

theorem Alike.closed {answers : Invocation → JobStatus} (h : c.Alike view c')
    (ha : JobEffect.Answers view answers c.place.effect)
    (ha' : JobEffect.Answers view answers c'.place.effect) (id : JobId) (r : JobRecord)
    (i : Invocation) (ledger : Ledger τ) :
    (c.closed id r i ledger).Alike view (c'.closed id r i ledger) := by
  refine ⟨h.config, h.clock, ?_, rfl⟩
  rw [through_closed, through_closed, h.jobs, ha'.view_outcome, ha.view_outcome]

theorem closed_comm {other : JobId} {r r₀ : JobRecord} (hne : id ≠ other)
    (hfound : c.jobs.get? id = some r₀) (r' : JobRecord) (i i' : Invocation)
    (first first' last : Ledger τ) :
    ((c.closed id r i first).closed other r' i' last).Alike view
      ((c.closed other r' i' first').closed id r i last) := by
  have hpresent : c.jobs.jobs.find? id ≠ none := by
    rw [show c.jobs.jobs.find? id = some r₀ from hfound]
    simp
  have hswap := Table.set_comm hne hpresent
    { r with status := (JobEffect.outcome c.place.effect i).status }
    { r' with status := (JobEffect.outcome c.place.effect i').status }
  exact ⟨rfl, rfl, congrArg (fun jobs => JobStore.through view ⟨jobs⟩) hswap.symm, rfl⟩

end Coordinator

namespace Operator

open Coordinator

variable {ε : Type} [JobEffect ε] {view : JobStatus → JobStatus} {answers : Invocation → JobStatus}
  {c c' c₁ c₂ d : Coordinator MemoryToken ε} {config : OperatorConfig} {id other : JobId}
  {job job' : KnownJob} {flow flow' : Flow} {r : JobRecord} {phase : WindowPhase}
  {payload : Payload} {l : Ledger MemoryToken} {schedule : BondSchedule}

def Runs (config : OperatorConfig) (phase : WindowPhase) : Prop :=
  phase.isEscalated = true → config.executeAsFallback = true

inductive Idle (config : OperatorConfig) (now : Uint 64) (job : KnownJob) :
    Except Rejection WindowPhase → Flow → Prop
  | refused (e : Rejection) : Idle config now job (.error e) (verdict now job e)
  | declined {phase : WindowPhase} (hdeclines : ¬ Runs config phase) :
      Idle config now job (.ok phase) .rest
  | unreadable {phase : WindowPhase} {error : PayloadError} (hruns : Runs config phase)
      (hread : Payload.ofBytes job.payload = .error error) :
      Idle config now job (.ok phase) (verdict now job (.payload error))

structure Closes (config : OperatorConfig) (c : Coordinator MemoryToken ε) (id : JobId)
    (job : KnownJob) (r : JobRecord) (phase : WindowPhase) (payload : Payload)
    (l : Ledger MemoryToken) : Prop where
  pending : c.jobs.pending id = .ok r
  check : c.check config.operator id job.params = .ok phase
  runs : Runs config phase
  read : Payload.ofBytes job.payload = .ok payload
  jobId_eq : payload.jobId = id
  levies : Execution.Levies c.ledger r config.operator phase l

omit [JobEffect ε] in
theorem Closes.transfer {l' : Ledger MemoryToken} (h : Closes config c id job r phase payload l)
    (hunmoved : c.Unmoved d) (hjob : d.jobs.pending id = c.jobs.pending id)
    (hlevies : Execution.Levies d.ledger r config.operator phase l') :
    Closes config d id job r phase payload l' :=
  ⟨hjob.trans h.pending, (hunmoved.check hjob).trans h.check, h.runs, h.read, h.jobId_eq, hlevies⟩

theorem Closes.execute (h : Closes config c id job r phase payload l) :
    ∃ receipt, (c.execute config.operator payload job.params).1 = .ok receipt ∧
      (c.execute config.operator payload job.params).2.jobs =
        (c.closed id r ⟨payload, config.operator, r.gasLimit⟩ l).jobs ∧
      (c.execute config.operator payload job.params).2.place.effect =
        (JobEffect.apply c.place.effect ⟨payload, config.operator, r.gasLimit⟩).2 ∧
      ∀ view, (c.closed id r ⟨payload, config.operator, r.gasLimit⟩ l).Alike view
        (c.execute config.operator payload job.params).2 := by
  obtain ⟨hpending, hcheck, -, -, rfl, hlevies⟩ := h
  obtain ⟨hfound, hstatus⟩ := JobStore.pending_eq_ok_iff.1 hpending
  obtain ⟨slash, hpenalize⟩ := hlevies.penalize
  obtain ⟨r', hfound', -, hchecked⟩ := check_ok hcheck
  obtain rfl : r = r' := Option.some.inj (hfound.symm.trans hfound')
  have hexecute := Execution.execute_of_penalize (w := c.place) hfound hstatus hchecked hpenalize
  let i : Invocation := ⟨payload, config.operator, r.gasLimit⟩
  rw [Coordinator.execute, hexecute]
  exact ⟨⟨payload.jobId, config.operator, JobEffect.outcome c.place.effect i, slash⟩, rfl, rfl, rfl,
    fun _ => ⟨rfl, rfl, rfl, rfl⟩⟩

theorem Closes.alike (h : Closes config c id job r phase payload l)
    (view : JobStatus → JobStatus) :
    (c.closed id r ⟨payload, config.operator, r.gasLimit⟩ l).Alike view
      (c.execute config.operator payload job.params).2 := by
  obtain ⟨-, -, -, -, halike⟩ := h.execute
  exact halike view

theorem Closes.keeps (h : Closes config c id job r phase payload l)
    (ha : JobEffect.Answers view answers c.place.effect) :
    JobEffect.Answers view answers
      (c.execute config.operator payload job.params).2.place.effect := by
  obtain ⟨-, -, -, heffect, -⟩ := h.execute
  rw [heffect]
  exact ha.apply _

theorem Closes.unmoved (h : Closes config c id job r phase payload l) (i : Invocation) :
    c.Unmoved (c.closed id r i l) := by
  obtain ⟨hpods, hbonded⟩ := h.levies.frame
  exact ⟨rfl, rfl, hpods, hbonded⟩

inductive Steady (config : OperatorConfig) (c : Coordinator MemoryToken ε) (id : JobId)
    (job : KnownJob) : Flow → Coordinator MemoryToken ε → Prop
  | idle {flow : Flow}
      (hidle : Idle config c.clock.timestamp job (c.check config.operator id job.params) flow) :
      Steady config c id job flow c
  | closes {r : JobRecord} {phase : WindowPhase} {payload : Payload} {l : Ledger MemoryToken}
      (hcloses : Closes config c id job r phase payload l) :
      Steady config c id job .advance (c.execute config.operator payload job.params).2

theorem Steady.frame (h : Steady config c id job flow c') :
    c.Unmoved c' ∧ ∀ other, id ≠ other → c'.jobs.get? other = c.jobs.get? other := by
  cases h with
  | idle hidle => exact ⟨.refl c, fun _ _ => rfl⟩
  | @closes r phase payload l hcloses =>
      obtain ⟨receipt, -, hjobs, -, -⟩ := hcloses.execute
      have hafter := (hcloses.alike JobStatus.hideOutcome).unmoved
      refine ⟨(hcloses.unmoved _).trans hafter, fun other hne => ?_⟩
      rw [hjobs, get?_closed, if_neg hne]

theorem Steady.pending_other (h : Steady config c id job flow c') (hne : id ≠ other) :
    c'.jobs.pending other = c.jobs.pending other := by
  rw [JobStore.pending, JobStore.pending, h.frame.2 other hne]

theorem Steady.keeps (h : Steady config c id job flow c')
    (ha : JobEffect.Answers view answers c.place.effect) :
    JobEffect.Answers view answers c'.place.effect := by
  cases h with
  | idle hidle => exact ha
  | closes hcloses => exact hcloses.keeps ha

omit [JobEffect ε] in
theorem Idle.transfer (h : Idle config c.clock.timestamp job
      (c.check config.operator id job.params) flow)
    (hunmoved : c.Unmoved d) (hjob : d.jobs.pending id = c.jobs.pending id) :
    Idle config d.clock.timestamp job (d.check config.operator id job.params) flow := by
  rw [hunmoved.clock, hunmoved.check hjob]
  exact h

theorem Steady.congr (hview : JobStatus.ShowsPending view) (h : Steady config c id job flow c')
    (halike : c.Alike view d) (ha : JobEffect.Answers view answers c.place.effect)
    (hd : JobEffect.Answers view answers d.place.effect) :
    ∃ d', Steady config d id job flow d' ∧ c'.Alike view d' := by
  have hjob := halike.pending_eq hview id
  cases h with
  | idle hidle => exact ⟨d, .idle (hidle.transfer halike.unmoved hjob), halike⟩
  | closes hcloses =>
      have hthere := hcloses.transfer halike.unmoved hjob (halike.ledger.symm ▸ hcloses.levies)
      have hsame := (halike.closed ha hd ..).trans (hthere.alike view)
      exact ⟨_, .closes hthere, (hcloses.alike view).symm.trans hsame⟩

theorem Closes.swap {phase' : WindowPhase} {payload' : Payload} {r' : JobRecord}
    {l' : Ledger MemoryToken} (hp : c.pods.Priced schedule)
    (ha : JobEffect.Answers view answers c.place.effect) (hne : id ≠ other)
    (h : Closes config c id job r phase payload l)
    (h' : Closes config (c.execute config.operator payload job.params).2 other job' r' phase'
      payload' l') :
    ∃ m, Closes config c other job' r' phase' payload' m ∧
      Closes config (c.execute config.operator payload' job'.params).2 id job r phase payload l' ∧
      ((c.execute config.operator payload job.params).2.closed other r'
          ⟨payload', config.operator, r'.gasLimit⟩ l').Alike view
        ((c.execute config.operator payload' job'.params).2.closed id r
          ⟨payload, config.operator, r.gasLimit⟩ l') := by
  have hafter := h.alike view
  have hsteady := Steady.closes h
  obtain ⟨m, hfirst, hsecond⟩ := h.levies.swap hp (hafter.ledger ▸ h'.levies)
  have hthere : Closes config c other job' r' phase' payload' m :=
    h'.transfer hsteady.frame.1.symm (hsteady.pending_other hne).symm hfirst
  have hafter' := hthere.alike view
  have hsteady' := Steady.closes hthere
  obtain ⟨hfound, -⟩ := JobStore.pending_eq_ok_iff.1 h.pending
  refine ⟨m, hthere, h.transfer hsteady'.frame.1 (hsteady'.pending_other hne.symm)
    (hafter'.ledger.symm ▸ hsecond), ?_⟩
  exact (hafter.closed ha (h.keeps ha) ..).symm.trans
    ((closed_comm hne hfound r' _ _ l m l').trans (hafter'.closed ha (hthere.keeps ha) ..))

theorem Steady.swap (hp : c.pods.Priced schedule)
    (ha : JobEffect.Answers view answers c.place.effect) (hne : id ≠ other)
    (h : Steady config c id job flow c₁) (h' : Steady config c₁ other job' flow' c₂) :
    ∃ d₁ d₂, Steady config c other job' flow' d₁ ∧ Steady config d₁ id job flow d₂ ∧
      c₂.Alike view d₂ := by
  have hunmoved := h.frame.1
  have hothers := h.pending_other hne
  cases h with
  | idle hidle =>
      have hback := hidle.transfer h'.frame.1 (h'.pending_other hne.symm)
      exact ⟨c₂, c₂, h', .idle hback, .refl c₂⟩
  | closes hcloses =>
      cases h' with
      | idle hidle' =>
          have hback := hidle'.transfer hunmoved.symm hothers.symm
          exact ⟨c, _, .idle hback, .closes hcloses, .refl _⟩
      | closes hcloses' =>
          obtain ⟨m, hfirst, hsecond, halike⟩ := hcloses.swap hp ha hne hcloses'
          have hlast := halike.trans (hsecond.alike view)
          exact ⟨_, _, .closes hfirst, .closes hsecond, (hcloses'.alike view).symm.trans hlast⟩

inductive SteadyPass (config : OperatorConfig) : Coordinator MemoryToken ε → Table JobId KnownJob →
    List (JobId × KnownJob) → Coordinator MemoryToken ε → Table JobId KnownJob → Prop
  | done {c : Coordinator MemoryToken ε} {known : Table JobId KnownJob} :
      SteadyPass config c known [] c known
  | tried {c c₁ c' : Coordinator MemoryToken ε} {known known' : Table JobId KnownJob} {id : JobId}
      {job : KnownJob} {flow : Flow} {more : List (JobId × KnownJob)}
      (hsteady : Steady config c id job flow c₁)
      (hrest : SteadyPass config c₁ (remaining known id flow) more c' known') :
      SteadyPass config c known ((id, job) :: more) c' known'

variable {known known' : Table JobId KnownJob} {jobs jobs' : List (JobId × KnownJob)}

theorem remaining_comm (known : Table JobId KnownJob) (id other : JobId) (flow flow' : Flow) :
    remaining (remaining known id flow) other flow' =
      remaining (remaining known other flow') id flow := by
  cases flow <;> cases flow' <;> first | rfl | exact known.erase_comm id other

theorem SteadyPass.congr (hview : JobStatus.ShowsPending view)
    (h : SteadyPass config c known jobs c' known') (halike : c.Alike view d)
    (ha : JobEffect.Answers view answers c.place.effect)
    (hd : JobEffect.Answers view answers d.place.effect) :
    ∃ d', SteadyPass config d known jobs d' known' ∧ c'.Alike view d' := by
  induction h generalizing d with
  | done => exact ⟨d, .done, halike⟩
  | tried hsteady hrest ih =>
      obtain ⟨d₁, hsteady', halike₁⟩ := hsteady.congr hview halike ha hd
      obtain ⟨d', hrest', halike'⟩ := ih halike₁ (hsteady.keeps ha) (hsteady'.keeps hd)
      exact ⟨d', .tried hsteady' hrest', halike'⟩

theorem SteadyPass.perm (hview : JobStatus.ShowsPending view) (hperm : jobs.Perm jobs')
    (hnodup : (jobs.map Prod.fst).Nodup) (hp : c.pods.Priced schedule)
    (h : SteadyPass config c known jobs c' known')
    (halike : c.Alike view d) (ha : JobEffect.Answers view answers c.place.effect)
    (hd : JobEffect.Answers view answers d.place.effect) :
    ∃ d', SteadyPass config d known jobs' d' known' ∧ c'.Alike view d' := by
  induction hperm generalizing c c' d known with
  | nil =>
      cases h
      exact ⟨d, .done, halike⟩
  | cons entry _ ih =>
      cases h with
      | tried hsteady hrest =>
          obtain ⟨d₁, hsteady', halike₁⟩ := hsteady.congr hview halike ha hd
          obtain ⟨d', hrest', halike'⟩ := ih (List.nodup_cons.1 hnodup).2
            (hsteady.frame.1.pods.symm ▸ hp) hrest halike₁ (hsteady.keeps ha)
            (hsteady'.keeps hd)
          exact ⟨d', .tried hsteady' hrest', halike'⟩
  | swap second first more =>
      have hne : first.1 ≠ second.1 := fun heq =>
        (List.nodup_cons.1 hnodup).1 (heq ▸ List.mem_cons_self)
      cases h with
      | tried hsteady hrest =>
          cases hrest with
          | tried hsteady' hrest' =>
              obtain ⟨d₁, d₂, hfirst, hsecond, hswapped⟩ := hsteady.swap hp ha hne hsteady'
              have ha₁ := hfirst.keeps ha
              obtain ⟨e₁, hfirst', halike₁⟩ := hfirst.congr hview halike ha hd
              have hd₁ := hfirst'.keeps hd
              obtain ⟨e₂, hsecond', halike₂⟩ := hsecond.congr hview halike₁ ha₁ hd₁
              obtain ⟨d', hrest', halike'⟩ := hrest'.congr hview (hswapped.trans halike₂)
                (hsteady'.keeps (hsteady.keeps ha)) (hsecond'.keeps hd₁)
              rw [remaining_comm] at hrest'
              exact ⟨d', .tried hfirst' (.tried hsecond' hrest'), halike'⟩
  | trans hperm _ ih ih' =>
      obtain ⟨d₁, hmiddle, halike₁⟩ := ih hnodup hp h (.refl c) ha ha
      obtain ⟨d', hlast, halike'⟩ :=
        ih' ((hperm.map Prod.fst).nodup_iff.1 hnodup) hp hmiddle halike ha hd
      exact ⟨d', hlast, halike₁.trans halike'⟩

end Operator

end BondedRelay
