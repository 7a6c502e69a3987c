import BondedRelay.Proofs.Operator.Dropped
import BondedRelay.Proofs.Operator.Exchange

namespace BondedRelay

namespace Coordinator

variable {τ ε : Type} [UtilityToken τ] [JobEffect ε] {c : Coordinator τ ε} {who : Address}
  {params : ExecutionParams}

theorem executeBytes_of_read {bytes : Bytes} {payload : Payload}
    (hread : Payload.ofBytes bytes = .ok payload) :
    c.executeBytes who bytes params = c.execute who payload params := by
  rw [Coordinator.executeBytes, hread]

theorem isBonded_of_after_executeBytes {bytes : Bytes} {operator : Address}
    (h : (c.after (.executeBytes who bytes params)).ledger.isBonded operator = true) :
    c.ledger.isBonded operator = true := by
  unfold Ledger.isBonded at h ⊢
  rcases c.bondChange_after (.executeBytes who bytes params) with ⟨reply, -, hchange⟩ | hsame
  · have hoperator := hchange operator
    generalize c.ledger.record? operator = before at hoperator ⊢
    generalize (c.after _).ledger.record? operator = now at hoperator h
    cases hoperator with
    | same => exact h
    | bonded hcall => cases hcall
    | _ => rfl
  · rwa [hsame] at h

end Coordinator

namespace Operator

open Coordinator

variable {ε : Type} [JobEffect ε] {c c' c₁ : Coordinator MemoryToken ε} {config : OperatorConfig}
  {id : JobId}
  {job : KnownJob} {flow : Flow} {r : JobRecord} {phase : WindowPhase} {payload : Payload}
  {known known' : Table JobId KnownJob} {jobs jobs' : List (JobId × KnownJob)} {o : Operator}

theorem executesIn_iff : o.executesIn phase = true ↔ Runs o.config phase := by
  unfold executesIn Runs
  cases phase.isEscalated <;> simp

theorem attempt_of_idle (h : Idle o.config c.clock.timestamp job
      (c.check o.config.operator id job.params) flow) :
    (attempt c o id job).1 = flow ∧ (attempt c o id job).2.1 = c := by
  generalize hcheck : c.check o.config.operator id job.params = answer at h
  have hdesk : JobDesk.check c o.config.operator id ⟨job.details.gasLimit, job.details.gasPrice⟩ =
    (answer, c) := Prod.ext hcheck rfl
  cases h with
  | refused e =>
      simp only [attempt, hdesk]
      exact ⟨rfl, trivial⟩
  | declined hdeclines =>
      have hruns := Bool.eq_false_iff.2 (executesIn_iff.not.2 hdeclines)
      simp [attempt, hdesk, hruns]
  | @unreadable phase error hruns hread =>
      have hexecute : JobDesk.execute c o.config.operator job.payload
          ⟨job.details.gasLimit, job.details.gasPrice⟩ = (.error (.payload error), c) := by
        show c.executeBytes _ _ _ = _
        rw [Coordinator.executeBytes, hread]
      simp only [attempt, hdesk, executesIn_iff.2 hruns, hexecute, if_true]
      exact ⟨rfl, trivial⟩

theorem attempt_of_runs (hcheck : c.check o.config.operator id job.params = .ok phase)
    (hruns : Runs o.config phase) (hread : Payload.ofBytes job.payload = .ok payload) :
    (attempt c o id job).2.1 = (c.execute o.config.operator payload job.params).2 ∧
      ∀ receipt, (c.execute o.config.operator payload job.params).1 = .ok receipt →
        (attempt c o id job).1 = .advance := by
  have hdesk : JobDesk.check c o.config.operator id ⟨job.details.gasLimit, job.details.gasPrice⟩ =
    (.ok phase, c) := Prod.ext hcheck rfl
  have hbytes : JobDesk.execute c o.config.operator job.payload
      ⟨job.details.gasLimit, job.details.gasPrice⟩ =
      c.execute o.config.operator payload job.params := executeBytes_of_read hread
  simp only [attempt, hdesk, executesIn_iff.2 hruns, hbytes, if_true]
  rcases c.execute o.config.operator payload job.params with ⟨e | receipt, c'⟩
  · exact ⟨rfl, fun receipt h => by cases h⟩
  · exact ⟨rfl, fun _ _ => rfl⟩

theorem Steady.attempt (h : Steady o.config c id job flow c') :
    (attempt c o id job).1 = flow ∧ (attempt c o id job).2.1 = c' := by
  cases h with
  | idle hidle => exact attempt_of_idle hidle
  | closes hcloses =>
      obtain ⟨receipt, hok, -, -⟩ := hcloses.execute
      obtain ⟨hafter, hflow⟩ := attempt_of_runs hcloses.check hcloses.runs hcloses.read
      exact ⟨hflow receipt hok, hafter⟩

structure Fails (config : OperatorConfig) (c : Coordinator MemoryToken ε) (id : JobId)
    (job : KnownJob) (c' : Coordinator MemoryToken ε) : Prop where
  runs : ∃ phase, c.check config.operator id job.params = .ok phase ∧ Runs config phase
  reads : ∃ payload, Payload.ofBytes job.payload = .ok payload
  kept : c'.jobs.get? id = c.jobs.get? id

inductive Upset (config : OperatorConfig) (c : Coordinator MemoryToken ε)
    (jobs : List (JobId × KnownJob)) (c' : Coordinator MemoryToken ε) : Prop
  | demoted {operator : Address} (hbefore : c.ledger.isBonded operator = true)
      (hafter : c'.ledger.isBonded operator = false)
  | unpaid {id : JobId} {job : KnownJob} (hmem : (id, job) ∈ jobs)
      (huncovered : c.ledger.held.toNat < c.ledger.liabilities)
      (hfails : Fails config c id job c')

theorem steady_of_idle (h : Idle o.config c.clock.timestamp job
      (c.check o.config.operator id job.params) flow) :
    Steady o.config c id job (attempt c o id job).1 (attempt c o id job).2.1 := by
  obtain ⟨hflow, hafter⟩ := attempt_of_idle h
  rw [hflow, hafter]
  exact .idle h

theorem upset_of_isBonded_ne (jobs : List (JobId × KnownJob)) {bytes : Bytes}
    {params : ExecutionParams}
    (h : (c.after (.executeBytes config.operator bytes params)).ledger.isBonded ≠
      c.ledger.isBonded) :
    Upset config c jobs (c.after (.executeBytes config.operator bytes params)) := by
  obtain ⟨operator, hne⟩ := Function.ne_iff.1 h
  cases hafter :
    (c.after (.executeBytes config.operator bytes params)).ledger.isBonded operator with
  | true => exact absurd (hafter.trans (isBonded_of_after_executeBytes hafter).symm) hne
  | false =>
      rw [hafter] at hne
      exact .demoted (eq_true_of_ne_false hne.symm) hafter

theorem closes_of_execute {receipt : ExecutionReceipt}
    (hcheck : c.check config.operator payload.jobId job.params = .ok phase)
    (hruns : Runs config phase) (hread : Payload.ofBytes job.payload = .ok payload)
    (hexecute : c.execute config.operator payload job.params = (.ok receipt, c'))
    (hkeeps : c'.ledger.isBonded = c.ledger.isBonded) :
    ∃ r l, Closes config c payload.jobId job r phase payload l := by
  obtain ⟨place, hplace, rfl⟩ := execute_ok hexecute
  obtain ⟨r, phase', hfound, hpending, hchecked, hpenalize, -⟩ := Execution.execute_ok hplace
  obtain ⟨r', hfound', -, hchecked'⟩ := check_ok hcheck
  obtain rfl : r' = r := Option.some.inj (hfound'.symm.trans hfound)
  obtain rfl : phase' = phase := Except.ok.inj (hchecked.symm.trans hchecked')
  exact ⟨r', place.ledger, JobStore.pending_eq_ok_iff.2 ⟨hfound, hpending⟩, hcheck, hruns, hread,
    rfl, Execution.levies_of_penalize hpenalize (congrFun hkeeps r'.primary)⟩

omit [JobEffect ε] in
theorem Upset.mono (h : Upset config c jobs c') (hjobs : ∀ entry ∈ jobs, entry ∈ jobs') :
    Upset config c jobs' c' := by
  cases h with
  | demoted hbefore hafter => exact .demoted hbefore hafter
  | unpaid hmem huncovered hfails => exact .unpaid (hjobs _ hmem) huncovered hfails

theorem unpaid_of_execute_error {e : Rejection} (hseated : c.Seated)
    (hcheck : c.check config.operator payload.jobId job.params = .ok phase)
    (hruns : Runs config phase) (hread : Payload.ofBytes job.payload = .ok payload)
    (hexecute : c.execute config.operator payload job.params = (.error e, c')) :
    Upset config c [(payload.jobId, job)] c' := by
  have hcall : c.executeBytes config.operator job.payload job.params = (.error e, c') :=
    (executeBytes_of_read hread).trans hexecute
  refine .unpaid List.mem_cons_self (Nat.lt_of_not_le fun hcovered => ?_)
    ⟨⟨phase, hcheck, hruns⟩, ⟨payload, hread⟩, by rw [jobs_of_failed hcall]⟩
  obtain ⟨receipt, -, hok, -⟩ := execute_of_covered hseated hcovered hcheck
  rw [hexecute] at hok
  cases hok

theorem closes_or_upset_of_execute {receipt : ExecutionReceipt}
    (hcheck : c.check config.operator payload.jobId job.params = .ok phase)
    (hruns : Runs config phase) (hread : Payload.ofBytes job.payload = .ok payload)
    (hexecute : c.execute config.operator payload job.params = (.ok receipt, c')) :
    (∃ r l, Closes config c payload.jobId job r phase payload l) ∨
      Upset config c [(payload.jobId, job)] c' := by
  by_cases hkeeps : c'.ledger.isBonded = c.ledger.isBonded
  · exact .inl (closes_of_execute hcheck hruns hread hexecute hkeeps)
  · right
    obtain rfl : c.after (.executeBytes config.operator job.payload job.params) = c' :=
      congrArg Prod.snd ((executeBytes_of_read hread).trans hexecute)
    exact upset_of_isBonded_ne _ hkeeps

theorem attempt_cases (hseated : c.Seated) (hreads : job.Reads id) :
    Steady o.config c id job (attempt c o id job).1 (attempt c o id job).2.1 ∨
      Upset o.config c [(id, job)] (attempt c o id job).2.1 := by
  rcases hcheck : c.check o.config.operator id job.params with e | phase
  · exact .inl (steady_of_idle (hcheck ▸ Idle.refused e))
  by_cases hruns : Runs o.config phase
  swap
  · exact .inl (steady_of_idle (hcheck ▸ Idle.declined hruns))
  rcases hread : Payload.ofBytes job.payload with error | payload
  · exact .inl (steady_of_idle (hcheck ▸ Idle.unreadable hruns hread))
  obtain ⟨hafter, hflow⟩ := attempt_of_runs hcheck hruns hread
  obtain rfl := hreads payload hread
  rcases hexecute : c.execute o.config.operator payload job.params with ⟨e | receipt, c'⟩
  · rw [hafter, hexecute]
    exact .inr (unpaid_of_execute_error hseated hcheck hruns hread hexecute)
  · rw [hflow receipt (by rw [hexecute]), hafter]
    rcases closes_or_upset_of_execute hcheck hruns hread hexecute with ⟨r, l, hcloses⟩ | hupset
    · exact .inl (.closes hcloses)
    · rw [hexecute]
      exact .inr hupset

theorem Steady.covered (h : Steady config c id job flow c')
    (hcovered : c.ledger.liabilities ≤ c.ledger.held.toNat) :
    c'.ledger.liabilities ≤ c'.ledger.held.toNat := by
  cases h with
  | idle hidle => exact hcovered
  | closes hcloses =>
      rw [(hcloses.alike JobStatus.hideOutcome).ledger]
      exact hcloses.levies.covered hcovered

theorem Upset.of_steady (h : Upset config c₁ jobs c') (hsteady : Steady config c id job flow c₁)
    (hfirst : id ∉ jobs.map Prod.fst) : Upset config c ((id, job) :: jobs) c' := by
  have hunmoved := hsteady.frame.1
  cases h with
  | demoted hbefore hafter => exact .demoted (hunmoved.isBonded ▸ hbefore) hafter
  | @unpaid other job' hmem huncovered hfails =>
      have hne : id ≠ other := fun heq => hfirst (heq ▸ List.mem_map_of_mem hmem)
      obtain ⟨⟨phase, hcheck, hruns⟩, hreads, hopen⟩ := hfails
      refine .unpaid (List.mem_cons_of_mem _ hmem) ?_
        ⟨⟨phase, ?_, hruns⟩, hreads, hopen.trans (hsteady.frame.2 other hne)⟩
      · exact Nat.lt_of_not_le fun hcovered =>
          absurd (hsteady.covered hcovered) (Nat.not_le_of_lt huncovered)
      · rw [← hunmoved.check (hsteady.pending_other hne), hcheck]

theorem Attempts.isBonded_of_after {operator : Address} (h : Attempts config c id job flow c')
    (hafter : c'.ledger.isBonded operator = true) : c.ledger.isBonded operator = true := by
  cases h with
  | refused hcheck hflow => exact hafter
  | passed hcheck hescalated hdeclines => exact hafter
  | failed hcheck hexecute hflow =>
      obtain rfl := congrArg Prod.snd hexecute
      exact isBonded_of_after_executeBytes hafter
  | executed hcheck hexecute =>
      obtain rfl := congrArg Prod.snd hexecute
      exact isBonded_of_after_executeBytes hafter

theorem Passes.isBonded_of_after {operator : Address}
    (h : Passes config c known jobs c' known')
    (hafter : c'.ledger.isBonded operator = true) : c.ledger.isBonded operator = true := by
  induction h with
  | done => exact hafter
  | tried hattempts hrest ih => exact hattempts.isBonded_of_after (ih hafter)

theorem Upset.of_passes (h : Upset config c [(id, job)] c₁)
    (hpasses : Passes config c₁ known jobs c' known') (hfirst : id ∉ jobs.map Prod.fst)
    (hreads : ∀ entry ∈ jobs, entry.2.Reads entry.1) : Upset config c ((id, job) :: jobs) c' := by
  cases h with
  | demoted hbefore hafter =>
      refine .demoted hbefore (Bool.eq_false_iff.2 fun hlater => ?_)
      rw [hpasses.isBonded_of_after hlater] at hafter
      cases hafter
  | unpaid hmem huncovered hfails =>
      obtain ⟨rfl, rfl⟩ := Prod.mk.inj (List.mem_singleton.1 hmem)
      exact .unpaid List.mem_cons_self huncovered
        ⟨hfails.runs, hfails.reads, (hpasses.get?_other hfirst hreads).trans hfails.kept⟩

theorem attemptAll_cons (c : Coordinator MemoryToken ε) (o : Operator) (id : JobId) (job : KnownJob)
    (more : List (JobId × KnownJob)) :
    ∃ o₁, (attemptAll c o ((id, job) :: more)).2 = (attemptAll (attempt c o id job).2.1 o₁ more).2 ∧
      o₁.config = o.config ∧ o₁.known = remaining o.known id (attempt c o id job).1 := by
  obtain ⟨-, hcounted⟩ := attempts c o id job
  rcases htried : attempt c o id job with ⟨flow, c₁, o₁⟩
  rw [htried] at hcounted
  refine ⟨{ o₁ with known := remaining o₁.known id flow }, ?_, ?_, ?_⟩
  · cases flow <;> simp [attemptAll, htried, remaining, forget]
  · rw [show o₁ = _ from hcounted]
  · rw [show o₁ = _ from hcounted]

theorem SteadyPass.attemptAll (h : SteadyPass config c known jobs c' known')
    (hconfig : o.config = config) (hknown : o.known = known) :
    (attemptAll c o jobs).2.1 = c' ∧ (attemptAll c o jobs).2.2.known = known' := by
  induction h generalizing o with
  | done => exact ⟨rfl, hknown⟩
  | @tried c c₁ c' known known' id job flow more hsteady hrest ih =>
      subst hconfig hknown
      obtain ⟨hflow, hafter⟩ := hsteady.attempt
      obtain ⟨o₁, hall, hconfig₁, hknown₁⟩ := attemptAll_cons c o id job more
      rw [hflow] at hknown₁
      rw [hall, hafter]
      exact ih hconfig₁ hknown₁

theorem pass_cases (hseated : c.Seated) (hnodup : (jobs.map Prod.fst).Nodup)
    (hreads : ∀ entry ∈ jobs, entry.2.Reads entry.1) :
    SteadyPass o.config c o.known jobs (attemptAll c o jobs).2.1 (attemptAll c o jobs).2.2.known ∨
      Upset o.config c jobs (attemptAll c o jobs).2.1 := by
  induction jobs generalizing c o with
  | nil => exact .inl .done
  | cons entry more ih =>
      obtain ⟨id, job⟩ := entry
      obtain ⟨hfirst, hmore⟩ := List.nodup_cons.1 hnodup
      obtain ⟨hread, hreadMore⟩ := List.forall_mem_cons.1 hreads
      obtain ⟨o₁, hrest, hconfig, hknown⟩ := attemptAll_cons c o id job more
      have hseated₁ : (attempt c o id job).2.1.Seated := by
        obtain ⟨moves, hreaches⟩ := (attempts c o id job).1.works.reaches
        rw [hreaches]
        exact hseated.run moves
      rw [hrest]
      rcases attempt_cases (o := o) hseated hread with hsteady | hupset
      · rcases ih (o := o₁) hseated₁ hmore hreadMore with hpass | hupset
        · rw [hconfig, hknown] at hpass
          exact .inl (.tried hsteady hpass)
        · rw [hconfig] at hupset
          exact .inr (hupset.of_steady hsteady hfirst)
      · have hpasses := (passes (attempt c o id job).2.1 o₁ more).1
        rw [hconfig] at hpasses
        exact .inr (hupset.of_passes hpasses hfirst hreadMore)

end Operator

structure AlternatingEffect where
  reverts : Bool
  deriving DecidableEq, Repr

instance : JobEffect AlternatingEffect where
  apply e _ := (if e.reverts then some "every second invocation reverts" else none, ⟨!e.reverts⟩)

namespace Watch

open Coordinator Operator

section

variable {τ ε : Type} {w : Watch τ ε}

def Countable (w : Watch τ ε) : Prop :=
  ∀ details payload, .jobAvailable details (Payload.toBytes payload) ∈ w.coordinator.feed.sent →
    payload.data.length < Uint.limit 64

theorem Sound.reads_of_countable (hs : w.Sound) (hcountable : w.Countable) :
    ∀ id job, w.drained.find? id = some job → job.Reads id := by
  intro id job hknown
  obtain ⟨r, payload, hknows⟩ := hs.knows hknown
  by_cases hdata : payload.data.length < 0x100000000
  · exact hknows.reads hdata
  · intro read hread
    have hlimit : Uint.limit 64 ≤ Uint.limit 256 := Uint.limit_le_limit (by decide)
    have hcount := hcountable _ payload hknows.announced
    rw [hknows.payload_eq, Payload.ofBytes_of_long (Nat.le_of_not_lt hdata) (by omega)] at hread
    cases hread

end

variable {ε : Type} [JobEffect ε] {view : JobStatus → JobStatus} {answers : Invocation → JobStatus}
  {w : Watch MemoryToken ε} {flow : Flow} {c₁ c₂ : Coordinator MemoryToken ε}
  {o₁ o₂ : Operator} {schedule : BondSchedule} {order : List (JobId × KnownJob)}

structure SameOutcome (view : JobStatus → JobStatus) (c₁ : Coordinator MemoryToken ε)
    (o₁ : Operator) (c₂ : Coordinator MemoryToken ε) (o₂ : Operator) : Prop where
  jobs : c₁.jobs.through view = c₂.jobs.through view
  ledger : c₁.ledger = c₂.ledger
  known : o₁.known = o₂.known

omit [JobEffect ε] in
theorem SameOutcome.symm (h : SameOutcome view c₁ o₁ c₂ o₂) : SameOutcome view c₂ o₂ c₁ o₁ :=
  ⟨h.jobs.symm, h.ledger.symm, h.known.symm⟩

theorem steady_or_upset (hs : w.Sound) (hcountable : w.Countable)
    (h : Ticks w.coordinator w.operator flow c₁ o₁) :
    (∃ order, order.Perm w.drained.entries ∧
      SteadyPass w.operator.config w.coordinator w.drained order c₁ o₁.known) ∨
        Upset w.operator.config w.coordinator w.drained.entries c₁ := by
  obtain ⟨-, order, hperm, hall⟩ := h
  have hnodup : (order.map Prod.fst).Nodup := (hperm.map Prod.fst).nodup_iff.2 w.drained.nodup
  have hreads : ∀ entry ∈ order, entry.2.Reads entry.1 := fun entry hmem =>
    hs.reads_of_countable hcountable _ _ (Table.mem_entries_iff.1 (hperm.mem_iff.1 hmem))
  have hcases := pass_cases (o := w.operator.drain w.coordinator.feed) hs.seated hnodup hreads
  rw [hall, config_drain] at hcases
  rcases hcases with hpass | hupset
  · exact .inl ⟨order, hperm, hpass⟩
  · exact .inr (hupset.mono fun entry hmem => hperm.mem_iff.1 hmem)

theorem same_of_steady (hview : JobStatus.ShowsPending view)
    (hp : w.coordinator.pods.Priced schedule)
    (ha : JobEffect.Answers view answers w.coordinator.place.effect)
    (hperm : order.Perm w.drained.entries)
    (hpass : SteadyPass w.operator.config w.coordinator w.drained order c₁ o₁.known)
    (h : Ticks w.coordinator w.operator flow c₂ o₂) : SameOutcome view c₁ o₁ c₂ o₂ := by
  obtain ⟨-, order', hperm', hall⟩ := h
  have hnodup : (order.map Prod.fst).Nodup := (hperm.map Prod.fst).nodup_iff.2 w.drained.nodup
  obtain ⟨d, hpass', halike⟩ :=
    hpass.perm hview (hperm.trans hperm'.symm) hnodup hp (.refl w.coordinator) ha ha
  obtain ⟨hafter, hknown⟩ := hpass'.attemptAll (config_drain ..) rfl
  rw [hall] at hafter hknown
  obtain rfl : c₂ = d := hafter
  exact ⟨halike.jobs.symm, halike.ledger.symm, hknown.symm⟩

theorem same_of_steady_regardless (hp : w.coordinator.pods.Priced schedule)
    (hperm : order.Perm w.drained.entries)
    (hpass : SteadyPass w.operator.config w.coordinator w.drained order c₁ o₁.known)
    (h : Ticks w.coordinator w.operator flow c₂ o₂) :
    SameOutcome JobStatus.hideOutcome c₁ o₁ c₂ o₂ ∧
      (JobEffect.Forgetful w.coordinator.place.effect → c₁.jobs = c₂.jobs) := by
  refine ⟨same_of_steady JobStatus.showsPending_hideOutcome hp (JobEffect.answers_hideOutcome _)
    hperm hpass h, fun hforgetful => ?_⟩
  have hsame := same_of_steady JobStatus.showsPending_id hp hforgetful.answers_id hperm hpass h
  rw [← JobStore.through_id c₁.jobs, ← JobStore.through_id c₂.jobs]
  exact hsame.jobs

theorem tick_order_irrelevant_unless_upset (chainId : Uint 32) (config : Protocol)
    (address : Address) (token : MemoryToken) (clock : Clock) (effect : ε)
    (owners : Table Address Address) (earlier : List (Move MemoryToken ε))
    (operator : OperatorConfig) (chain : Uint 32) (metrics : Metrics) (w : Watch MemoryToken ε)
    (hwatched : Relation.ReflTransGen Turn (subscribed
      ((create chainId config address token clock effect owners).run earlier) operator chain
        metrics) w)
    (hcountable : w.Countable) (flow₁ flow₂ : Flow) (c₁ c₂ : Coordinator MemoryToken ε)
    (o₁ o₂ : Operator) (h₁ : Ticks w.coordinator w.operator flow₁ c₁ o₁)
    (h₂ : Ticks w.coordinator w.operator flow₂ c₂ o₂) :
    (SameOutcome JobStatus.hideOutcome c₁ o₁ c₂ o₂ ∧
      (JobEffect.Forgetful w.coordinator.place.effect → c₁.jobs = c₂.jobs)) ∨
        Upset operator w.coordinator w.drained.entries c₁ ∧
          Upset operator w.coordinator w.drained.entries c₂ := by
  obtain ⟨hs, -, rfl⟩ := sound hwatched
  obtain ⟨⟨moves, hreaches⟩, -, -⟩ := watched hwatched
  have hpriced : w.coordinator.pods.Priced (.ofProtocol config) := by
    rw [hreaches, ← Coordinator.run_append]
    exact Ledger.priced_edits (PodRegistry.priced_empty _) (edits_run ..)
  rcases steady_or_upset hs hcountable h₁ with ⟨order, hperm, hpass⟩ | hupset₁
  · exact .inl (same_of_steady_regardless hpriced hperm hpass h₂)
  · rcases steady_or_upset hs hcountable h₂ with ⟨order, hperm, hpass⟩ | hupset₂
    · obtain ⟨hsame, hjobs⟩ := same_of_steady_regardless hpriced hperm hpass h₁
      exact .inl ⟨hsame.symm, fun hforgetful => (hjobs hforgetful).symm⟩
    · exact .inr ⟨hupset₁, hupset₂⟩

theorem two_slashes_agree_in_both_orders :
    let config : Protocol := { Protocol.standard with fallbackCount := 1, bondUnit := 100 }
    let token := (((MemoryToken.empty.mint 1 500).approve 1 7 500).mint 2 100).approve 2 7 100
    let start := create 1 config 7 token .standard (RecordingEffect.create []) .empty
    let c := start.run [.source 5 6, .call (.bond 1 1 500 1), .call (.bond 2 2 100 1),
      .call (.deliver ⟨5, 3, 0, [], 30, 12⟩ 5 6), .call (.deliver ⟨5, 3, 3, [], 30, 12⟩ 5 6),
      .clock (Clock.standard.advance 60)]
    let o := (subscribed start ⟨2, 1, true, none⟩ 1 (.create "operator" none)).operator
    let jobs := (drained ⟨c, o⟩).entries
    let forth := attemptAll c (o.drain c.feed) jobs
    let back := attemptAll c (o.drain c.feed) jobs.reverse
    forth.2.1.ledger.bondedAmount 1 = 300 ∧ forth.2.1.jobs = back.2.1.jobs ∧
      forth.2.1.ledger = back.2.1.ledger ∧ forth.2.2.known = back.2.2.known := by
  intro config token start c o jobs forth back
  obtain ⟨hopen, hbonded, hcovered, hkept, hbytes⟩ : c.feed.closed = false ∧
      forth.2.1.ledger.bondedAmount 1 = 300 ∧ ¬ c.ledger.held.toNat < c.ledger.liabilities ∧
      (∀ entry ∈ c.ledger.bonds.entries, forth.2.1.ledger.isBonded entry.1 = true) ∧
      ∀ event ∈ c.feed.sent, event.bytes.length < Uint.limit 64 := by
    decide +kernel
  have hwatched : Relation.ReflTransGen Turn (subscribed (start.run []) ⟨2, 1, true, none⟩ 1
      (.create "operator" none)) ⟨c, o⟩ := turns_of_moves (subscribed start _ _ _) _
  clear_value c
  refine ⟨hbonded, ?_⟩
  have hcountable : Countable ⟨c, o⟩ := fun details payload hmem =>
    Nat.lt_of_le_of_lt payload.length_data_le (hbytes _ hmem)
  have hforth : Ticks c o forth.1 forth.2.1 forth.2.2 := ⟨hopen, _, .refl _, rfl⟩
  have hback : Ticks c o back.1 back.2.1 back.2.2 := ⟨hopen, _, List.reverse_perm _, rfl⟩
  clear_value forth back
  rcases tick_order_irrelevant_unless_upset 1 config 7 token .standard (RecordingEffect.create [])
    .empty [] ⟨2, 1, true, none⟩ 1 (.create "operator" none) ⟨c, o⟩ hwatched hcountable _ _ _ _ _ _
    hforth hback with ⟨hsame, hjobs⟩ | ⟨hupset, -⟩
  · exact ⟨hjobs (RecordingEffect.forgetful _), hsame.ledger, hsame.known⟩
  · cases hupset with
    | demoted hbefore hafter =>
        obtain ⟨r, hfound⟩ := Option.isSome_iff_exists.1 hbefore
        simp [hkept _ (Table.mem_entries_iff.2 hfound)] at hafter
    | unpaid hmem huncovered hfails => exact absurd huncovered hcovered

section

variable {τ ε : Type} [UtilityToken τ] [JobEffect ε] {w : Watch τ ε} {id : JobId}

def OrderDecides (w : Watch τ ε) (id : JobId) : Prop :=
  ∃ flow₁ c₁ o₁ flow₂ c₂ o₂, Ticks w.coordinator w.operator flow₁ c₁ o₁ ∧
    Ticks w.coordinator w.operator flow₂ c₂ o₂ ∧
    c₁.isClosed id = true ∧ o₁.known.find? id = none ∧
    c₂.isClosed id = false ∧ o₂.known.find? id ≠ none

def OrderTells (w : Watch τ ε) (id : JobId) : Prop :=
  ∃ flow₁ c₁ o₁ flow₂ c₂ o₂, Ticks w.coordinator w.operator flow₁ c₁ o₁ ∧
    Ticks w.coordinator w.operator flow₂ c₂ o₂ ∧
    (c₁.jobs.get? id).map JobRecord.status ≠ (c₂.jobs.get? id).map JobRecord.status

def forth (w : Watch τ ε) : Flow × Coordinator τ ε × Operator :=
  attemptAll w.coordinator (w.operator.drain w.coordinator.feed) w.drained.entries

def back (w : Watch τ ε) : Flow × Coordinator τ ε × Operator :=
  attemptAll w.coordinator (w.operator.drain w.coordinator.feed) w.drained.entries.reverse

theorem ticks_forth (hopen : w.coordinator.feed.closed = false) :
    Ticks w.coordinator w.operator w.forth.1 w.forth.2.1 w.forth.2.2 :=
  ⟨hopen, _, .refl _, rfl⟩

theorem ticks_back (hopen : w.coordinator.feed.closed = false) :
    Ticks w.coordinator w.operator w.back.1 w.back.2.1 w.back.2.2 :=
  ⟨hopen, _, List.reverse_perm _, rfl⟩

def reverseDecides (w : Watch τ ε) (id : JobId) : Bool :=
  !w.coordinator.feed.closed && w.forth.2.1.isClosed id && (w.forth.2.2.known.find? id).isNone &&
    !w.back.2.1.isClosed id && (w.back.2.2.known.find? id).isSome

theorem orderDecides_of_reverseDecides (h : w.reverseDecides id = true) : OrderDecides w id := by
  simp only [reverseDecides, Bool.and_eq_true, Bool.not_eq_true', Option.isNone_iff_eq_none,
    Option.isSome_iff_ne_none] at h
  obtain ⟨⟨⟨⟨hopen, hclosed⟩, hgone⟩, hpending⟩, hkept⟩ := h
  exact ⟨_, _, _, _, _, _, ticks_forth hopen, ticks_back hopen, hclosed, hgone, hpending, hkept⟩

def reverseTells (w : Watch τ ε) (id : JobId) : Bool :=
  !w.coordinator.feed.closed &&
    (w.forth.2.1.jobs.get? id).map JobRecord.status ≠ (w.back.2.1.jobs.get? id).map JobRecord.status

theorem orderTells_of_reverseTells (h : w.reverseTells id = true) : OrderTells w id := by
  simp only [reverseTells, Bool.and_eq_true, Bool.not_eq_true', decide_eq_true_eq] at h
  obtain ⟨hopen, hdiffers⟩ := h
  exact ⟨_, _, _, _, _, _, ticks_forth hopen, ticks_back hopen, hdiffers⟩

def founded (token : τ) (effect : ε) : Coordinator τ ε :=
  let config : Protocol := { Protocol.standard with fallbackCount := 1, bondUnit := 100 }
  create 1 config 7 token .standard effect .empty

def opened (start : Coordinator τ ε) (operator : Address) : Watch τ ε :=
  subscribed start ⟨operator, 1, true, none⟩ 1 (.create "operator" none)

def watching (start : Coordinator τ ε) (operator : Address) (calls : List Call)
    (later : List (Move τ ε)) : Watch τ ε :=
  let moves := .source 5 6 :: calls.map Move.call ++ later
  { opened start operator with coordinator := start.run moves }

theorem turns_watching (start : Coordinator τ ε) (operator : Address) (calls : List Call)
    (later : List (Move τ ε)) :
    Relation.ReflTransGen Turn (opened start operator) (watching start operator calls later) :=
  turns_of_moves (opened start operator) _

end

theorem attempt_order_decides :
    let token := (((MemoryToken.empty.mint 1 900).approve 1 7 900).mint 2 100).approve 2 7 100
    let fused : FusedToken MemoryToken := ⟨token, none⟩
    let recording := RecordingEffect.create []
    let late : Payload := ⟨5, 3, 0, [], 30, 12⟩
    let early : Payload := ⟨5, 3, 3, [], 30, 12⟩
    let bonded : List Call := [.bond 1 1 300 1, .bond 1 3 100 1, .deliver late 5 6]
    let awaited : Clock := Clock.standard.advance 60
    let demotes := watching (founded token recording) 2 (bonded ++ [.unbond 3 3 3,
      .deliver early 5 6, .unbond 1 1 1, .bond 2 2 100 1, .bond 1 1 100 1]) [.clock awaited]
    let lacks := watching (founded token recording) 9 (bonded ++ [.deliver early 5 6,
      .unbond 3 3 3]) [.token (MemoryToken.empty.mint 7 100), .clock awaited]
    let refuses := watching (founded fused recording) 9 (bonded ++ [.deliver early 5 6,
      .unbond 3 3 3])
      [.token ⟨MemoryToken.empty.mint 7 300, some ⟨0, .custom "flaky"⟩⟩, .clock awaited]
    let alternates := watching (founded token (⟨false⟩ : AlternatingEffect)) 9
      [.deliver late 5 6, .deliver early 5 6] []
    (Relation.ReflTransGen Turn (opened (founded token recording) 2) demotes ∧
        OrderDecides demotes late.jobId) ∧
      (Relation.ReflTransGen Turn (opened (founded token recording) 9) lacks ∧
        OrderDecides lacks early.jobId) ∧
      (Relation.ReflTransGen Turn (opened (founded fused recording) 9) refuses ∧
        OrderDecides refuses late.jobId) ∧
      Relation.ReflTransGen Turn (opened (founded token (⟨false⟩ : AlternatingEffect)) 9)
        alternates ∧ OrderTells alternates late.jobId := by
  intro token fused recording late early bonded awaited demotes lacks refuses alternates
  refine ⟨⟨turns_watching .., orderDecides_of_reverseDecides ?_⟩,
    ⟨turns_watching .., orderDecides_of_reverseDecides ?_⟩,
    ⟨turns_watching .., orderDecides_of_reverseDecides ?_⟩, turns_watching ..,
    orderTells_of_reverseTells ?_⟩
  · decide +kernel
  · decide +kernel
  · decide +kernel
  · decide +kernel

end Watch

end BondedRelay
