import BondedRelay.Proofs.Coordinator.Run

namespace BondedRelay

structure JobRecord.Follows (r r' : JobRecord) : Prop where
  fields : r' = { r with status := r'.status }
  status : r'.status = r.status ∨ r.status = .pending ∧ r'.status.isFinal = true

theorem JobRecord.Follows.refl (r : JobRecord) : r.Follows r := ⟨rfl, .inl rfl⟩

theorem JobRecord.Follows.trans {r r' r'' : JobRecord} (h : r.Follows r') (h' : r'.Follows r'') :
    r.Follows r'' := by
  obtain ⟨hfields, hstatus⟩ := h
  obtain ⟨hfields', hstatus'⟩ := h'
  refine ⟨hfields'.trans (by rw [hfields]), ?_⟩
  rcases hstatus with hsame | ⟨hpending, hfinal⟩
  · rw [← hsame]
    exact hstatus'
  · rcases hstatus' with hsame' | ⟨hpending', -⟩
    · exact .inr ⟨hpending, hsame' ▸ hfinal⟩
    · rw [hpending'] at hfinal
      simp at hfinal

namespace Coordinator

def Call.delivered? (call : Call) : Option JobId := call.delivery?.map fun d => d.1.jobId

def Call.executed? (call : Call) : Option JobId := call.execution?.map fun x => x.2.1.jobId

def executes (id : JobId) (entry : Call × Except Rejection Reply) : Bool :=
  entry.1.executed? = some id && entry.2.isOk

variable {τ ε : Type} {c c' : Coordinator τ ε} {call : Call} {reply : Reply} {id : JobId}
  {r : JobRecord}

def invocationsOf (c : Coordinator τ ε) (id : JobId) : Nat :=
  c.place.invocations.countP fun i => i.payload.jobId = id

def isClosed (c : Coordinator τ ε) (id : JobId) : Bool :=
  (c.jobs.get? id).any fun r => r.status.isFinal

theorem isClosed_eq_true_iff :
    c.isClosed id = true ↔ ∃ r, c.jobs.get? id = some r ∧ r.status.isFinal = true := by
  simp [isClosed, Option.any_eq_true]

inductive JobChange (c : Coordinator τ ε) (call : Call) (id : JobId) :
    Option JobRecord → Option JobRecord → Prop
  | same (r? : Option JobRecord) (hcall : call.executed? ≠ some id) : JobChange c call id r? r?
  | assigned {payload : Payload} (hcall : call.delivered? = some id)
      (hother : call.executed? ≠ some id) :
      JobChange c call id none (some (c.assignment payload))
  | closed {r : JobRecord} {status : JobStatus} (hcall : call.executed? = some id)
      (hpending : r.status = .pending) (hfinal : status.isFinal = true) :
      JobChange c call id (some r) (some { r with status })

theorem executed?_of_delivery {d : Payload × Uint 32 × Address} (h : call.delivery? = some d) :
    call.executed? = none := by
  cases call with
  | deliver payload chain sender => rfl
  | deliverBytes bytes chain sender => rfl
  | _ => simp [Call.delivery?] at h

@[simp]
theorem status_assignment (c : Coordinator τ ε) (payload : Payload) :
    (c.assignment payload).status = .pending := rfl

variable [UtilityToken τ] [JobEffect ε]

theorem jobChange_of_accepts (h : c.Accepts call reply c') (id : JobId) :
    c.JobChange call id (c.jobs.get? id) (c'.jobs.get? id) := by
  cases h with
  | @deliver call payload sender hcall htrusted hfresh =>
      have hother : call.executed? ≠ some id := by simp [executed?_of_delivery hcall]
      show c.JobChange call id _ (JobStore.get? ⟨c.jobs.jobs.set _ _⟩ id)
      rw [JobStore.get?_set]
      split
      · next hid =>
          rw [← hid, hfresh]
          exact .assigned (by simp [Call.delivered?, hcall]) (hid ▸ hother)
      · exact .same _ hother
  | @execute call caller payload params receipt place hcall hexecute =>
      obtain ⟨r, phase, hfound, hpending, -, -, -, -, -, hjobs⟩ := Execution.execute_ok hexecute
      have hexecuted : call.executed? = some payload.jobId := by simp [Call.executed?, hcall]
      show c.JobChange call id _ (place.jobs.get? id)
      rw [hjobs, JobStore.get?_set]
      split
      · next hid =>
          rw [← hid, show c.jobs.get? payload.jobId = some r from hfound]
          exact .closed hexecuted hpending (ExecutionOutcome.isFinal_status _)
      · next hid => exact .same _ (by simpa [hexecuted] using hid)
  | bond hbond => exact .same _ (by simp [Call.executed?, Call.execution?])
  | topUp htopUp => exact .same _ (by simp [Call.executed?, Call.execution?])
  | unbond hunbond => exact .same _ (by simp [Call.executed?, Call.execution?])

theorem invocationsOf_of_accepts (h : c.Accepts call reply c') (id : JobId) :
    c'.invocationsOf id = c.invocationsOf id + (decide (call.executed? = some id)).toNat := by
  cases h with
  | @deliver call payload sender hcall htrusted hfresh =>
      simp only [executed?_of_delivery hcall]
      rfl
  | @execute call caller payload params receipt place hcall hexecute =>
      obtain ⟨r, phase, -, -, -, -, -, -, hinvoked, -⟩ := Execution.execute_ok hexecute
      have hexecuted : call.executed? = some payload.jobId := by simp [Call.executed?, hcall]
      show place.invocations.countP _ = _
      rw [hinvoked, hexecuted]
      simp only [List.countP_cons, invocationsOf]
      by_cases hid : payload.jobId = id <;> simp [hid]
  | bond hbond => rfl
  | topUp htopUp => rfl
  | unbond hunbond => rfl

theorem countP_executes_eq_zero {move : Move τ ε} (id : JobId)
    (h : ∀ entry ∈ c.exchange? move, entry.2.isOk = false) :
    (c.exchange? move).toList.countP (executes id) = 0 := by
  rw [List.countP_eq_zero]
  intro entry hentry
  simp [executes, h entry (Option.mem_toList.1 hentry)]

theorem isClosed_step (c : Coordinator τ ε) (move : Move τ ε) (id : JobId) :
    ((c.step move).isClosed id).toNat =
      (c.isClosed id).toNat + (c.exchange? move).toList.countP (executes id) := by
  rcases c.step_cases move with ⟨call, reply, rfl, hanswer, haccepts⟩ | ⟨hquiet, hrejected⟩
  · have hchange := jobChange_of_accepts haccepts id
    simp only [exchange?, hanswer, Option.toList_some, List.countP_singleton, executes, Except.isOk,
      Except.toBool, Bool.and_true, isClosed]
    generalize c.jobs.get? id = before at hchange ⊢
    generalize (c.step (.call call)).jobs.get? id = now at hchange ⊢
    cases hchange with
    | same r? hcall => simp [hcall]
    | assigned hcall hother => simp [hother, status_assignment]
    | closed hcall hpending hfinal => simp [hcall, hpending, hfinal]
  · rw [countP_executes_eq_zero id hrejected, isClosed, hquiet.jobs, isClosed, Nat.add_zero]

theorem invocationsOf_step (c : Coordinator τ ε) (move : Move τ ε) (id : JobId) :
    (c.step move).invocationsOf id =
      c.invocationsOf id + (c.exchange? move).toList.countP (executes id) := by
  rcases c.step_cases move with ⟨call, reply, rfl, hanswer, haccepts⟩ | ⟨hquiet, hrejected⟩
  · rw [invocationsOf_of_accepts haccepts]
    simp only [exchange?, hanswer, Option.toList_some, List.countP_singleton, executes, Except.isOk,
      Except.toBool, Bool.and_true]
    by_cases hcall : call.executed? = some id <;> simp [hcall]
  · rw [countP_executes_eq_zero id hrejected, invocationsOf, hquiet.invocations, invocationsOf,
      Nat.add_zero]

theorem isClosed_run (c : Coordinator τ ε) (moves : List (Move τ ε)) (id : JobId) :
    ((c.run moves).isClosed id).toNat =
      (c.isClosed id).toNat + (c.transcript moves).countP (executes id) := by
  induction moves generalizing c with
  | nil => rfl
  | cons move rest ih =>
      rw [run_cons, ih, isClosed_step, transcript, List.countP_append]
      omega

theorem invocationsOf_run (c : Coordinator τ ε) (moves : List (Move τ ε)) (id : JobId) :
    (c.run moves).invocationsOf id =
      c.invocationsOf id + (c.transcript moves).countP (executes id) := by
  induction moves generalizing c with
  | nil => rfl
  | cons move rest ih =>
      rw [run_cons, ih, invocationsOf_step, transcript, List.countP_append]
      omega

theorem follows_step (move : Move τ ε) (h : c.jobs.get? id = some r) :
    ∃ r', (c.step move).jobs.get? id = some r' ∧ r.Follows r' := by
  rcases c.step_cases move with ⟨call, reply, rfl, -, haccepts⟩ | ⟨hquiet, -⟩
  · have hchange := jobChange_of_accepts haccepts id
    rw [h] at hchange
    generalize (c.step (.call call)).jobs.get? id = now at hchange ⊢
    cases hchange with
    | same r? hcall => exact ⟨r, rfl, .refl r⟩
    | closed hcall hpending hfinal => exact ⟨_, rfl, rfl, .inr ⟨hpending, hfinal⟩⟩
  · exact ⟨r, by rw [hquiet.jobs, h], .refl r⟩

theorem follows_run (moves : List (Move τ ε)) (h : c.jobs.get? id = some r) :
    ∃ r', (c.run moves).jobs.get? id = some r' ∧ r.Follows r' := by
  induction moves generalizing c r with
  | nil => exact ⟨r, h, .refl r⟩
  | cons move rest ih =>
      obtain ⟨r₁, hstep, hfollows⟩ := follows_step move h
      obtain ⟨r₂, hrest, hfollows'⟩ := ih hstep
      exact ⟨r₂, hrest, hfollows.trans hfollows'⟩

theorem inserted_step {move : Move τ ε} (h : c.jobs.get? id = none)
    (h' : (c.step move).jobs.get? id = some r) :
    r.status = .pending ∧ ∃ call, move = .call call ∧ call.delivered? = some id := by
  rcases c.step_cases move with ⟨call, reply, rfl, -, haccepts⟩ | ⟨hquiet, -⟩
  · have hchange := jobChange_of_accepts haccepts id
    rw [h, h'] at hchange
    cases hchange with
    | assigned hcall hother => exact ⟨rfl, call, rfl, hcall⟩
  · rw [hquiet.jobs, h] at h'
    simp at h'

theorem execution_rejected (hcall : call.executed? = some id)
    (h : ∀ r, c.jobs.get? id = some r → r.status ≠ .pending) :
    c.answer call = .error (.invalidJob id) := by
  obtain ⟨⟨caller, payload, params⟩, hexecution, hid⟩ := Option.map_eq_some_iff.1 hcall
  have hpending : c.place.jobs.pending payload.jobId = .error (.invalidJob id) := by
    rw [show payload.jobId = id from hid, JobStore.pending]
    cases hfound : c.place.jobs.get? id with
    | none => rfl
    | some r => simp [h r hfound]
  rw [answer, respond_of_execution hexecution]
  simp [execute, Execution.execute, hpending, Except.map]

theorem delivery_rejected (hcall : call.delivered? = some id) (h : c.jobs.get? id = some r) :
    ∃ e, c.answer call = .error e := by
  obtain ⟨⟨payload, chain, sender⟩, hdelivery, rfl⟩ := Option.map_eq_some_iff.1 hcall
  rw [answer, respond_of_delivery hdelivery]
  rcases hdeliver : c.deliver payload chain sender with ⟨e | details, c'⟩
  · exact ⟨e, rfl⟩
  · obtain ⟨-, -, hfresh, -⟩ := deliver_ok hdeliver
    rw [h] at hfresh
    simp at hfresh

theorem closed_rejected (hclosed : c.isClosed id = true)
    (hcall : call.delivered? = some id ∨ call.executed? = some id) :
    ∃ e, c.answer call = .error e := by
  obtain ⟨r, hfound, hfinal⟩ := isClosed_eq_true_iff.1 hclosed
  rcases hcall with hdelivered | hexecuted
  · exact delivery_rejected hdelivered hfound
  · refine ⟨_, execution_rejected hexecuted fun r' hfound' hpending => ?_⟩
    obtain rfl : r = r' := Option.some.inj (hfound.symm.trans hfound')
    simp [hpending] at hfinal

theorem isClosed_later (later : List (Move τ ε)) (h : c.isClosed id = true) :
    (c.run later).isClosed id = true := by
  obtain ⟨r, hfound, hfinal⟩ := isClosed_eq_true_iff.1 h
  obtain ⟨r', hlater, hfollows⟩ := follows_run later hfound
  rcases hfollows.status with hsame | ⟨-, hfinal'⟩
  · exact isClosed_eq_true_iff.2 ⟨r', hlater, hsame ▸ hfinal⟩
  · exact isClosed_eq_true_iff.2 ⟨r', hlater, hfinal'⟩

theorem jobs_executed_once (chainId : Uint 32) (config : Protocol) (address : Address) (token : τ)
    (clock : Clock) (effect : ε) (owners : Table Address Address)
    (moves : List (Move τ ε)) (id : JobId) :
    let start := create chainId config address token clock effect owners
    let c := start.run moves
    let executions := (start.transcript moves).countP (executes id)
    executions ≤ 1 ∧ c.invocationsOf id = executions ∧ (c.isClosed id).toNat = executions ∧
      (∀ r move, c.jobs.get? id = none → (c.step move).jobs.get? id = some r →
        r.status = .pending) ∧
      (∀ r later, c.jobs.get? id = some r →
        ∃ r', (c.run later).jobs.get? id = some r' ∧ r.Follows r') ∧
      (∀ call later, (c.jobs.get? id).isSome = true → call.delivered? = some id →
        ∃ e, (c.run later).answer call = .error e) ∧
      ∀ call later, executions = 1 → call.delivered? = some id ∨ call.executed? = some id →
        ∃ e, (c.run later).answer call = .error e := by
  intro start c executions
  have hclosed : (c.isClosed id).toNat = executions := by
    have hrun := isClosed_run start moves id
    rwa [show start.isClosed id = false from rfl, Bool.toNat_false, Nat.zero_add] at hrun
  have hinvoked : c.invocationsOf id = executions := by
    have hrun := invocationsOf_run start moves id
    rwa [show start.invocationsOf id = 0 from rfl, Nat.zero_add] at hrun
  refine ⟨hclosed ▸ Bool.toNat_le _, hinvoked, hclosed, ?_, ?_, ?_, ?_⟩
  · intro r move hfree hinserted
    exact (inserted_step hfree hinserted).1
  · intro r later hfound
    exact follows_run later hfound
  · intro call later hknown hcall
    obtain ⟨r, hfound⟩ := Option.isSome_iff_exists.1 hknown
    obtain ⟨r', hlater, -⟩ := follows_run later hfound
    exact delivery_rejected hcall hlater
  · intro call later hexecuted hcall
    have hnow : c.isClosed id = true := by
      rw [hexecuted] at hclosed
      exact Bool.toNat_eq_one.1 hclosed
    exact closed_rejected (isClosed_later later hnow) hcall

end Coordinator

end BondedRelay
