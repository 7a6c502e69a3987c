import BondedRelay.Proofs.Job.Execution
import BondedRelay.Proofs.Table

namespace BondedRelay

def JobStatus.hideOutcome : JobStatus → JobStatus
  | .pending => .pending
  | .completed => .completed
  | .failedTerminal _ => .completed

def JobRecord.through (view : JobStatus → JobStatus) (r : JobRecord) : JobRecord :=
  { r with status := view r.status }

def JobStatus.ShowsPending (view : JobStatus → JobStatus) : Prop :=
  ∀ status, view status = view .pending → status = .pending

theorem JobStatus.showsPending_id : JobStatus.ShowsPending id := fun _ h => h

theorem JobStatus.showsPending_hideOutcome : JobStatus.ShowsPending hideOutcome
  | .pending, _ => rfl

theorem JobRecord.eq_of_through {view : JobStatus → JobStatus} (hview : JobStatus.ShowsPending view)
    {r r' : JobRecord} (h : r'.through view = r.through view) (hpending : r.status = .pending) :
    r' = r := by
  have hstatus : view r'.status = view r.status := congrArg JobRecord.status h
  have hpending' := hview r'.status (hpending ▸ hstatus)
  cases r
  cases r'
  simp_all [JobRecord.through]

namespace JobStore

variable {view : JobStatus → JobStatus} {s s' : JobStore}

def through (view : JobStatus → JobStatus) (s : JobStore) : JobStore :=
  ⟨s.jobs.mapValues (JobRecord.through view)⟩

theorem through_id (s : JobStore) : s.through id = s :=
  congrArg JobStore.mk (Table.ext (List.map_id s.jobs.entries))

theorem get?_through (view : JobStatus → JobStatus) (s : JobStore) (id : JobId) :
    (s.through view).get? id = (s.get? id).map (JobRecord.through view) :=
  Table.find?_mapValues ..

theorem through_set (view : JobStatus → JobStatus) (s : JobStore) (id : JobId) (r : JobRecord) :
    (⟨s.jobs.set id r⟩ : JobStore).through view =
      ⟨(s.through view).jobs.set id (r.through view)⟩ :=
  congrArg JobStore.mk (Table.mapValues_set ..)

theorem pending_of_through (hview : JobStatus.ShowsPending view)
    (h : s'.through view = s.through view) {id : JobId} {r : JobRecord}
    (hpending : s.pending id = .ok r) : s'.pending id = .ok r := by
  obtain ⟨hfound, hstatus⟩ := pending_eq_ok_iff.1 hpending
  have hseen : (s'.get? id).map (JobRecord.through view) = some (r.through view) := by
    rw [← get?_through, h, get?_through, hfound]
    rfl
  obtain ⟨r', hfound', hsame⟩ := Option.map_eq_some_iff.1 hseen
  obtain rfl := JobRecord.eq_of_through hview hsame hstatus
  exact pending_eq_ok_iff.2 ⟨hfound', hstatus⟩

theorem pending_eq_error {id : JobId} {e : Rejection} (h : s.pending id = .error e) :
    e = .invalidJob id := by
  unfold pending at h
  split at h
  · split at h
    · cases h
    · exact (Except.error.inj h).symm
  · exact (Except.error.inj h).symm

theorem pending_congr (hview : JobStatus.ShowsPending view)
    (h : s'.through view = s.through view) (id : JobId) : s'.pending id = s.pending id := by
  cases hpending : s.pending id with
  | ok r => exact pending_of_through hview h hpending
  | error e =>
      cases hpending' : s'.pending id with
      | ok r =>
          rw [pending_of_through hview h.symm hpending'] at hpending
          cases hpending
      | error e' => rw [pending_eq_error hpending, pending_eq_error hpending']

end JobStore

namespace JobEffect

variable {ε : Type} [JobEffect ε] {e : ε} {view : JobStatus → JobStatus}
  {answers : Invocation → JobStatus}

def outcome (e : ε) (i : Invocation) : ExecutionOutcome :=
  match (apply e i).1 with
  | none => .completed
  | some reason => .reverted reason

def after (e : ε) (before : List Invocation) : ε := before.foldl (fun e i => (apply e i).2) e

def Forgetful (e : ε) : Prop := ∀ before i, (apply (after e before) i).1 = (apply e i).1

def Answers (view : JobStatus → JobStatus) (answers : Invocation → JobStatus) (e : ε) : Prop :=
  ∀ before i, view (outcome (after e before) i).status = answers i

theorem Answers.apply (h : Answers view answers e) (i : Invocation) :
    Answers view answers (JobEffect.apply e i).2 :=
  fun before => h (i :: before)

theorem Answers.view_outcome (h : Answers view answers e) (i : Invocation) :
    view (outcome e i).status = answers i :=
  h [] i

theorem answers_hideOutcome (e : ε) : Answers JobStatus.hideOutcome (fun _ => .completed) e := by
  intro before i
  cases outcome (after e before) i <;> rfl

theorem Forgetful.answers_id (h : Forgetful e) : Answers id (fun i => (outcome e i).status) e := by
  intro before i
  simp only [outcome, h before i, id]

end JobEffect

namespace RecordingEffect

theorem reverting_after (e : RecordingEffect) (before : List Invocation) :
    (JobEffect.after e before).reverting = e.reverting := by
  induction before generalizing e with
  | nil => rfl
  | cons i before ih => exact (ih _).trans (reverting_apply e i)

theorem forgetful (e : RecordingEffect) : JobEffect.Forgetful e := by
  intro before i
  rw [apply_fst, apply_fst, reason?, reason?, reverting_after]

end RecordingEffect

end BondedRelay
