import BondedRelay.Proofs.Coordinator.EventLog
import BondedRelay.Proofs.Operator.Attempt

namespace BondedRelay

theorem Table.mem_entries_iff {κ ν : Type} [DecidableEq κ] {t : Table κ ν} {k : κ} {v : ν} :
    (k, v) ∈ t.entries ↔ t.find? k = some v := by
  obtain ⟨entries, hnodup⟩ := t
  unfold Table.find?
  dsimp only
  induction entries with
  | nil => simp [Table.findIn]
  | cons entry rest ih =>
      obtain ⟨k', v'⟩ := entry
      obtain ⟨hfirst, hrest⟩ := List.nodup_cons.1 hnodup
      unfold Table.findIn
      rw [List.mem_cons, ih hrest]
      split
      · next hk =>
          subst hk
          have hnone : Table.findIn k' rest = none := Table.findIn_eq_none_iff.2 hfirst
          simp [hnone, eq_comm]
      · next hk => simp [Ne.symm hk]

theorem Feed.mem_of_mem_unread {α : Type} {f : Feed α} {seen : Nat} {item : α}
    (h : item ∈ (f.unread seen).items) : item ∈ f.sent := by
  unfold Feed.unread at h
  exact List.mem_of_mem_take (List.mem_reverse.1 h)

namespace Operator

open Coordinator

variable {τ ε : Type} {c c' : Coordinator τ ε} {o o' : Operator} {config : OperatorConfig}
  {known known' : Table JobId KnownJob} {jobs : List (JobId × KnownJob)} {id : JobId}
  {job : KnownJob} {flow : Flow} {event : Event} {events : List Event}

theorem config_observe (o : Operator) (event : Event) : (o.observe event).config = o.config := by
  cases event with
  | jobAvailable details payload =>
      unfold observe
      dsimp only
      split <;> rfl
  | _ => rfl

theorem known_observe (o : Operator) (event : Event) (id : JobId) :
    (o.observe event).known.find? id = o.known.find? id ∨
      (∃ details payload, event = .jobAvailable details payload ∧ details.id = id ∧
        (o.observe event).known.find? id = some ⟨details, payload⟩) ∨
      event.closes id = true ∧ (o.observe event).known.find? id = none := by
  cases event with
  | jobAvailable details payload =>
      unfold observe
      dsimp only
      split
      · by_cases hid : details.id = id
        · refine .inr (.inl ⟨details, payload, rfl, hid, ?_⟩)
          rw [← hid]
          exact Table.find?_set_self ..
        · refine .inl ((Table.find?_set ..).trans (if_neg hid))
      · exact .inl rfl
  | jobCompleted job executor =>
      by_cases hid : job = id
      · exact .inr (.inr ⟨by simp [Event.closes, hid], (Table.find?_erase ..).trans (if_pos hid)⟩)
      · exact .inl ((Table.find?_erase ..).trans (if_neg hid))
  | jobFailed job executor reason =>
      by_cases hid : job = id
      · exact .inr (.inr ⟨by simp [Event.closes, hid], (Table.find?_erase ..).trans (if_pos hid)⟩)
      · exact .inl ((Table.find?_erase ..).trans (if_neg hid))
  | _ => exact .inl rfl

def Informed (sent : List Event) (known : Table JobId KnownJob) : Prop :=
  ∀ id job, known.find? id = some job →
    job.details.id = id ∧ .jobAvailable job.details job.payload ∈ sent

theorem Informed.observe {sent : List Event} (h : Informed sent o.known) (hmem : event ∈ sent) :
    Informed sent (o.observe event).known := by
  intro id job hknown
  rcases o.known_observe event id with hsame | ⟨details, payload, rfl, hid, hnew⟩ | ⟨-, hnone⟩
  · exact h id job (hsame ▸ hknown)
  · obtain rfl := Option.some.inj (hnew.symm.trans hknown)
    exact ⟨hid, hmem⟩
  · simp [hnone] at hknown

theorem Informed.mono {sent sent' : List Event} (h : Informed sent known)
    (hsent : ∀ event ∈ sent, event ∈ sent')
    (hknown : ∀ id job, known'.find? id = some job → known.find? id = some job) :
    Informed sent' known' := by
  intro id job hfound
  obtain ⟨hid, hmem⟩ := h id job (hknown id job hfound)
  exact ⟨hid, hsent _ hmem⟩

theorem Informed.foldl_observe {sent : List Event} (h : Informed sent o.known)
    (hevents : ∀ event ∈ events, event ∈ sent) :
    Informed sent (events.foldl Operator.observe o).known := by
  induction events generalizing o with
  | nil => exact h
  | cons event rest ih =>
      obtain ⟨hfirst, hrest⟩ := List.forall_mem_cons.1 hevents
      exact ih (h.observe hfirst) hrest

theorem Informed.drain (h : Informed c.feed.sent o.known) :
    Informed c.feed.sent (o.drain c.feed).known :=
  h.foldl_observe fun _ hmem => Feed.mem_of_mem_unread hmem

theorem config_foldl_observe (o : Operator) (events : List Event) :
    (events.foldl observe o).config = o.config := by
  induction events generalizing o with
  | nil => rfl
  | cons event rest ih => rw [List.foldl_cons, ih, config_observe]

theorem config_drain (o : Operator) (feed : Feed Event) : (o.drain feed).config = o.config :=
  o.config_foldl_observe _

theorem closes_of_foldl_observe (hbefore : o.known.find? id ≠ none)
    (hafter : (events.foldl observe o).known.find? id = none) :
    ∃ event ∈ events, event.closes id = true := by
  induction events generalizing o with
  | nil => exact absurd hafter hbefore
  | cons event rest ih =>
      rcases o.known_observe event id with hsame | ⟨details, payload, -, -, hnew⟩ | ⟨hcloses, -⟩
      · obtain ⟨later, hmem, hcloses⟩ := ih (hsame ▸ hbefore) hafter
        exact ⟨later, List.mem_cons_of_mem _ hmem, hcloses⟩
      · obtain ⟨later, hmem, hcloses⟩ := ih (by simp [hnew]) hafter
        exact ⟨later, List.mem_cons_of_mem _ hmem, hcloses⟩
      · exact ⟨event, List.mem_cons_self, hcloses⟩

def remaining (known : Table JobId KnownJob) (id : JobId) : Flow → Table JobId KnownJob
  | .rest => known
  | .advance => known.erase id

theorem find?_remaining_other {other : JobId} (hne : id ≠ other) (flow : Flow) :
    (remaining known id flow).find? other = known.find? other := by
  cases flow with
  | rest => rfl
  | advance => exact (Table.find?_erase ..).trans (if_neg hne)

theorem find?_remaining_subset {other : JobId}
    (h : (remaining known id flow).find? other = some job) : known.find? other = some job := by
  by_cases hid : id = other
  · subst hid
    cases flow with
    | rest => exact h
    | advance => simp [remaining, Table.find?_erase] at h
  · rwa [find?_remaining_other hid] at h

variable [UtilityToken τ] [JobEffect ε]

inductive Passes (config : OperatorConfig) : Coordinator τ ε → Table JobId KnownJob →
    List (JobId × KnownJob) → Coordinator τ ε → Table JobId KnownJob → Prop
  | done {c : Coordinator τ ε} {known : Table JobId KnownJob} : Passes config c known [] c known
  | tried {c c₁ c' : Coordinator τ ε} {known known' : Table JobId KnownJob} {id : JobId}
      {job : KnownJob} {flow : Flow} {more : List (JobId × KnownJob)}
      (hattempts : Attempts config c id job flow c₁)
      (hrest : Passes config c₁ (remaining known id flow) more c' known') :
      Passes config c known ((id, job) :: more) c' known'

theorem passes (c : Coordinator τ ε) (o : Operator) (jobs : List (JobId × KnownJob)) :
    let a := attemptAll c o jobs
    Passes o.config c o.known jobs a.2.1 a.2.2.known ∧ a.2.2.config = o.config := by
  induction jobs generalizing c o with
  | nil => exact ⟨.done, rfl⟩
  | cons entry more ih =>
      obtain ⟨id, job⟩ := entry
      intro a
      obtain ⟨hattempts, hcounted⟩ := attempts c o id job
      rcases htried : attempt c o id job with ⟨flow, c₁, o₁⟩
      rw [htried] at hattempts hcounted
      dsimp only at hattempts hcounted
      let o₂ : Operator := { o₁ with known := remaining o₁.known id flow }
      have ha : a.2 = (attemptAll c₁ o₂ more).2 := by
        cases flow <;> simp [a, attemptAll, htried, o₂, remaining, forget]
      obtain ⟨hrest, hconfig⟩ := ih c₁ o₂
      have hknown : o₁.known = o.known := by rw [hcounted]
      have hsame : o₁.config = o.config := by rw [hcounted]
      rw [show o₂.config = o.config from hsame] at hrest hconfig
      rw [show o₂.known = remaining o.known id flow by simp [o₂, hknown]] at hrest
      rw [ha]
      exact ⟨.tried hattempts hrest, hconfig⟩

theorem Passes.works (h : Passes config c known jobs c' known') : c.Works config.operator c' := by
  induction h with
  | done => exact .refl ..
  | tried hattempts hrest ih => exact hattempts.works.trans ih

theorem Passes.find?_subset (h : Passes config c known jobs c' known')
    (hfound : known'.find? id = some job) : known.find? id = some job := by
  induction h with
  | done => exact hfound
  | tried hattempts hrest ih => exact find?_remaining_subset (ih hfound)

theorem Passes.find?_other (h : Passes config c known jobs c' known')
    (hother : id ∉ jobs.map Prod.fst) : known'.find? id = known.find? id := by
  induction h with
  | done => rfl
  | tried hattempts hrest ih =>
      obtain ⟨hfirst, hmore⟩ := not_or.1 (List.mem_cons.not.1 hother)
      rw [ih hmore, find?_remaining_other (Ne.symm hfirst)]

theorem Passes.get?_other (h : Passes config c known jobs c' known')
    (hother : id ∉ jobs.map Prod.fst) (hreads : ∀ entry ∈ jobs, entry.2.Reads entry.1) :
    c'.jobs.get? id = c.jobs.get? id := by
  induction h with
  | done => rfl
  | tried hattempts hrest ih =>
      obtain ⟨hfirst, hmore⟩ := not_or.1 (List.mem_cons.not.1 hother)
      obtain ⟨hread, hreadMore⟩ := List.forall_mem_cons.1 hreads
      rw [ih hmore hreadMore, hattempts.get?_other hread (Ne.symm hfirst)]

theorem Passes.visit (h : Passes config c known jobs c' known')
    (hnodup : (jobs.map Prod.fst).Nodup) (hmem : (id, job) ∈ jobs) :
    ∃ c₁ c₂ flow, c.Works config.operator c₁ ∧ Attempts config c₁ id job flow c₂ ∧
      c₂.Works config.operator c' ∧ known'.find? id = (remaining known id flow).find? id ∧
      ((∀ entry ∈ jobs, entry.2.Reads entry.1) →
        c₁.jobs.get? id = c.jobs.get? id ∧ c'.jobs.get? id = c₂.jobs.get? id) := by
  induction h with
  | done => cases hmem
  | @tried c c₁ c' known known' first firstJob firstFlow more hattempts hrest ih =>
      obtain ⟨hfirst, hmore⟩ := List.nodup_cons.1 hnodup
      rcases List.mem_cons.1 hmem with heq | hlater
      · obtain ⟨rfl, rfl⟩ := Prod.mk.inj heq
        exact ⟨c, c₁, firstFlow, .refl .., hattempts, hrest.works, hrest.find?_other hfirst,
          fun hreads => ⟨rfl, hrest.get?_other hfirst (List.forall_mem_cons.1 hreads).2⟩⟩
      · have hid : id ∈ more.map Prod.fst := List.mem_map_of_mem hlater
        have hne : first ≠ id := fun heq => hfirst (heq ▸ hid)
        obtain ⟨c₂, c₃, flow, hbefore, hvisit, hafter, hknown, hjobs⟩ := ih hmore hlater
        refine ⟨c₂, c₃, flow, hattempts.works.trans hbefore, hvisit, hafter, ?_, fun hreads => ?_⟩
        · rw [hknown]
          cases flow with
          | rest => exact find?_remaining_other hne firstFlow
          | advance => simp only [remaining, Table.find?_erase, if_true]
        · obtain ⟨hread, hreadMore⟩ := List.forall_mem_cons.1 hreads
          obtain ⟨hsame, hsame'⟩ := hjobs hreadMore
          exact ⟨hsame.trans (hattempts.get?_other hread hne), hsame'⟩

def Ticks (c : Coordinator τ ε) (o : Operator) (flow : Flow) (c' : Coordinator τ ε)
    (o' : Operator) : Prop :=
  c.feed.closed = false ∧ ∃ order, order.Perm (o.drain c.feed).known.entries ∧
    attemptAll c (o.drain c.feed) order = (flow, c', o')

theorem ticks_of_tick (h : (tick c o).1 = .ok flow) :
    Ticks c o flow (tick c o).2.1 (tick c o).2.2 := by
  unfold tick at h ⊢
  dsimp only at h ⊢
  split at h
  · cases h
  · next hopen =>
      rw [if_neg hopen]
      obtain rfl := Except.ok.inj h
      exact ⟨Bool.eq_false_iff.2 hopen, _, .refl _, rfl⟩

theorem Ticks.passes (h : Ticks c o flow c' o') :
    ∃ order, order.Perm (o.drain c.feed).known.entries ∧
      Passes o.config c (o.drain c.feed).known order c' o'.known ∧ o'.config = o.config := by
  obtain ⟨-, order, hperm, hall⟩ := h
  obtain ⟨hpasses, hconfig⟩ := Operator.passes c (o.drain c.feed) order
  rw [hall, config_drain] at hpasses hconfig
  exact ⟨order, hperm, hpasses, hconfig⟩

theorem Ticks.works (h : Ticks c o flow c' o') : c.Works o.config.operator c' := by
  obtain ⟨order, -, hpasses, -⟩ := h.passes
  exact hpasses.works

theorem Ticks.find?_subset (h : Ticks c o flow c' o') (hfound : o'.known.find? id = some job) :
    (o.drain c.feed).known.find? id = some job := by
  obtain ⟨order, -, hpasses, -⟩ := h.passes
  exact hpasses.find?_subset hfound

theorem Ticks.visit (h : Ticks c o flow c' o')
    (hknown : (o.drain c.feed).known.find? id = some job) :
    ∃ c₁ c₂ flow, c.Works o.config.operator c₁ ∧ Attempts o.config c₁ id job flow c₂ ∧
      c₂.Works o.config.operator c' ∧
      (flow = .rest ∧ o'.known.find? id = some job ∨
        flow = .advance ∧ o'.known.find? id = none) ∧
      ((∀ id job, (o.drain c.feed).known.find? id = some job → job.Reads id) →
        c₁.jobs.get? id = c.jobs.get? id ∧ c'.jobs.get? id = c₂.jobs.get? id) := by
  obtain ⟨order, hperm, hpasses, -⟩ := h.passes
  have hnodup : (order.map Prod.fst).Nodup :=
    (hperm.map Prod.fst).nodup_iff.2 (o.drain c.feed).known.nodup
  have hmem : (id, job) ∈ order := hperm.mem_iff.2 (Table.mem_entries_iff.2 hknown)
  obtain ⟨c₁, c₂, flow, hbefore, hvisit, hafter, hkept, hjobs⟩ := hpasses.visit hnodup hmem
  refine ⟨c₁, c₂, flow, hbefore, hvisit, hafter, ?_, fun hreads => hjobs fun entry hentry => ?_⟩
  · cases flow with
    | rest => exact .inl ⟨rfl, hkept.trans hknown⟩
    | advance => exact .inr ⟨rfl, hkept.trans ((Table.find?_erase ..).trans (if_pos rfl))⟩
  · exact hreads entry.1 entry.2 (Table.mem_entries_iff.1 (hperm.mem_iff.1 hentry))

end Operator

structure Watch (τ ε : Type) where
  coordinator : Coordinator τ ε
  operator : Operator

namespace Watch

open Operator

variable {τ ε : Type} [UtilityToken τ] [JobEffect ε] {start : Coordinator τ ε} {w w' : Watch τ ε}
  {config : OperatorConfig} {chain : Uint 32} {metrics : Metrics}

def subscribed (start : Coordinator τ ε) (config : OperatorConfig) (chain : Uint 32)
    (metrics : Metrics) : Watch τ ε :=
  ⟨start, .subscribe config chain start.feed metrics⟩

inductive Turn : Watch τ ε → Watch τ ε → Prop
  | move (w : Watch τ ε) (move : Coordinator.Move τ ε) :
      Turn w { w with coordinator := w.coordinator.step move }
  | tick {w : Watch τ ε} {flow : Flow} {c' : Coordinator τ ε} {o' : Operator}
      (hticks : Ticks w.coordinator w.operator flow c' o') : Turn w ⟨c', o'⟩

theorem turns_of_moves (w : Watch τ ε) (moves : List (Coordinator.Move τ ε)) :
    Relation.ReflTransGen Turn w { w with coordinator := w.coordinator.run moves } := by
  induction moves generalizing w with
  | nil => exact .refl
  | cons move rest ih => exact .head (.move w move) (ih { w with coordinator := _ })

theorem Turn.reaches (h : Turn w w') : ∃ moves, w'.coordinator = w.coordinator.run moves := by
  cases h with
  | move move => exact ⟨[move], rfl⟩
  | tick hticks => exact hticks.works.reaches

theorem Turn.informed (h : Turn w w')
    (hinformed : Informed w.coordinator.feed.sent w.operator.known) :
    Informed w'.coordinator.feed.sent w'.operator.known := by
  obtain ⟨moves, hmoves⟩ := h.reaches
  have hsent : ∀ event ∈ w.coordinator.feed.sent, event ∈ w'.coordinator.feed.sent := by
    rw [hmoves]
    exact fun event hmem => (w.coordinator.sent_suffix_run moves).subset hmem
  cases h with
  | move move => exact hinformed.mono hsent fun _ _ hknown => hknown
  | tick hticks => exact hinformed.drain.mono hsent fun _ _ hknown => hticks.find?_subset hknown

theorem Turn.config_eq (h : Turn w w') : w'.operator.config = w.operator.config := by
  cases h with
  | move move => rfl
  | tick hticks =>
      obtain ⟨order, -, -, hconfig⟩ := hticks.passes
      exact hconfig

theorem watched (h : Relation.ReflTransGen Turn (subscribed start config chain metrics) w) :
    (∃ moves, w.coordinator = start.run moves) ∧
      Informed w.coordinator.feed.sent w.operator.known ∧ w.operator.config = config := by
  induction h with
  | refl => exact ⟨⟨[], rfl⟩, (fun _ _ hknown => by cases hknown), rfl⟩
  | tail _ hturn ih =>
      obtain ⟨⟨moves, hreaches⟩, hinformed, hconfig⟩ := ih
      obtain ⟨moves', hreaches'⟩ := hturn.reaches
      refine ⟨⟨moves ++ moves', ?_⟩, hturn.informed hinformed, hturn.config_eq.trans hconfig⟩
      rw [hreaches', hreaches, Coordinator.run_append]

end Watch

end BondedRelay
