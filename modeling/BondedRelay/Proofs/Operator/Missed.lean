import BondedRelay.Proofs.Operator.Dropped

namespace BondedRelay

namespace Feed

variable {α : Type}

def unseen (f : Feed α) (seen : Nat) : List α := f.sent.take (f.position - seen)

def heard (f : Feed α) (seen : Nat) : List α := f.sent.drop (f.position - seen)

theorem sent_eq (f : Feed α) (seen : Nat) :
    f.sent = (f.unread seen).items.reverse ++ (f.unseen seen).drop f.capacity ++ f.heard seen := by
  have hitems : (f.unread seen).items.reverse = (f.unseen seen).take f.capacity := by
    simp [unread, unseen, List.take_take, Nat.min_comm]
  rw [hitems, List.take_append_drop]
  exact (List.take_append_drop ..).symm

theorem heard_of_suffix {f f' : Feed α} {seen : Nat} (h : f.sent <:+ f'.sent)
    (hseen : seen ≤ f.position) : f'.heard seen = f.heard seen := by
  obtain ⟨latest, hsent⟩ := h
  have hposition : f'.position = latest.length + f.position := by
    simp [position, ← hsent]
  rw [heard, heard, ← hsent, hposition, Nat.add_sub_assoc hseen, List.drop_append,
    List.drop_of_length_le (Nat.le_add_right ..), Nat.add_sub_cancel_left, List.nil_append]

theorem heard_position (f f' : Feed α) (h : f.sent <:+ f'.sent) :
    f'.heard f.position = f.sent := by
  rw [heard_of_suffix h (Nat.le_refl _), heard, Nat.sub_self, List.drop_zero]

@[simp]
theorem capacity_sendAll (f : Feed α) (items : List α) :
    (f.sendAll items).capacity = f.capacity := by
  unfold sendAll
  induction items generalizing f with
  | nil => rfl
  | cons item rest ih => rw [List.foldl_cons, ih, send]

end Feed

namespace Coordinator

variable {τ ε : Type}

def setFeed (c : Coordinator τ ε) (feed : Feed Event) : Coordinator τ ε := { c with feed }

@[simp]
theorem jobs_setFeed (c : Coordinator τ ε) (feed : Feed Event) :
    (c.setFeed feed).jobs = c.jobs :=
  rfl

variable [UtilityToken τ] [JobEffect ε]

theorem capacity_step (c : Coordinator τ ε) (move : Move τ ε) :
    (c.step move).feed.capacity = c.feed.capacity := by
  rcases c.step_cases move with ⟨call, reply, rfl, -, haccepts⟩ | ⟨hquiet, -⟩
  · generalize c.step (.call call) = c' at haccepts
    cases haccepts with
    | topUp htopUp => rfl
    | _ => exact Feed.capacity_sendAll ..
  · rw [hquiet.feed]

theorem capacity_run (c : Coordinator τ ε) (moves : List (Move τ ε)) :
    (c.run moves).feed.capacity = c.feed.capacity := by
  induction moves generalizing c with
  | nil => rfl
  | cons move rest ih => rw [run_cons, ih, capacity_step]

theorem run_round {c : Coordinator τ ε} {caller operator recipient : Address} {amount paid : Amount}
    {pod : Uint 32} {r : BondRecord} {l : Ledger τ}
    (hbond : c.ledger.bond caller operator amount pod (c.kindOf operator) = (.ok r, l))
    (hunbond : l.unbond caller operator recipient = (.ok paid, c.ledger)) (feed : Feed Event) :
    (c.setFeed feed).run
        [.call (.bond caller operator amount pod), .call (.unbond caller operator recipient)] =
      c.setFeed (feed.sendAll
        [.operatorBonded operator r.pod r.amount, .operatorUnbonded operator paid]) := by
  have hbonded : (c.setFeed feed).step (.call (.bond caller operator amount pod)) =
      ((c.setFeed feed).setLedger l).announce [.operatorBonded operator r.pod r.amount] := by
    show ((c.setFeed feed).bond caller operator amount pod).2 = _
    rw [Coordinator.bond, show (c.setFeed feed).ledger.bond caller operator amount pod
      ((c.setFeed feed).kindOf operator) = _ from hbond]
  rw [run_cons, hbonded]
  show (Coordinator.unbond _ caller operator recipient).2 = _
  rw [Coordinator.unbond, show (announce ((c.setFeed feed).setLedger l) _).ledger.unbond caller
    operator recipient = _ from hunbond]
  rfl

theorem run_rounds {c : Coordinator τ ε} {round : List (Move τ ε)} {announced : List Event}
    (hround : ∀ feed, (c.setFeed feed).run round = c.setFeed (feed.sendAll announced)) (n : Nat)
    (feed : Feed Event) :
    (c.setFeed feed).run (List.replicate n round).flatten =
      c.setFeed (feed.sendAll (List.replicate n announced).flatten) := by
  induction n generalizing feed with
  | zero => rfl
  | succ n ih =>
      rw [List.replicate_succ, List.flatten_cons, run_append, hround, ih, List.replicate_succ,
        List.flatten_cons, Feed.sendAll, Feed.sendAll, Feed.sendAll, List.foldl_append]

end Coordinator

namespace Operator

variable {o : Operator} {id : JobId} {event : Event} {events : List Event}

theorem find?_observe_of_silent (hopens : event.opens id = false)
    (hcloses : event.closes id = false) :
    (o.observe event).known.find? id = o.known.find? id := by
  rcases o.known_observe event id with hsame | ⟨details, payload, rfl, hid, -⟩ | ⟨hcloses', -⟩
  · exact hsame
  · simp [Event.opens, hid] at hopens
  · rw [hcloses] at hcloses'
    cases hcloses'

theorem find?_foldl_observe_of_silent (hopens : ∀ event ∈ events, event.opens id = false)
    (hcloses : ∀ event ∈ events, event.closes id = false) :
    (events.foldl observe o).known.find? id = o.known.find? id := by
  induction events generalizing o with
  | nil => rfl
  | cons event rest ih =>
      obtain ⟨hopen, hopens⟩ := List.forall_mem_cons.1 hopens
      obtain ⟨hclose, hcloses⟩ := List.forall_mem_cons.1 hcloses
      rw [List.foldl_cons, ih hopens hcloses, find?_observe_of_silent hopen hclose]

theorem find?_observe_of_wanted {details : JobDetails} (payload : Bytes)
    (hwanted : o.config.wantsPod details.pod = true) :
    (o.observe (.jobAvailable details payload)).known.find? details.id =
      some ⟨details, payload⟩ := by
  unfold observe
  dsimp only
  rw [show (o.count _).config.wantsPod details.pod = true from hwanted, if_pos rfl]
  exact Table.find?_set_self ..

theorem find?_foldl_observe_ne_none (hcloses : ∀ event ∈ events, event.closes id = false)
    (h : o.known.find? id ≠ none) : (events.foldl observe o).known.find? id ≠ none := by
  intro hnone
  obtain ⟨event, hmem, hclose⟩ := closes_of_foldl_observe h hnone
  rw [hcloses event hmem] at hclose
  cases hclose

theorem find?_foldl_observe_of_wanted {details : JobDetails} {payload : Bytes}
    (hmem : .jobAvailable details payload ∈ events)
    (hwanted : o.config.wantsPod details.pod = true)
    (hcloses : ∀ event ∈ events, event.closes details.id = false) :
    (events.foldl observe o).known.find? details.id ≠ none := by
  induction events generalizing o with
  | nil => cases hmem
  | cons event rest ih =>
      have hrest := (List.forall_mem_cons.1 hcloses).2
      rcases List.mem_cons.1 hmem with rfl | hlater
      · have hfound := find?_observe_of_wanted payload hwanted
        rw [List.foldl_cons]
        exact find?_foldl_observe_ne_none hrest (by simp [hfound])
      · exact ih hlater (by rwa [config_observe]) hrest

theorem seen_attemptAll {τ ε : Type} [UtilityToken τ] [JobEffect ε] (c : Coordinator τ ε)
    (o : Operator) (jobs : List (JobId × KnownJob)) : (attemptAll c o jobs).2.2.seen = o.seen := by
  induction jobs generalizing c o with
  | nil => rfl
  | cons entry more ih =>
      obtain ⟨id, job⟩ := entry
      obtain ⟨-, hcounted⟩ := attempts c o id job
      rcases htried : attempt c o id job with ⟨flow, c₁, o₁⟩
      rw [htried] at hcounted
      have hseen : o₁.seen = o.seen := by rw [show o₁ = _ from hcounted]
      cases flow with
      | rest => simp [attemptAll, htried, ih, hseen]
      | advance => simp [attemptAll, htried, ih, hseen, forget]

theorem Ticks.seen_eq {τ ε : Type} [UtilityToken τ] [JobEffect ε] {c c' : Coordinator τ ε}
    {o' : Operator} {flow : Flow} (h : Ticks c o flow c' o') : o'.seen = c.feed.position := by
  obtain ⟨-, order, -, hall⟩ := h
  have hseen := seen_attemptAll c (o.drain c.feed) order
  rw [hall] at hseen
  exact hseen

end Operator

structure Wanted (config : OperatorConfig) (id : JobId) (sent : List Event) : Prop where
  once : sent.countP (Event.opens id) ≤ 1
  wanted : ∀ details payload, .jobAvailable details payload ∈ sent → details.id = id →
    config.wantsPod details.pod = true
  pending : ∀ event ∈ sent, event.closes id = false

theorem Wanted.suffix {config : OperatorConfig} {id : JobId} {sent sent' : List Event}
    (h : Wanted config id sent') (hsent : sent <:+ sent') : Wanted config id sent :=
  ⟨Nat.le_trans (hsent.sublist.countP_le ..) h.once,
    fun details payload hmem => h.wanted details payload (hsent.subset hmem),
    fun event hmem => h.pending event (hsent.subset hmem)⟩

namespace Watch

open Coordinator Operator

section

variable {τ ε : Type} {w : Watch τ ε} {id : JobId}

def Misses (w : Watch τ ε) (id : JobId) : Prop :=
  ∃ event ∈ (w.coordinator.feed.unseen w.operator.seen).drop feedCapacity, event.opens id = true

theorem capacity_lt_of_misses (h : w.Misses id) :
    feedCapacity < w.coordinator.feed.position - w.operator.seen := by
  obtain ⟨event, hmem, -⟩ := h
  have hpos := List.length_pos_of_mem hmem
  rw [List.length_drop, Feed.unseen, List.length_take] at hpos
  omega

def Drops (id : JobId) (tick : Watch τ ε × Watch τ ε) : Prop :=
  tick.1.drained.find? id ≠ none ∧ tick.2.operator.known.find? id = none

theorem drained_ne_none_iff (h : Wanted w.operator.config id w.coordinator.feed.sent) :
    w.drained.find? id ≠ none ↔ w.operator.known.find? id ≠ none ∨
      0 < (w.coordinator.feed.unread w.operator.seen).items.countP (Event.opens id) := by
  have hcloses : ∀ event ∈ (w.coordinator.feed.unread w.operator.seen).items,
      event.closes id = false := fun event hmem => h.pending event (Feed.mem_of_mem_unread hmem)
  constructor
  · intro hfound
    by_contra hneither
    obtain ⟨hknown, hsilent⟩ := not_or.1 hneither
    have hopens : ∀ event ∈ (w.coordinator.feed.unread w.operator.seen).items,
        event.opens id = false := fun event hmem =>
      Bool.eq_false_iff.2 (List.countP_eq_zero.1 (Nat.eq_zero_of_not_pos hsilent) event hmem)
    exact hfound ((find?_foldl_observe_of_silent hopens hcloses).trans (not_not.1 hknown))
  · rintro (hknown | hpos)
    · exact find?_foldl_observe_ne_none hcloses hknown
    · obtain ⟨event, hmem, hopens⟩ := List.countP_pos_iff.1 hpos
      cases event with
      | jobAvailable details payload =>
          obtain rfl : details.id = id := by simpa [Event.opens] using hopens
          have hwanted := h.wanted details payload (Feed.mem_of_mem_unread hmem) rfl
          exact find?_foldl_observe_of_wanted hmem hwanted hcloses
      | _ => cases hopens

end

variable {τ ε : Type} [UtilityToken τ] [JobEffect ε] {start w w' : Watch τ ε}
  {ticks : List (Watch τ ε × Watch τ ε)} {id : JobId}

omit [UtilityToken τ] [JobEffect ε] in
theorem drained_after_burst {c : Coordinator τ ε} {burst : List Event}
    (hcapacity : c.feed.capacity = feedCapacity) (hburst : feedCapacity ≤ burst.length)
    (hsilent : ∀ event ∈ burst, event.opens id = false ∧ event.closes id = false) (o : Operator) :
    (drained ⟨c.setFeed (c.feed.sendAll burst), o⟩).find? id = o.known.find? id := by
  have hread : ∀ event ∈ ((c.feed.sendAll burst).unread o.seen).items, event ∈ burst := by
    intro event hmem
    rw [Feed.unread, Feed.sent_sendAll, Feed.capacity_sendAll, hcapacity, List.mem_reverse] at hmem
    have hshort : min ((c.feed.sendAll burst).position - o.seen) feedCapacity ≤
        burst.reverse.length := by
      rw [List.length_reverse]
      omega
    rw [List.take_append_of_le_length hshort] at hmem
    exact List.mem_reverse.1 (List.mem_of_mem_take hmem)
  exact find?_foldl_observe_of_silent (fun event hmem => (hsilent event (hread event hmem)).1)
    fun event hmem => (hsilent event (hread event hmem)).2

inductive Course (start : Watch τ ε) : List (Watch τ ε × Watch τ ε) → Watch τ ε → Prop
  | start : Course start [] start
  | move {ticks : List (Watch τ ε × Watch τ ε)} {w : Watch τ ε} (h : Course start ticks w)
      (move : Coordinator.Move τ ε) :
      Course start ticks { w with coordinator := w.coordinator.step move }
  | tick {ticks : List (Watch τ ε × Watch τ ε)} {w : Watch τ ε} {flow : Flow} {c' : Coordinator τ ε}
      {o' : Operator} (h : Course start ticks w)
      (hticks : Ticks w.coordinator w.operator flow c' o') :
      Course start ((w, ⟨c', o'⟩) :: ticks) ⟨c', o'⟩

theorem Course.turns (h : Course start ticks w) : Relation.ReflTransGen Turn start w := by
  induction h with
  | start => exact .refl
  | move _ move ih => exact .tail ih (.move _ move)
  | tick _ hticks ih => exact .tail ih (.tick hticks)

theorem Course.moves (h : Course start ticks w) (moves : List (Coordinator.Move τ ε)) :
    Course start ticks { w with coordinator := w.coordinator.run moves } := by
  induction moves generalizing w with
  | nil => exact h
  | cons move rest ih => exact ih (h.move move)

-- Where a job stands that was not there at the start. As long as its announcement lies ahead
-- nothing is known of it and nothing was missed, and once it lies behind the job is known unless it
-- was missed.
structure Stands (ticks : List (Watch τ ε × Watch τ ε)) (id : JobId) (w : Watch τ ε) : Prop where
  capacity : w.coordinator.feed.capacity = feedCapacity
  seen_le : w.operator.seen ≤ w.coordinator.feed.position
  ahead : (w.coordinator.feed.heard w.operator.seen).countP (Event.opens id) = 0 →
    w.operator.known.find? id = none ∧ ∀ tick ∈ ticks, ¬ tick.1.Misses id
  behind : 0 < (w.coordinator.feed.heard w.operator.seen).countP (Event.opens id) →
    (w.operator.known.find? id ≠ none ↔ ∀ tick ∈ ticks, ¬ tick.1.Misses id)

omit [UtilityToken τ] [JobEffect ε] in
theorem Stands.drained_ne_none_iff (h : Stands ticks id w)
    (hw : Wanted w.operator.config id w.coordinator.feed.sent)
    (hopened : 0 < w.coordinator.feed.sent.countP (Event.opens id)) :
    w.drained.find? id ≠ none ↔ ¬ w.Misses id ∧ ∀ tick ∈ ticks, ¬ tick.1.Misses id := by
  obtain ⟨hcapacity, -, hahead, hbehind⟩ := h
  have honce := hw.once
  rw [w.coordinator.feed.sent_eq w.operator.seen, hcapacity, List.countP_append,
    List.countP_append, List.countP_reverse] at honce hopened
  rw [Watch.drained_ne_none_iff hw, Misses, ← List.countP_pos_iff]
  by_cases hheard : (w.coordinator.feed.heard w.operator.seen).countP (Event.opens id) = 0
  · obtain ⟨hknown, hmissed⟩ := hahead hheard
    rw [hknown, iff_true_intro hmissed, and_true]
    simp only [ne_eq, not_true_eq_false, false_or]
    omega
  · rw [hbehind (Nat.pos_of_ne_zero hheard), or_iff_left (by omega), iff_and_self]
    intro hmissed
    omega

theorem Stands.move (h : Stands ticks id w) (move : Coordinator.Move τ ε) :
    Stands ticks id { w with coordinator := w.coordinator.step move } := by
  have hsuffix := w.coordinator.sent_suffix_run [move]
  have hheard := Feed.heard_of_suffix hsuffix h.seen_le
  refine ⟨(w.coordinator.capacity_step move).trans h.capacity,
    Nat.le_trans h.seen_le hsuffix.length_le, ?_, ?_⟩
  · rw [show (w.coordinator.step move).feed.heard _ = _ from hheard]
    exact h.ahead
  · rw [show (w.coordinator.step move).feed.heard _ = _ from hheard]
    exact h.behind

theorem Stands.tick {flow : Flow} {c' : Coordinator τ ε} {o' : Operator} (h : Stands ticks id w)
    (hticks : Ticks w.coordinator w.operator flow c' o')
    (hw : Wanted w.operator.config id w.coordinator.feed.sent)
    (hinformed : Informed w.coordinator.feed.sent w.operator.known)
    (hkept : ¬ Drops id (w, ⟨c', o'⟩)) :
    Stands ((w, ⟨c', o'⟩) :: ticks) id ⟨c', o'⟩ := by
  obtain ⟨moves, rfl⟩ := hticks.works.reaches
  have hsuffix := w.coordinator.sent_suffix_run moves
  have hheard : (w.coordinator.run moves).feed.heard o'.seen = w.coordinator.feed.sent := by
    rw [hticks.seen_eq]
    exact Feed.heard_position _ _ hsuffix
  have hknown : o'.known.find? id ≠ none ↔ w.drained.find? id ≠ none := by
    refine ⟨fun hfound => ?_, fun hfound hgone => hkept ⟨hfound, hgone⟩⟩
    obtain ⟨job, hjob⟩ := Option.ne_none_iff_exists'.1 hfound
    rw [drained, hticks.find?_subset hjob]
    simp
  refine ⟨(w.coordinator.capacity_run moves).trans h.capacity, ?_, ?_, ?_⟩
  · rw [hticks.seen_eq]
    exact hsuffix.length_le
  · rw [hheard]
    intro hsilent
    have hgone : o'.known.find? id = none := by
      by_contra hfound
      obtain ⟨job, hjob⟩ := Option.ne_none_iff_exists'.1 (hknown.1 hfound)
      obtain ⟨hid, hmem⟩ := hinformed.drain id job hjob
      exact List.countP_eq_zero.1 hsilent _ hmem (by simp [Event.opens, hid])
    rw [w.coordinator.feed.sent_eq w.operator.seen, h.capacity, List.countP_append,
      List.countP_append] at hsilent
    have hmissed : ¬ w.Misses id := by
      rw [Misses, ← List.countP_pos_iff]
      omega
    exact ⟨hgone, List.forall_mem_cons.2 ⟨hmissed, (h.ahead (by omega)).2⟩⟩
  · rw [hheard]
    intro hopened
    rw [hknown, h.drained_ne_none_iff hw hopened, List.forall_mem_cons]

theorem Stands.course {config : OperatorConfig} {chain : Uint 32} {metrics : Metrics}
    {start : Coordinator τ ε} (hcourse : Course (subscribed start config chain metrics) ticks w)
    (hstart : Stands [] id (subscribed start config chain metrics))
    (hw : Wanted config id w.coordinator.feed.sent)
    (hkept : ∀ tick ∈ ticks, ¬ Drops id tick) : Stands ticks id w := by
  induction hcourse with
  | start => exact hstart
  | @move ticks w h move ih =>
      have hsuffix := w.coordinator.sent_suffix_run [move]
      exact (ih (hw.suffix hsuffix) hkept).move move
  | @tick ticks w flow c' o' h hticks ih =>
      obtain ⟨hlast, hkept⟩ := List.forall_mem_cons.1 hkept
      obtain ⟨-, hinformed, hconfig⟩ := watched h.turns
      obtain ⟨moves, hreaches⟩ := hticks.works.reaches
      have hsuffix : w.coordinator.feed.sent <:+ c'.feed.sent := by
        rw [hreaches]
        exact w.coordinator.sent_suffix_run moves
      have hbefore := hw.suffix hsuffix
      exact (ih hbefore hkept).tick hticks (hconfig ▸ hbefore) hinformed hlast

omit [UtilityToken τ] [JobEffect ε] in
theorem stands_subscribed {start : Coordinator τ ε} (hlogged : start.Logged)
    (hcapacity : start.feed.capacity = feedCapacity) (hnew : start.jobs.get? id = none)
    (config : OperatorConfig) (chain : Uint 32) (metrics : Metrics) :
    Stands [] id (subscribed start config chain metrics) := by
  have hopened : start.feed.sent.countP (Event.opens id) = 0 := by
    rw [hlogged.opened, hnew]
    rfl
  have hheard : start.feed.heard start.feed.position = start.feed.sent :=
    Feed.heard_position _ _ (List.suffix_refl _)
  refine ⟨hcapacity, Nat.le_refl _, fun _ => ⟨rfl, by simp⟩, fun hpos => ?_⟩
  change 0 < (start.feed.heard start.feed.position).countP (Event.opens id) at hpos
  rw [hheard, hopened] at hpos
  cases hpos

omit [UtilityToken τ] [JobEffect ε] in
theorem wanted_of_pending {c : Coordinator τ ε} {r : JobRecord} {config : OperatorConfig}
    (hlogged : c.Logged) (hfound : c.jobs.get? id = some r) (hpending : r.status = .pending)
    (hwants : config.wantsPod r.pod = true) : Wanted config id c.feed.sent := by
  refine ⟨hlogged.opened id ▸ Bool.toNat_le _, ?_, ?_⟩
  · rintro details payload hmem rfl
    obtain ⟨r', -, hfound', -, hdetails, -⟩ := hlogged.announced _ _ hmem
    obtain rfl := Option.some.inj (hfound.symm.trans hfound')
    rw [hdetails]
    exact hwants
  · intro event hmem
    by_contra hcloses
    have hclosed := hlogged.isClosed hmem (Bool.not_eq_false _ ▸ hcloses)
    simp [isClosed, hfound, hpending] at hclosed

theorem tracked_unless_missed (chainId : Uint 32) (config : Protocol) (address : Address)
    (token : τ) (clock : Clock) (effect : ε) (owners : Table Address Address)
    (earlier : List (Move τ ε)) (start : Coordinator τ ε)
    (hreached : (create chainId config address token clock effect owners).run earlier = start)
    (operator : OperatorConfig) (chain : Uint 32) (metrics : Metrics)
    (ticks : List (Watch τ ε × Watch τ ε)) (w : Watch τ ε)
    (hcourse : Course (subscribed start operator chain metrics) ticks w) (id : JobId)
    (hnew : start.jobs.get? id = none) (r : JobRecord)
    (hfound : w.coordinator.jobs.get? id = some r) (hpending : r.status = .pending)
    (hwants : operator.wantsPod r.pod = true) (hkept : ∀ tick ∈ ticks, ¬ Drops id tick) :
    (w.drained.find? id ≠ none ↔ ¬ w.Misses id ∧ ∀ tick ∈ ticks, ¬ tick.1.Misses id) ∧
      ∀ at_ : Watch τ ε, at_.Misses id →
        1024 < at_.coordinator.feed.position - at_.operator.seen := by
  subst hreached
  obtain ⟨hs, -, hconfig⟩ := sound hcourse.turns
  have hlogged := logged_run chainId config address token clock effect owners earlier
  have hcapacity : ((create chainId config address token clock effect owners).run
      earlier).feed.capacity = feedCapacity := capacity_run ..
  have hwanted : Wanted operator id w.coordinator.feed.sent :=
    wanted_of_pending hs.logged hfound hpending hwants
  have hstands : Stands ticks id w :=
    .course hcourse (stands_subscribed hlogged hcapacity hnew operator chain metrics) hwanted hkept
  have hopened : 0 < w.coordinator.feed.sent.countP (Event.opens id) := by
    rw [hs.logged.opened, hfound]
    exact Nat.one_pos
  exact ⟨hstands.drained_ne_none_iff (hconfig ▸ hwanted) hopened,
    fun at_ hmisses => capacity_lt_of_misses hmisses⟩

theorem prompt_operator_tracks_job :
    let config : Protocol := { Protocol.standard with fallbackCount := 1, bondUnit := 100 }
    let token := (MemoryToken.empty.mint 1 100).approve 1 7 100
    let job : Payload := ⟨5, 3, 0, [], 30, 12⟩
    let start := create 1 config 7 token .standard (RecordingEffect.create []) .empty
    let operator : OperatorConfig := ⟨9, 1, true, some [1]⟩
    let moves : List (Move MemoryToken RecordingEffect) :=
      [.source 5 6, .call (.bond 1 1 100 1), .call (.deliver job 5 6)]
    let first := subscribed start operator 1 (.create "operator" none)
    let c := start.run moves
    let o := first.operator
    let w : Watch MemoryToken RecordingEffect :=
      ⟨(tick c o).2.1.run [.clock (Clock.standard.advance 30)], (tick c o).2.2⟩
    (w.coordinator.jobs.get? job.jobId).map JobRecord.status = some .pending ∧
      w.drained.find? job.jobId ≠ none := by
  intro config token job start operator moves first c o w
  obtain ⟨hflow, hpending, hwants, hkept⟩ : (tick c o).1 = .ok .rest ∧
      (w.coordinator.jobs.get? job.jobId).map JobRecord.status = some .pending ∧
      (w.coordinator.jobs.get? job.jobId).all (fun r => operator.wantsPod r.pod) = true ∧
      (tick c o).2.2.known.find? job.jobId ≠ none := by
    decide +kernel
  obtain ⟨hfew, hfew'⟩ : c.feed.position - o.seen ≤ 1024 ∧
      w.coordinator.feed.position - w.operator.seen ≤ 1024 := by
    decide +kernel
  have hreached : (create 1 config 7 token .standard (RecordingEffect.create []) .empty).run [] =
    start := rfl
  have hnew : start.jobs.get? job.jobId = none := rfl
  have hbefore : Course first [] ⟨c, o⟩ := Course.start.moves moves
  have hticks : Ticks c o .rest (tick c o).2.1 (tick c o).2.2 := ticks_of_tick hflow
  have hw : w = ⟨(tick c o).2.1.run [.clock (Clock.standard.advance 30)], (tick c o).2.2⟩ := rfl
  clear_value w
  generalize tick c o = result at *
  clear_value o c start job
  subst hw
  have hcourse := (hbefore.tick hticks).moves [.clock (Clock.standard.advance 30)]
  obtain ⟨r, hfound, hstatus⟩ := Option.map_eq_some_iff.1 hpending
  rw [hfound] at hwants
  obtain ⟨htracked, hcapacity⟩ := tracked_unless_missed 1 config 7 token .standard (.create [])
    .empty [] start hreached operator 1 (.create "operator" none) _ _ hcourse job.jobId hnew r
    hfound hstatus hwants (List.forall_mem_singleton.2 fun hdrops => hkept hdrops.2)
  have hread : ¬ Misses ⟨c, o⟩ job.jobId := fun hmisses =>
    absurd (hcapacity ⟨c, o⟩ hmisses) (Nat.not_lt.2 hfew)
  have hread' : ¬ Misses ⟨_, result.2.2⟩ job.jobId := fun hmisses =>
    absurd (hcapacity _ hmisses) (Nat.not_lt.2 hfew')
  exact ⟨hpending, htracked.2 ⟨hread', List.forall_mem_singleton.2 hread⟩⟩

theorem lagging_operator_loses_pending_job :
    let config : Protocol := { Protocol.standard with fallbackCount := 1, bondUnit := 100 }
    let token := (MemoryToken.empty.mint 1 100).approve 1 7 .top
    let job : Payload := ⟨5, 3, 0, [], 30, 12⟩
    let start := create 1 config 7 token .standard (RecordingEffect.create []) .empty
    let round : List (Move MemoryToken RecordingEffect) :=
      [.call (.bond 1 1 100 1), .call (.unbond 1 1 1)]
    let moves := [.source 5 6, .call (.deliver job 5 6)] ++ round ++
      (List.replicate 512 round).flatten
    let c := start.run moves
    let first := subscribed start ⟨9, 1, true, none⟩ 1 (.create "operator" none)
    let w : Watch MemoryToken RecordingEffect := ⟨c, first.operator⟩
    start.jobs.get? job.jobId = none ∧ Course first [] w ∧
      (c.jobs.get? job.jobId).map JobRecord.status = some .pending ∧
      (∀ pod, first.operator.config.wantsPod pod = true) ∧ w.drained.find? job.jobId = none := by
  intro config token job start round moves c first w
  have hcourse : Course first [] w := Course.start.moves moves
  let before : List (Move MemoryToken RecordingEffect) :=
    [.source 5 6, .call (.deliver job 5 6)] ++ round
  let announced : List Event := [.operatorBonded 1 1 100, .operatorUnbonded 1 100]
  have hnew : start.jobs.get? job.jobId = none := rfl
  obtain ⟨hpending, hcapacity, hbond, hunbond⟩ :
      ((start.run before).jobs.get? job.jobId).map JobRecord.status = some .pending ∧
      (start.run before).feed.capacity = feedCapacity ∧
      ((start.run before).ledger.bond 1 1 100 1 ((start.run before).kindOf 1)).1 =
        .ok ⟨100, 1, .account⟩ ∧
      (((start.run before).ledger.bond 1 1 100 1 ((start.run before).kindOf 1)).2.unbond 1 1 1) =
        (.ok 100, (start.run before).ledger) := by
    decide +kernel
  have hsplit : c = (start.run before).run (List.replicate 512 round).flatten :=
    start.run_append before _
  generalize start.run before = c₀ at hpending hcapacity hbond hunbond hsplit
  clear_value c
  have hround (feed : Feed Event) : (c₀.setFeed feed).run round =
      c₀.setFeed (feed.sendAll announced) := run_round (Prod.ext hbond rfl) hunbond feed
  obtain rfl : c = c₀.setFeed (c₀.feed.sendAll (List.replicate 512 announced).flatten) :=
    hsplit.trans (run_rounds hround 512 c₀.feed)
  have hlength : feedCapacity ≤ (List.replicate 512 announced).flatten.length := by
    rw [List.length_flatten, List.map_replicate, List.sum_replicate_nat]
    decide
  have hsilent : ∀ event ∈ (List.replicate 512 announced).flatten,
      event.opens job.jobId = false ∧ event.closes job.jobId = false := by
    intro event hmem
    obtain ⟨events, hevents, hmem⟩ := List.mem_flatten.1 hmem
    obtain rfl := List.eq_of_mem_replicate hevents
    rcases List.mem_pair.1 hmem with rfl | rfl <;> exact ⟨rfl, rfl⟩
  rw [jobs_setFeed]
  exact ⟨hnew, hcourse, hpending, fun _ => rfl, drained_after_burst hcapacity hlength hsilent _⟩

end Watch

end BondedRelay
