import BondedRelay.Proofs.Job.Timeline
import BondedRelay.Proofs.Operator.Tracking
import BondedRelay.Token.Memory

namespace BondedRelay

def Event.bytes : Event → Bytes
  | .jobAvailable _ payload => payload
  | _ => []

namespace Coordinator

variable {τ ε : Type} {c c' : Coordinator τ ε} {r : JobRecord} {id : JobId} {who : Address}

def ExecutedBy (who : Address) (id : JobId) (c c' : Coordinator τ ε) : Prop :=
  c.isClosed id = false ∧ c'.isClosed id = true ∧
    ∃ latest, c'.place.invocations = latest ++ c.place.invocations ∧
      ∃ i ∈ latest, i.executor = who ∧ i.payload.jobId = id

inductive Dropped (c c' : Coordinator τ ε) (who : Address) (id : JobId) : Prop
  | executed (hexecuted : ExecutedBy who id c c')
  | closed (hclosed : c.isClosed id = true)
  | stalled {r : JobRecord} (hfound : c'.jobs.get? id = some r)
      (hphase : c'.InPhase r .exhausted) (hpolicy : c'.config.afterFallbacks = .stalled)
  | unbonded {r : JobRecord} (hfound : c'.jobs.get? id = some r)
      (hphase : c'.InPhase r .exhausted) (hbonded : c'.ledger.isBonded who = false)

theorem InPhase.congr {phase : WindowPhase} (h : c.InPhase r phase) (hconfig : c'.config = c.config)
    (hclock : c'.clock = c.clock) : c'.InPhase r phase := by
  unfold InPhase
  rw [hconfig, hclock]
  exact h

end Coordinator

open Coordinator in
-- A fallback window is open and all windows are counted as lapsed only if they have no length, or
-- if the last of them ends beyond the last second there is.
theorem JobDetails.bounds_of_windowsLapsed {r : JobRecord} {status : JobStatus} {k : Nat}
    {windowDuration now : Uint 64}
    (hphase : (WindowPhase.fallback k).Spans r windowDuration now.toNat)
    (hlapsed : (ofRecord { r with status } windowDuration).windowsLapsed now = true) :
    windowDuration.toNat = 0 ∨ Uint.limit 64 ≤
      r.assignedAt.toNat + windowDuration.toNat * (r.fallbacks.length + 1) := by
  by_contra hbounds
  obtain ⟨hlong, hfits⟩ := not_or.1 hbounds
  have hexhausted : WindowPhase.exhausted.Spans r windowDuration now.toNat :=
    (windowsLapsed_iff (Nat.one_le_iff_ne_zero.2 hlong) (by
      rw [Uint.toNat_top]
      omega)).1 hlapsed
  have hsame := (WindowPhase.at_eq_iff.2 hphase).symm.trans (WindowPhase.at_eq_iff.2 hexhausted)
  cases hsame

namespace Watch

open Coordinator Operator

variable {τ ε : Type} {w : Watch τ ε} {flow : Flow} {c' : Coordinator τ ε} {o' : Operator}
  {id : JobId} {job : KnownJob}

def drained (w : Watch τ ε) : Table JobId KnownJob := (w.operator.drain w.coordinator.feed).known

def Tracks (w : Watch τ ε) (id : JobId) : Prop :=
  ∃ events, events <+: (w.coordinator.feed.unread w.operator.seen).items ∧
    (events.foldl observe w.operator).known.find? id ≠ none

theorem tracks_of_drained (h : w.drained.find? id ≠ none) : w.Tracks id :=
  ⟨_, List.prefix_refl _, h⟩

structure Sound (w : Watch τ ε) : Prop where
  logged : w.coordinator.Logged
  seated : w.coordinator.Seated
  informed : Informed w.coordinator.feed.sent w.operator.known

structure Knows (w : Watch τ ε) (id : JobId) (job : KnownJob) (r : JobRecord) (payload : Payload) :
    Prop where
  found : w.coordinator.jobs.get? id = some r
  details_eq : job.details =
    .ofRecord { r with status := .pending } w.coordinator.config.windowDuration
  payload_eq : job.payload = payload.toBytes
  jobId_eq : payload.jobId = id
  announced : .jobAvailable job.details payload.toBytes ∈ w.coordinator.feed.sent

theorem Sound.knows (hs : w.Sound) (hknown : w.drained.find? id = some job) :
    ∃ r payload, w.Knows id job r payload := by
  obtain ⟨hid, hmem⟩ := hs.informed.drain id job hknown
  obtain ⟨r, payload, hfound, -, hdetails, hbytes, hjob⟩ := hs.logged.announced _ _ hmem
  rw [hid] at hfound hjob
  exact ⟨r, payload, hfound, hdetails, hbytes, hjob, hbytes ▸ hmem⟩

theorem Knows.ofBytes_eq {r : JobRecord} {payload : Payload} (h : w.Knows id job r payload)
    (hdata : payload.data.length < 0x100000000) : Payload.ofBytes job.payload = .ok payload := by
  rw [h.payload_eq]
  exact Payload.ofBytes_toBytes hdata

theorem Knows.reads {r : JobRecord} {payload : Payload} (h : w.Knows id job r payload)
    (hdata : payload.data.length < 0x100000000) : job.Reads id := by
  intro read hread
  rw [h.ofBytes_eq hdata] at hread
  rw [← Except.ok.inj hread, h.jobId_eq]

def Short (w : Watch τ ε) : Prop :=
  ∀ details payload, .jobAvailable details (Payload.toBytes payload) ∈ w.coordinator.feed.sent →
    payload.data.length < 0x100000000

theorem Sound.reads (hs : w.Sound) (hshort : w.Short) :
    ∀ id job, w.drained.find? id = some job → job.Reads id := by
  intro id job hknown
  obtain ⟨r, payload, hknows⟩ := hs.knows hknown
  exact hknows.reads (hshort _ payload hknows.announced)

theorem Sound.closed_of_drained (hs : w.Sound) (htracks : w.Tracks id)
    (hafter : w.drained.find? id = none) : w.coordinator.isClosed id = true := by
  obtain ⟨events, ⟨rest, hitems⟩, hbefore⟩ := htracks
  have hrest : (rest.foldl observe (events.foldl observe w.operator)).known.find? id = none := by
    rw [← List.foldl_append, hitems]
    exact hafter
  obtain ⟨event, hmem, hcloses⟩ := closes_of_foldl_observe hbefore hrest
  have hunread : event ∈ (w.coordinator.feed.unread w.operator.seen).items := by
    rw [← hitems]
    exact List.mem_append_right _ hmem
  exact hs.logged.isClosed (Feed.mem_of_mem_unread hunread) hcloses

def Timely (w : Watch τ ε) : Prop :=
  ∀ id r, w.coordinator.jobs.get? id = some r → r.assignedAt.toNat +
    w.coordinator.config.windowDuration.toNat * (r.fallbacks.length + 1) < Uint.limit 64

variable [UtilityToken τ] [JobEffect ε]

theorem pending_of_tracked (hs : w.Sound) (hshort : w.Short)
    (hticks : Ticks w.coordinator w.operator flow c' o') (hkept : o'.known.find? id = some job) :
    ∃ r, c'.jobs.get? id = some r ∧ r.status = .pending := by
  have hknown : w.drained.find? id = some job := hticks.find?_subset hkept
  obtain ⟨c₁, c₂, flow, -, hvisit, -, hflow, hjobs⟩ := hticks.visit hknown
  rcases hflow with ⟨rfl, -⟩ | ⟨-, hgone⟩
  · obtain ⟨r, hfound, hpending⟩ := hvisit.pending_of_rest
    exact ⟨r, (hjobs (hs.reads hshort)).2.trans hfound, hpending⟩
  · rw [hkept] at hgone
    cases hgone

theorem executedBy_of_visit {c₁ c₂ : Coordinator τ ε} {c : Coordinator τ ε} {who : Address}
    {payload : Payload} {params : ExecutionParams} {receipt : ExecutionReceipt}
    (hbefore : c.Works who c₁) (hexecute : c₁.execute who payload params = (.ok receipt, c₂))
    (hafter : c₂.Works who c')
    (hjobs : c₁.jobs.get? payload.jobId = c.jobs.get? payload.jobId ∧
      c'.jobs.get? payload.jobId = c₂.jobs.get? payload.jobId) :
    ExecutedBy who payload.jobId c c' := by
  obtain ⟨hopen, hclosed, i, hwho, hpayload, hinvoked⟩ := closed_of_execute hexecute
  obtain ⟨earlier, hearlier⟩ := hbefore.invocations
  obtain ⟨later, hlater⟩ := hafter.invocations
  refine ⟨?_, ?_, later ++ i :: earlier, ?_, i, by simp, hwho, by rw [hpayload]⟩
  · rwa [isClosed, ← hjobs.1]
  · rwa [isClosed, hjobs.2]
  · rw [← hlater, hinvoked, ← hearlier, List.append_assoc]
    rfl

theorem visit_of_gone (hs : w.Sound) (hticks : Ticks w.coordinator w.operator flow c' o')
    (hknown : w.drained.find? id = some job) (hgone : o'.known.find? id = none)
    (hreads : job.Reads id) :
    ∃ c₁ c₂, w.coordinator.Works w.operator.config.operator c₁ ∧
      c₁.Works w.operator.config.operator c₂ ∧ c₂.Works w.operator.config.operator c' ∧
      ((∃ payload receipt, payload.jobId = id ∧
        c₁.execute w.operator.config.operator payload job.params = (.ok receipt, c₂)) ∨
        c₂.jobs = c₁.jobs ∧ Settled w.operator.config c₁ id job) ∧
      ((∀ id job, w.drained.find? id = some job → job.Reads id) →
        c₁.jobs.get? id = w.coordinator.jobs.get? id ∧ c'.jobs.get? id = c₂.jobs.get? id) := by
  obtain ⟨c₁, c₂, flow, hbefore, hvisit, hafter, hflow, hjobs⟩ := hticks.visit hknown
  rcases hflow with ⟨-, hkept⟩ | ⟨rfl, -⟩
  · rw [hkept] at hgone
    cases hgone
  · have hseated : c₁.Seated := by
      obtain ⟨moves, rfl⟩ := hbefore.reaches
      exact hs.seated.run moves
    exact ⟨c₁, c₂, hbefore, hvisit.works, hafter, hvisit.settled hseated hreads, hjobs⟩

theorem dropped_of_gone (hs : w.Sound) (hshort : w.Short) (htimely : w.Timely)
    (hwindow : 1 ≤ w.coordinator.config.windowDuration.toNat)
    (hticks : Ticks w.coordinator w.operator flow c' o') (hknown : w.drained.find? id = some job)
    (hgone : o'.known.find? id = none) :
    w.coordinator.Dropped c' w.operator.config.operator id := by
  obtain ⟨r, payload, hknows⟩ := hs.knows hknown
  have hdata := hshort _ payload hknows.announced
  obtain ⟨c₁, c₂, hbefore, hworks, hafter, hsettled, hjobs⟩ :=
    visit_of_gone hs hticks hknown hgone (hknows.reads hdata)
  obtain ⟨hsame, hsame'⟩ := hjobs (hs.reads hshort)
  rcases hsettled with ⟨payload, receipt, rfl, hexecute⟩ | ⟨hunchanged, hsettled⟩
  · exact .executed (executedBy_of_visit hbefore hexecute hafter ⟨hsame, hsame'⟩)
  · have hrest := hworks.trans hafter
    have hconfig : c'.config = c₁.config := hrest.config
    have hclock : c'.clock = c₁.clock := hrest.clock
    have hfound' : c'.jobs.get? id = c₁.jobs.get? id := by rw [hsame', hunchanged]
    cases hsettled with
    | closed hclosed =>
        refine .closed (isClosed_eq_true_iff.2 ⟨r, hknows.found, ?_⟩)
        have hstatus := hclosed r (hsame.trans hknows.found)
        cases hr : r.status with
        | pending => exact absurd hr hstatus
        | _ => rfl
    | stalled hfound hphase hpolicy =>
        exact .stalled (hfound'.trans hfound) (hphase.congr hconfig hclock) (hconfig ▸ hpolicy)
    | unbonded hfound hphase hpolicy hbonded =>
        exact .unbonded (hfound'.trans hfound) (hphase.congr hconfig hclock)
          (hrest.isBonded.trans hbonded)
    | @overrun r' k hfound hphase hlapsed =>
        obtain rfl : r = r' := Option.some.inj (hknows.found.symm.trans (hsame.symm.trans hfound))
        rw [hknows.details_eq, ← hbefore.config] at hlapsed
        have htime := htimely id r hknows.found
        rw [← hbefore.config] at htime hwindow
        rcases JobDetails.bounds_of_windowsLapsed hphase hlapsed with hzero | hlate
        · omega
        · omega
    | unreadable hread =>
        rw [hknows.ofBytes_eq hdata] at hread
        cases hread

theorem sound {chainId : Uint 32} {config : Protocol} {address : Address} {token : τ}
    {clock : Clock} {effect : ε} {owners : Table Address Address}
    {earlier : List (Move τ ε)} {operator : OperatorConfig} {chain : Uint 32} {metrics : Metrics}
    (hwatched : Relation.ReflTransGen Turn (subscribed
      ((create chainId config address token clock effect owners).run earlier) operator chain
        metrics) w) :
    w.Sound ∧ w.coordinator.config = config ∧ w.operator.config = operator := by
  obtain ⟨⟨moves, hreaches⟩, hinformed, hoperator⟩ := watched hwatched
  have hrun : w.coordinator =
      (create chainId config address token clock effect owners).run (earlier ++ moves) := by
    rw [hreaches, Coordinator.run_append]
  refine ⟨⟨?_, ?_, hinformed⟩, ?_, hoperator⟩
  · rw [hrun]
    exact logged_run ..
  · rw [hrun]
    exact (seated_create ..).run _
  · rw [hrun, config_run]
    rfl

theorem ticks_keep_pending_jobs (chainId : Uint 32) (config : Protocol) (address : Address)
    (token : τ) (clock : Clock) (effect : ε) (owners : Table Address Address)
    (earlier : List (Move τ ε)) (operator : OperatorConfig) (chain : Uint 32) (metrics : Metrics)
    (w : Watch τ ε)
    (hwatched : Relation.ReflTransGen Turn (subscribed
      ((create chainId config address token clock effect owners).run earlier) operator chain
        metrics) w)
    (hwindow : 1 ≤ config.windowDuration.toNat) (hshort : w.Short) (htimely : w.Timely)
    (flow : Flow) (c' : Coordinator τ ε) (o' : Operator)
    (hticks : Ticks w.coordinator w.operator flow c' o') :
    (∀ id job, o'.known.find? id = some job →
        ∃ r, c'.jobs.get? id = some r ∧ r.status = .pending) ∧
      ∀ id, w.Tracks id → o'.known.find? id = none →
        w.coordinator.Dropped c' operator.operator id := by
  obtain ⟨hs, hconfig, hoperator⟩ := sound hwatched
  rw [← hconfig] at hwindow
  refine ⟨fun id job hkept => pending_of_tracked hs hshort hticks hkept,
    fun id htracks hgone => ?_⟩
  rw [← hoperator]
  cases hknown : w.drained.find? id with
  | some job => exact dropped_of_gone hs hshort htimely hwindow hticks hknown hgone
  | none => exact .closed (hs.closed_of_drained htracks hknown)

theorem lapsed_job_dropped_next_kept :
    let config : Protocol := { Protocol.standard with fallbackCount := 1, bondUnit := 100 }
    let token := (MemoryToken.empty.mint 1 100).approve 1 7 100
    let job : Payload := ⟨5, 3, 0, [], 0, 0⟩
    let next : Payload := ⟨5, 3, 1, [], 0, 0⟩
    let start := create 1 config 7 token .standard (RecordingEffect.create []) .empty
    let c := start.run [.call (.bond 1 1 100 1), .source 5 6, .call (.deliver job 5 6),
      .clock (Clock.standard.advance 120), .call (.deliver next 5 6)]
    let o := (subscribed start ⟨9, 1, true, none⟩ 1 (.create "operator" none)).operator
    (tick c o).1 = .ok .advance ∧ c.Dropped (tick c o).2.1 9 job.jobId ∧
      ∃ r, (tick c o).2.1.jobs.get? next.jobId = some r ∧ r.status = .pending := by
  intro config token job next start c o
  let w : Watch MemoryToken RecordingEffect := ⟨c, o⟩
  obtain ⟨hflow, hknown, hgone, hkept⟩ : (tick c o).1 = .ok .advance ∧
      w.drained.find? job.jobId ≠ none ∧ (tick c o).2.2.known.find? job.jobId = none ∧
      ((tick c o).2.2.known.find? next.jobId).isSome = true := by
    decide +kernel
  have hshort : w.Short := by
    have hbytes : ∀ event ∈ c.feed.sent, event.bytes.length < 0x100000000 := by decide +kernel
    exact fun details payload hmem =>
      Nat.lt_of_le_of_lt payload.length_data_le (hbytes _ hmem)
  have htimely : w.Timely := by
    have hentries : ∀ entry ∈ c.jobs.jobs.entries, entry.2.assignedAt.toNat +
        c.config.windowDuration.toNat * (entry.2.fallbacks.length + 1) < Uint.limit 64 := by
      decide +kernel
    exact fun id r hfound => hentries (id, r) (Table.mem_entries_iff.2 hfound)
  have hwatched : Relation.ReflTransGen Turn (subscribed (start.run []) ⟨9, 1, true, none⟩ 1
      (.create "operator" none)) w := turns_of_moves (subscribed start _ _ _) _
  have hticks : Ticks c o .advance (tick c o).2.1 (tick c o).2.2 := ticks_of_tick hflow
  generalize tick c o = result at *
  obtain ⟨hpending, hdropped⟩ := ticks_keep_pending_jobs 1 config 7 token .standard (.create [])
    .empty [] ⟨9, 1, true, none⟩ 1 (.create "operator" none) w hwatched (by decide) hshort htimely
    .advance _ _ hticks
  obtain ⟨known, hfound⟩ := Option.isSome_iff_exists.1 hkept
  exact ⟨hflow, hdropped _ (tracks_of_drained hknown) hgone, hpending _ known hfound⟩

end Watch

end BondedRelay
