import BondedRelay.Proofs.Bond.Representation
import BondedRelay.Proofs.Coordinator.Assigned
import BondedRelay.Proofs.Job.Payload

namespace BondedRelay

structure Replica where
  jobs : Table JobId JobStatus
  pods : List (List Address)

namespace Replica

def empty : Replica := ⟨.empty, []⟩

def apply (r : Replica) : Event → Replica
  | .jobAvailable details _ => { r with jobs := r.jobs.set details.id .pending }
  | .jobCompleted job _ => { r with jobs := r.jobs.modify job fun _ => .completed }
  | .jobFailed job _ reason => { r with jobs := r.jobs.modify job fun _ => .failedTerminal reason }
  | .operatorSlashed receipt =>
      if receipt.demoted then { r with pods := PodRegistry.unseat r.pods receipt.operator } else r
  | .operatorBonded operator pod _ => { r with pods := PodRegistry.seat r.pods pod operator }
  | .operatorUnbonded operator _ => { r with pods := PodRegistry.unseat r.pods operator }

def replay (events : List Event) : Replica := events.foldl apply empty

theorem replay_append (earlier later : List Event) :
    replay (earlier ++ later) = later.foldl apply (replay earlier) := List.foldl_append

end Replica

theorem Replica.apply_ofOutcome (r : Replica) (job : JobId) (executor : Address)
    (outcome : ExecutionOutcome) :
    r.apply (.ofOutcome job executor outcome) =
      { r with jobs := r.jobs.modify job fun _ => outcome.status } := by
  cases outcome <;> rfl

def Event.opens (id : JobId) : Event → Bool
  | .jobAvailable details _ => details.id = id
  | _ => false

def Event.closes (id : JobId) : Event → Bool
  | .jobCompleted job _ => job = id
  | .jobFailed job _ _ => job = id
  | _ => false

theorem Event.countP_opens_ofReceipt (receipt : ExecutionReceipt) (id : JobId) :
    (Event.ofReceipt receipt).countP (Event.opens id) = 0 := by
  unfold Event.ofReceipt
  cases receipt.slash <;> cases receipt.outcome <;> simp [Event.opens, Event.ofOutcome]

theorem Event.countP_closes_ofReceipt (receipt : ExecutionReceipt) (id : JobId) :
    (Event.ofReceipt receipt).countP (Event.closes id) = (decide (receipt.job = id)).toNat := by
  unfold Event.ofReceipt
  cases receipt.slash <;> cases receipt.outcome <;> by_cases hid : receipt.job = id <;>
    simp [Event.closes, Event.ofOutcome, hid]

@[simp]
theorem Feed.sent_sendAll {α : Type} (f : Feed α) (items : List α) :
    (f.sendAll items).sent = items.reverse ++ f.sent := by
  unfold Feed.sendAll
  induction items generalizing f with
  | nil => rfl
  | cons item rest ih =>
      rw [List.foldl_cons, ih, List.reverse_cons, List.append_assoc]
      rfl

namespace Coordinator

variable {τ ε : Type} {c c' : Coordinator τ ε} {events : List Event} {id : JobId}

@[simp]
theorem sent_announce (c : Coordinator τ ε) (events : List Event) :
    (c.announce events).feed.sent = events.reverse ++ c.feed.sent :=
  c.feed.sent_sendAll events

def expel (pods : PodRegistry) : Option SlashReceipt → PodRegistry
  | some receipt => if receipt.demoted then pods.leave receipt.operator else pods
  | none => pods

inductive Tells (c c' : Coordinator τ ε) : List Event → Prop
  | nothing (hjobs : c'.jobs = c.jobs) (hpods : c'.pods = c.pods) : Tells c c' []
  | available {payload : Payload} (hfresh : c.jobs.get? payload.jobId = none)
      (hjobs : c'.jobs = ⟨c.jobs.jobs.set payload.jobId (c.assignment payload)⟩)
      (hpods : c'.pods = c.pods) :
      Tells c c' [.jobAvailable (.ofRecord (c.assignment payload) c.config.windowDuration)
        payload.toBytes]
  | closed {receipt : ExecutionReceipt} {r : JobRecord}
      (hfound : c.jobs.get? receipt.job = some r) (hpending : r.status = .pending)
      (hjobs : c'.jobs = ⟨c.jobs.jobs.set receipt.job { r with status := receipt.outcome.status }⟩)
      (hpods : c'.pods = expel c.pods receipt.slash) : Tells c c' (Event.ofReceipt receipt)
  | joined {operator : Address} {pod : Uint 32} {amount : Amount} (hjobs : c'.jobs = c.jobs)
      (hjoin : c.pods.join pod operator = .ok c'.pods) :
      Tells c c' [.operatorBonded operator pod amount]
  | left {operator : Address} {amount : Amount} (hjobs : c'.jobs = c.jobs)
      (hpods : c'.pods = c.pods.leave operator) : Tells c c' [.operatorUnbonded operator amount]

section

variable [UtilityToken τ] [JobEffect ε]

theorem tells_of_accepts {call : Call} {reply : Reply} (h : c.Accepts call reply c') :
    ∃ events, c'.feed.sent = events.reverse ++ c.feed.sent ∧ c.Tells c' events := by
  cases h with
  | deliver hcall htrusted hfresh =>
      exact ⟨_, sent_announce .., .available hfresh rfl rfl⟩
  | @execute call caller payload params receipt place hcall hexecute =>
      obtain ⟨r, phase, hfound, hpending, -, hpenalize, hjob, -, -, hjobs⟩ :=
        Execution.execute_ok hexecute
      rw [← hjob] at hfound hjobs
      refine ⟨_, sent_announce .., .closed hfound hpending hjobs ?_⟩
      rcases Execution.penalize_ok hpenalize with
        ⟨hnone, hsame⟩ | ⟨slash, required, hsome, -, -, -, hslash⟩
      · rw [hnone]
        exact congrArg Ledger.pods hsame
      · rw [hsome, expel, Ledger.operator_slash hslash]
        exact Ledger.pods_slash hslash
  | bond hbond =>
      obtain ⟨-, rfl, -, token, pods, -, hjoin, rfl⟩ := Ledger.bond_ok hbond
      exact ⟨_, sent_announce .., .joined rfl hjoin⟩
  | topUp htopUp =>
      obtain ⟨r, token, -, -, -, rfl⟩ := Ledger.topUp_ok htopUp
      exact ⟨[], rfl, .nothing rfl rfl⟩
  | unbond hunbond =>
      obtain ⟨r, token, -, -, -, -, rfl⟩ := Ledger.unbond_ok hunbond
      exact ⟨_, sent_announce .., .left rfl rfl⟩

theorem tells_step (c : Coordinator τ ε) (move : Move τ ε) :
    ∃ events, (c.step move).feed.sent = events.reverse ++ c.feed.sent ∧
      c.Tells (c.step move) events := by
  rcases c.step_cases move with ⟨call, reply, rfl, -, haccepts⟩ | ⟨hquiet, -⟩
  · exact tells_of_accepts haccepts
  · exact ⟨[], congrArg Feed.sent hquiet.feed, .nothing hquiet.jobs hquiet.pods⟩

end

structure Mirrors (c : Coordinator τ ε) (replica : Replica) : Prop where
  jobs : ∀ id, replica.jobs.find? id = (c.jobs.get? id).map JobRecord.status
  pods : replica.pods = c.pods.rows

theorem Mirrors.expel {replica : Replica} (hm : c.Mirrors replica) (ha : c.pods.Aligned)
    (hcount : c.pods.count < Uint.limit 32) (slash : Option SlashReceipt) :
    (slash.map Event.operatorSlashed).toList.foldl Replica.apply replica =
      ⟨replica.jobs, (expel c.pods slash).rows⟩ := by
  cases slash with
  | none => exact congrArg (Replica.mk replica.jobs) hm.pods
  | some receipt =>
      show (if receipt.demoted then { replica with pods := _ } else replica) =
        Replica.mk replica.jobs (if receipt.demoted then _ else c.pods).rows
      split
      · rw [PodRegistry.rows_leave ha hcount, ← hm.pods]
      · exact congrArg (Replica.mk replica.jobs) hm.pods

theorem Mirrors.tells {replica : Replica} (hm : c.Mirrors replica) (ha : c.pods.Aligned)
    (hcount : c.pods.count < Uint.limit 32) (h : c.Tells c' events) :
    c'.Mirrors (events.foldl Replica.apply replica) := by
  cases h with
  | nothing hjobs hpods =>
      refine ⟨fun id => ?_, ?_⟩
      · rw [hjobs]
        exact hm.jobs id
      · rw [hpods]
        exact hm.pods
  | @available payload hfresh hjobs hpods =>
      refine ⟨fun id => ?_, ?_⟩
      · show (replica.jobs.set payload.jobId .pending).find? id = _
        rw [hjobs, Table.find?_set, JobStore.get?_set, hm.jobs]
        split <;> rfl
      · rw [hpods]
        exact hm.pods
  | @closed receipt r hfound hpending hjobs hpods =>
      rw [Event.ofReceipt, List.foldl_append, hm.expel ha hcount, List.foldl_cons, List.foldl_nil,
        Replica.apply_ofOutcome]
      refine ⟨fun id => ?_, by rw [hpods]⟩
      show (replica.jobs.modify receipt.job fun _ => receipt.outcome.status).find? id = _
      rw [hjobs, Table.find?_modify, JobStore.get?_set, hm.jobs]
      split
      · next hid =>
          rw [← hid, hfound]
          rfl
      · rfl
  | @joined operator pod amount hjobs hjoin =>
      refine ⟨fun id => ?_, ?_⟩
      · rw [hjobs]
        exact hm.jobs id
      · show PodRegistry.seat replica.pods pod operator = _
        rw [PodRegistry.rows_join hjoin, hm.pods]
  | @left operator amount hjobs hpods =>
      refine ⟨fun id => ?_, ?_⟩
      · rw [hjobs]
        exact hm.jobs id
      · show PodRegistry.unseat replica.pods operator = _
        rw [hpods, PodRegistry.rows_leave ha hcount, hm.pods]

theorem countP_opens_tells (h : c.Tells c' events) (id : JobId) :
    events.countP (Event.opens id) + (c.jobs.get? id).isSome.toNat =
      (c'.jobs.get? id).isSome.toNat := by
  cases h with
  | nothing hjobs hpods => simp [hjobs]
  | @available payload hfresh hjobs hpods =>
      have hopens : Event.opens id (.jobAvailable
          (.ofRecord (c.assignment payload) c.config.windowDuration) payload.toBytes) =
        decide (payload.jobId = id) := rfl
      rw [hjobs, JobStore.get?_set, List.countP_singleton, hopens]
      by_cases hid : payload.jobId = id
      · simp [← hid, hfresh]
      · simp [hid]
  | @closed receipt r hfound hpending hjobs hpods =>
      rw [hjobs, JobStore.get?_set, Event.countP_opens_ofReceipt, Nat.zero_add]
      split
      · next hid => simp [← hid, hfound]
      · rfl
  | joined hjobs hjoin => simp [hjobs, Event.opens]
  | left hjobs hpods => simp [hjobs, Event.opens]

theorem countP_closes_tells (h : c.Tells c' events) (id : JobId) :
    events.countP (Event.closes id) + (c.isClosed id).toNat = (c'.isClosed id).toNat := by
  unfold isClosed
  cases h with
  | nothing hjobs hpods => simp [hjobs]
  | @available payload hfresh hjobs hpods =>
      rw [hjobs, JobStore.get?_set]
      by_cases hid : payload.jobId = id
      · simp [← hid, hfresh, Event.closes]
      · simp [hid, Event.closes]
  | @closed receipt r hfound hpending hjobs hpods =>
      rw [hjobs, JobStore.get?_set, Event.countP_closes_ofReceipt]
      by_cases hid : receipt.job = id
      · simp [← hid, hfound, hpending]
      · simp [hid]
  | joined hjobs hjoin => simp [hjobs, Event.closes]
  | left hjobs hpods => simp [hjobs, Event.closes]

def Announced (c : Coordinator τ ε) (details : JobDetails) (bytes : Bytes) : Prop :=
  ∃ (r : JobRecord) (payload : Payload), c.jobs.get? details.id = some r ∧ r.id = details.id ∧
    details = .ofRecord { r with status := .pending } c.config.windowDuration ∧
    bytes = payload.toBytes ∧ payload.jobId = details.id

theorem Announced.follows {details : JobDetails} {bytes : Bytes} (h : c.Announced details bytes)
    (hconfig : c'.config = c.config)
    (hfollows : ∀ id r, c.jobs.get? id = some r → ∃ r', c'.jobs.get? id = some r' ∧ r.Follows r') :
    c'.Announced details bytes := by
  obtain ⟨r, payload, hfound, hid, hdetails, hbytes⟩ := h
  obtain ⟨r', hfound', hfields, -⟩ := hfollows _ _ hfound
  refine ⟨r', payload, hfound', ?_, ?_, hbytes⟩
  · rw [hfields]
    exact hid
  · rw [hfields, hconfig]
    exact hdetails

theorem announced_of_tells {details : JobDetails} {bytes : Bytes} (h : c.Tells c' events)
    (hconfig : c'.config = c.config) (hmem : .jobAvailable details bytes ∈ events) :
    c'.Announced details bytes := by
  cases h with
  | @available payload hfresh hjobs hpods =>
      obtain ⟨rfl, rfl⟩ := by simpa using hmem
      refine ⟨c.assignment payload, payload, ?_, rfl, ?_, rfl, rfl⟩
      · rw [hjobs]
        exact (JobStore.get?_set ..).trans (if_pos rfl)
      · rw [hconfig]
        rfl
  | @closed receipt r hfound hpending hjobs hpods =>
      unfold Event.ofReceipt at hmem
      cases hslash : receipt.slash <;> cases houtcome : receipt.outcome <;>
        simp [hslash, houtcome, Event.ofOutcome] at hmem
  | _ => simp at hmem

structure Logged (c : Coordinator τ ε) : Prop where
  mirrors : c.Mirrors (.replay c.feed.sent.reverse)
  opened : ∀ id, c.feed.sent.countP (Event.opens id) = (c.jobs.get? id).isSome.toNat
  closed : ∀ id, c.feed.sent.countP (Event.closes id) = (c.isClosed id).toNat
  announced : ∀ details bytes, .jobAvailable details bytes ∈ c.feed.sent → c.Announced details bytes

theorem logged_create (chainId : Uint 32) (config : Protocol) (address : Address) (token : τ)
    (clock : Clock) (effect : ε) (owners : Table Address Address) :
    (create chainId config address token clock effect owners).Logged :=
  ⟨⟨fun _ => rfl, rfl⟩, fun _ => rfl, fun _ => rfl, fun _ _ hmem => by cases hmem⟩

theorem Logged.isClosed (hl : c.Logged) {event : Event} (hmem : event ∈ c.feed.sent)
    (hcloses : event.closes id = true) : c.isClosed id = true := by
  have hpos : 0 < c.feed.sent.countP (Event.closes id) :=
    List.countP_pos_iff.2 ⟨event, hmem, hcloses⟩
  rw [hl.closed] at hpos
  cases hclosed : c.isClosed id with
  | true => rfl
  | false => simp [hclosed] at hpos

variable [UtilityToken τ] [JobEffect ε]

theorem Logged.step (hl : c.Logged) (ha : c.pods.Aligned) (hcount : c.pods.count < Uint.limit 32)
    (move : Move τ ε) : (c.step move).Logged := by
  obtain ⟨events, hsent, htells⟩ := c.tells_step move
  refine ⟨?_, fun id => ?_, fun id => ?_, fun details bytes hmem => ?_⟩
  · rw [hsent, List.reverse_append, List.reverse_reverse, Replica.replay_append]
    exact hl.mirrors.tells ha hcount htells
  · rw [hsent, List.countP_append, List.countP_reverse, hl.opened]
    exact countP_opens_tells htells id
  · rw [hsent, List.countP_append, List.countP_reverse, hl.closed]
    exact countP_closes_tells htells id
  · rw [hsent, List.mem_append, List.mem_reverse] at hmem
    rcases hmem with hnew | hold
    · exact announced_of_tells htells (c.config_step move) hnew
    · exact (hl.announced details bytes hold).follows (c.config_step move)
        fun id r hfound => follows_step move hfound

theorem Logged.run (hl : c.Logged) (ha : c.ledger.Aligned) {schedule : BondSchedule}
    (hp : c.pods.Priced schedule) (moves : List (Move τ ε)) : (c.run moves).Logged := by
  induction moves generalizing c with
  | nil => exact hl
  | cons move rest ih =>
      have hedits := c.edits_step move
      exact ih (hl.step ha.pods hp.count_lt move) (ha.edits hedits) (Ledger.priced_edits hp hedits)

theorem sent_suffix_run (c : Coordinator τ ε) (moves : List (Move τ ε)) :
    c.feed.sent <:+ (c.run moves).feed.sent := by
  induction moves generalizing c with
  | nil => exact List.suffix_refl _
  | cons move rest ih =>
      obtain ⟨events, hsent, -⟩ := c.tells_step move
      exact List.IsSuffix.trans ⟨events.reverse, hsent.symm⟩ (ih (c.step move))

theorem logged_run (chainId : Uint 32) (config : Protocol) (address : Address) (token : τ)
    (clock : Clock) (effect : ε) (owners : Table Address Address)
    (moves : List (Move τ ε)) :
    ((create chainId config address token clock effect owners).run moves).Logged :=
  (logged_create ..).run (Ledger.aligned_create ..) (PodRegistry.priced_empty _) moves

theorem events_reconstruct_state (chainId : Uint 32) (config : Protocol) (address : Address)
    (token : τ) (clock : Clock) (effect : ε) (owners : Table Address Address)
    (moves : List (Move τ ε)) :
    let c := (create chainId config address token clock effect owners).run moves
    let events := c.feed.sent.reverse
    let replica := Replica.replay events
    (∀ id, replica.jobs.find? id = (c.jobs.get? id).map JobRecord.status) ∧
      replica.pods = c.pods.pods.map Pod.members ∧
      (∀ id, events.countP (Event.opens id) = (c.jobs.get? id).isSome.toNat) ∧
      (∀ id, events.countP (Event.closes id) = (c.isClosed id).toNat) ∧
      ∀ details bytes, .jobAvailable details bytes ∈ events → ∃ payload,
        bytes = payload.toBytes ∧ payload.jobId = details.id ∧
        (payload.data.length < 0x100000000 → Payload.ofBytes bytes = .ok payload) := by
  intro c events replica
  have hl : c.Logged := logged_run ..
  refine ⟨hl.mirrors.jobs, hl.mirrors.pods, fun id => ?_, fun id => ?_, ?_⟩
  · rw [List.countP_reverse]
    exact hl.opened id
  · rw [List.countP_reverse]
    exact hl.closed id
  · intro details bytes hmem
    obtain ⟨r, payload, -, -, -, rfl, hid⟩ := hl.announced details bytes (List.mem_reverse.1 hmem)
    exact ⟨payload, rfl, hid, fun hdata => Payload.ofBytes_toBytes hdata⟩

end Coordinator

end BondedRelay
