import BondedRelay.Proofs.Coordinator.Assigned
import BondedRelay.Proofs.Job.Payload
import BondedRelay.Token.Memory

namespace BondedRelay.Coordinator

def Call.payload? (call : Call) : Option Payload :=
  (call.delivery?.map Prod.fst).or (call.execution?.map fun x => x.2.1)

variable {τ ε : Type} {start c : Coordinator τ ε} {call : Call} {payload : Payload} {id : JobId}
  {r : JobRecord} {i : Invocation} {params : ExecutionParams}

def Move.payload? : Move τ ε → Option Payload
  | .call call => call.payload?
  | _ => none

def handedIn (moves : List (Move τ ε)) : List Payload := moves.filterMap Move.payload?

def CollisionFree (payloads : List Payload) : Prop :=
  ∀ p ∈ payloads, ∀ q ∈ payloads, keccak p.toBytes = keccak q.toBytes → p.toBytes = q.toBytes

instance (payloads : List Payload) : Decidable (CollisionFree payloads) :=
  inferInstanceAs (Decidable (∀ p ∈ payloads, ∀ q ∈ payloads, _ → _))

theorem CollisionFree.eq_of_jobId_eq {payloads : List Payload} (h : CollisionFree payloads)
    {p q : Payload} (hp : p ∈ payloads) (hq : q ∈ payloads) (hid : p.jobId = q.jobId) : p = q :=
  Payload.toBytes_injective (h p hp q hq hid)

theorem mem_handedIn (h : call.payload? = some payload) (xs ys : List (Move τ ε)) :
    payload ∈ handedIn (xs ++ .call call :: ys) :=
  List.mem_filterMap.2 ⟨.call call, by simp, h⟩

theorem payload?_of_delivery {chain : Uint 32} {sender : Address}
    (h : call.delivery? = some (payload, chain, sender)) : call.payload? = some payload := by
  rw [Call.payload?, h]
  rfl

theorem delivery?_of_execution {x : Address × Payload × ExecutionParams}
    (h : call.execution? = some x) : call.delivery? = none := by
  cases call with
  | execute caller payload params => rfl
  | executeBytes caller bytes params => rfl
  | _ => simp [Call.execution?] at h

theorem payload?_of_execution {caller : Address}
    (h : call.execution? = some (caller, payload, params)) : call.payload? = some payload := by
  rw [Call.payload?, delivery?_of_execution h, h]
  rfl

variable [UtilityToken τ] [JobEffect ε] {moves earlier later : List (Move τ ε)}

def Delivers (c : Coordinator τ ε) (call : Call) (payload : Payload) : Prop :=
  ∃ sender details, call.delivery? = some (payload, payload.sourceChain, sender) ∧
    c.isTrusted payload.sourceChain sender = true ∧ c.answer call = .ok (.assigned details)

structure Invokes (c : Coordinator τ ε) (call : Call) (params : ExecutionParams) (r : JobRecord)
    (i : Invocation) : Prop where
  execution?_eq : call.execution? = some (i.executor, i.payload, params)
  accepted : ∃ receipt, c.answer call = .ok (.executed receipt)
  found : c.jobs.get? i.payload.jobId = some r
  pending : r.status = .pending
  within : params.gasPrice ≤ BasisPoints.ceiling r.gasPrice c.config.spikeToleranceBps ∧
    r.gasLimit ≤ params.gasLeft
  gasLimit_eq : i.gasLimit = r.gasLimit

theorem Assigns.delivers (h : c.Assigns call payload) : c.Delivers call payload := by
  obtain ⟨chain, sender, details, hcall, hanswer⟩ := h
  have hrespond : c.respond call = (.ok (.assigned details), c.after call) := Prod.ext hanswer rfl
  rw [respond_of_delivery hcall] at hrespond
  obtain ⟨details', hdeliver, -⟩ := mapped_ok hrespond
  obtain ⟨rfl, htrusted, -⟩ := deliver_ok hdeliver
  exact ⟨sender, details, hcall, htrusted, hanswer⟩

def Filed (c : Coordinator τ ε) : Prop := ∀ id r, c.jobs.get? id = some r → r.id = id

theorem Filed.step (hf : c.Filed) (move : Move τ ε) : (c.step move).Filed := by
  rcases c.step_cases move with ⟨call, reply, rfl, -, haccepts⟩ | ⟨hquiet, -⟩
  · intro id r hfound
    generalize c.step (.call call) = c' at haccepts hfound
    cases haccepts with
    | @deliver call payload sender hcall htrusted hfresh =>
        change JobStore.get? ⟨c.jobs.jobs.set _ _⟩ id = some r at hfound
        rw [JobStore.get?_set] at hfound
        split at hfound
        · next hid =>
            obtain rfl := Option.some.inj hfound
            exact hid
        · exact hf id r hfound
    | @execute call caller payload params receipt place hcall hexecute =>
        obtain ⟨r₀, phase, hpending, -, -, -, -, -, -, hjobs⟩ := Execution.execute_ok hexecute
        change place.jobs.get? id = some r at hfound
        rw [hjobs, JobStore.get?_set] at hfound
        split at hfound
        · next hid =>
            obtain rfl := Option.some.inj hfound
            exact (hf payload.jobId r₀ hpending).trans hid
        · exact hf id r hfound
    | bond hbond => exact hf id r hfound
    | topUp htopUp => exact hf id r hfound
    | unbond hunbond => exact hf id r hfound
  · intro id r hfound
    rw [hquiet.jobs] at hfound
    exact hf id r hfound

theorem filed_run (hf : start.Filed) (moves : List (Move τ ε)) : (start.run moves).Filed := by
  induction moves generalizing start with
  | nil => exact hf
  | cons move rest ih => exact ih (hf.step move)

theorem invocations_step (c : Coordinator τ ε) (move : Move τ ε) :
    (c.step move).place.invocations = c.place.invocations ∨
      ∃ call params r i, move = .call call ∧ c.Invokes call params r i ∧
        (c.step move).place.invocations = i :: c.place.invocations := by
  rcases c.step_cases move with ⟨call, reply, rfl, hanswer, haccepts⟩ | ⟨hquiet, -⟩
  · generalize c.step (.call call) = c' at haccepts ⊢
    cases haccepts with
    | @execute call caller payload params receipt place hcall hexecute =>
        obtain ⟨r, phase, hfound, hpending, hcheck, -, -, -, hinvoked, -⟩ :=
          Execution.execute_ok hexecute
        refine .inr ⟨call, params, r, ⟨payload, caller, r.gasLimit⟩, rfl, ?_, ?_⟩
        · exact ⟨hcall, ⟨receipt, hanswer⟩, hfound, hpending,
            (Execution.check_eq_ok_iff.1 hcheck).2, rfl⟩
        · exact hinvoked
    | deliver hcall htrusted hfresh => exact .inl rfl
    | bond hbond => exact .inl rfl
    | topUp htopUp => exact .inl rfl
    | unbond hunbond => exact .inl rfl
  · exact .inl hquiet.invocations

theorem invocations_run (moves : List (Move τ ε))
    (h : i ∈ (start.run moves).place.invocations) :
    i ∈ start.place.invocations ∨
      ∃ before call params r after, moves = before ++ .call call :: after ∧
        (start.run before).Invokes call params r i := by
  induction moves generalizing start with
  | nil => exact .inl h
  | cons move rest ih =>
      rcases ih h with hold | ⟨before, call, params, r, after, rfl, hinvokes⟩
      · rcases start.invocations_step move with hsame | ⟨call, params, r, j, rfl, hinvokes, hlog⟩
        · exact .inl (hsame ▸ hold)
        · rw [hlog, List.mem_cons] at hold
          rcases hold with rfl | hold
          · exact .inr ⟨[], call, params, r, rest, rfl, hinvokes⟩
          · exact .inl hold
      · exact .inr ⟨move :: before, call, params, r, after, rfl, hinvokes⟩

theorem delivered_run (hfresh : ∀ id, start.jobs.get? id = none) (hfiled : start.Filed)
    (hcollision : CollisionFree (handedIn moves)) (hpayload : payload ∈ handedIn moves)
    (hmoves : moves = earlier ++ later)
    (h : (start.run earlier).jobs.get? payload.jobId = some r) :
    ∃ before call between, earlier = before ++ .call call :: between ∧
      (start.run before).Delivers call payload ∧
      r = { (start.run before).assignment payload with status := r.status } := by
  obtain ⟨c, before, call, between, payload', rfl, rfl, hassigns, hfields⟩ :=
    assigned_run hfresh earlier h
  have hid : payload'.jobId = payload.jobId := by
    rw [← filed_run hfiled _ _ _ h, hfields]
    rfl
  have hdelivers := hassigns.delivers
  obtain ⟨chain, sender, details, hcall, -⟩ := hassigns
  have hmem : payload' ∈ handedIn moves := by
    rw [hmoves, List.append_assoc]
    exact mem_handedIn (payload?_of_delivery hcall) before (between ++ later)
  obtain rfl := hcollision.eq_of_jobId_eq hmem hpayload hid
  exact ⟨before, call, between, rfl, hdelivers, hfields⟩

theorem invocations_were_delivered (chainId : Uint 32) (config : Protocol) (address : Address)
    (token : τ) (clock : Clock) (effect : ε) (owners : Table Address Address)
    (moves : List (Move τ ε)) (hcollision : CollisionFree (handedIn moves)) :
    let start := create chainId config address token clock effect owners
    ∀ i ∈ (start.run moves).place.invocations,
      ∃ before delivery between execution after params r,
        moves = before ++ .call delivery :: (between ++ .call execution :: after) ∧
        (start.run before).Delivers delivery i.payload ∧
        i.gasLimit = i.payload.gasLimit ∧ r.gasLimit = i.payload.gasLimit ∧
        r.gasPrice = i.payload.gasPrice ∧
        let c := start.run (before ++ .call delivery :: between)
        c.Invokes execution params r i ∧
        ∀ caller params phase, c.check caller i.payload.jobId params = .ok phase ↔
          Window.authorize config c.pods c.ledger.isBonded r caller c.clock.timestamp = .ok phase ∧
            params.gasPrice ≤ BasisPoints.ceiling i.payload.gasPrice config.spikeToleranceBps ∧
            i.payload.gasLimit ≤ params.gasLeft := by
  intro start i hinvoked
  have hempty (id : JobId) : start.jobs.get? id = none := rfl
  have hfiled : start.Filed := fun id r hfound => by simp [hempty] at hfound
  rcases invocations_run moves hinvoked with
    hold | ⟨earlier, execution, params, r, after, rfl, hinvokes⟩
  · exact absurd hold List.not_mem_nil
  · have hpayload : i.payload ∈ handedIn (earlier ++ .call execution :: after) :=
      mem_handedIn (payload?_of_execution hinvokes.execution?_eq) earlier after
    obtain ⟨before, delivery, between, rfl, hdelivers, hfields⟩ :=
      delivered_run hempty hfiled hcollision hpayload rfl hinvokes.found
    have hlimit : r.gasLimit = i.payload.gasLimit := by rw [hfields]; rfl
    have hprice : r.gasPrice = i.payload.gasPrice := by rw [hfields]; rfl
    refine ⟨before, delivery, between, execution, after, params, r, by simp, hdelivers,
      hinvokes.gasLimit_eq.trans hlimit, hlimit, hprice, hinvokes, ?_⟩
    intro caller params phase
    rw [Coordinator.check, JobStore.pending_eq_ok_iff.2 ⟨hinvokes.found, hinvokes.pending⟩]
    dsimp only
    rw [Execution.check_eq_ok_iff, config_run, hlimit, hprice]
    rfl

theorem open_job_runs_as_delivered :
    let job : Payload := ⟨5, 3, 4, [1], 30, 12⟩
    let other : Payload := ⟨5, 3, 4, [2], 30, 12⟩
    let moves : List (Move MemoryToken RecordingEffect) := [.source 5 6, .call (.deliver job 5 6),
      .call (.deliver other 5 6), .call (.execute 11 job ⟨30, 12⟩)]
    let start := create 1 .standard 9 .empty .standard (RecordingEffect.create []) .empty
    CollisionFree (handedIn moves) ∧
      (start.run moves).place.invocations = [⟨job, 11, 30⟩] ∧
      ∃ before delivery, .call delivery ∈ moves ∧ (start.run before).Delivers delivery job := by
  intro job other moves start
  have hcollision : CollisionFree (handedIn moves) := by decide +kernel
  have hlog : (start.run moves).place.invocations = [⟨job, 11, 30⟩] := by decide +kernel
  have hinvoked : ⟨job, 11, 30⟩ ∈ (start.run moves).place.invocations :=
    hlog ▸ List.mem_singleton_self _
  have hrun := invocations_were_delivered 1 .standard 9 .empty .standard (.create []) .empty
    moves hcollision
  obtain ⟨before, delivery, between, execution, after, params, r, hmoves, hdelivers, -⟩ :=
    hrun ⟨job, 11, 30⟩ hinvoked
  refine ⟨hcollision, hlog, before, delivery, ?_, hdelivers⟩
  rw [hmoves]
  exact List.mem_append_cons_self

end BondedRelay.Coordinator
