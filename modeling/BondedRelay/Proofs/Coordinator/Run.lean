import BondedRelay.Coordinator
import BondedRelay.Proofs.Job.Execution

namespace BondedRelay.Coordinator

inductive Call where
  | deliver (payload : Payload) (chain : Uint 32) (sender : Address)
  | deliverBytes (payload : Bytes) (chain : Uint 32) (sender : Address)
  | execute (caller : Address) (payload : Payload) (params : ExecutionParams)
  | executeBytes (caller : Address) (payload : Bytes) (params : ExecutionParams)
  | bond (caller operator : Address) (amount : Amount) (pod : Uint 32)
  | topUp (caller operator : Address) (amount : Amount)
  | unbond (caller operator recipient : Address)
  deriving DecidableEq, Repr

def Call.delivery? : Call → Option (Payload × Uint 32 × Address)
  | .deliver payload chain sender => some (payload, chain, sender)
  | .deliverBytes payload chain sender =>
      (Payload.ofBytes payload).toOption.map fun payload => (payload, chain, sender)
  | _ => none

def Call.execution? : Call → Option (Address × Payload × ExecutionParams)
  | .execute caller payload params => some (caller, payload, params)
  | .executeBytes caller payload params =>
      (Payload.ofBytes payload).toOption.map fun payload => (caller, payload, params)
  | _ => none

inductive Reply where
  | assigned (details : JobDetails)
  | executed (receipt : ExecutionReceipt)
  | bonded
  | toppedUp
  | unbonded (amount : Amount)
  deriving DecidableEq, Repr

inductive Move (τ ε : Type) where
  | call (call : Call)
  | clock (clock : Clock)
  | owners (owners : Table Address Address)
  | source (chain : Uint 32) (sender : Address)
  | effect (effect : ε)
  | token (token : τ)

variable {τ ε : Type} {c c' : Coordinator τ ε} {call : Call} {reply : Reply} {e : Rejection}
  {caller : Address} {payload : Payload} {params : ExecutionParams} {chain : Uint 32}
  {sender : Address}

def assignment (c : Coordinator τ ε) (payload : Payload) : JobRecord :=
  Assignment.assign c.config c.pods c.clock payload

theorem deliver_ok {details : JobDetails} (h : c.deliver payload chain sender = (.ok details, c')) :
    chain = payload.sourceChain ∧ c.isTrusted chain sender = true ∧
      c.jobs.get? payload.jobId = none ∧
      details = .ofRecord (c.assignment payload) c.config.windowDuration ∧
      c' = (c.setJobs ⟨c.jobs.jobs.set payload.jobId (c.assignment payload)⟩).announce
        [.jobAvailable details payload.toBytes] := by
  unfold deliver at h
  split at h
  · simp at h
  · next htrusted =>
      split at h
      · simp at h
      · next hchain =>
          dsimp only at h
          split at h
          · simp at h
          · next jobs hinsert =>
              obtain ⟨hfresh, rfl⟩ := JobStore.insert_eq_ok_iff.1 hinsert
              simp only [Prod.mk.injEq, Except.ok.injEq] at h
              obtain ⟨rfl, rfl⟩ := h
              exact ⟨(Decidable.of_not_not hchain).symm, by simpa using htrusted, hfresh, rfl, rfl⟩

theorem deliver_error (h : c.deliver payload chain sender = (.error e, c')) : c' = c := by
  unfold deliver at h
  split at h
  · exact (congrArg Prod.snd h).symm
  · split at h
    · exact (congrArg Prod.snd h).symm
    · dsimp only at h
      split at h
      · exact (congrArg Prod.snd h).symm
      · simp at h

theorem check_ok {id : JobId} {phase : WindowPhase} (h : c.check caller id params = .ok phase) :
    ∃ r, c.jobs.get? id = some r ∧ r.status = .pending ∧
      Execution.check c.config c.ledger r caller c.clock.timestamp params = .ok phase := by
  unfold check at h
  split at h
  · simp at h
  · next r hpending =>
      obtain ⟨hfound, hstatus⟩ := JobStore.pending_eq_ok_iff.1 hpending
      exact ⟨r, hfound, hstatus, h⟩

theorem check_of_pending {id : JobId} {r : JobRecord} (hfound : c.jobs.get? id = some r)
    (hpending : r.status = .pending) : c.check caller id params =
      Execution.check c.config c.ledger r caller c.clock.timestamp params := by
  rw [check, JobStore.pending_eq_ok_iff.2 ⟨hfound, hpending⟩]

theorem check_of_not_pending {id : JobId} {r : JobRecord} (hfound : c.jobs.get? id = some r)
    (hpending : r.status ≠ .pending) : c.check caller id params = .error (.invalidJob id) := by
  simp [check, JobStore.pending, hfound, hpending]

def InPhase (c : Coordinator τ ε) (r : JobRecord) (phase : WindowPhase) : Prop :=
  phase.Spans r c.config.windowDuration c.clock.timestamp.toNat

def Admits (c : Coordinator τ ε) (r : JobRecord) (caller : Address) (phase : WindowPhase) : Prop :=
  Window.Admits c.config c.pods c.ledger.isBonded r caller phase

theorem InPhase.eq {r : JobRecord} {phase phase' : WindowPhase} (h : c.InPhase r phase)
    (h' : c.InPhase r phase') : phase' = phase :=
  (WindowPhase.at_eq_iff.2 h').symm.trans (WindowPhase.at_eq_iff.2 h)

theorem inPhase_of_check {r : JobRecord} {phase : WindowPhase}
    (h : Execution.check c.config c.ledger r caller c.clock.timestamp params = .ok phase) :
    c.InPhase r phase ∧ c.Admits r caller phase := by
  obtain ⟨hphase, hadmits⟩ := Execution.check_ok h
  exact ⟨WindowPhase.at_eq_iff.1 hphase.symm, hadmits⟩

theorem admits_of_check {id : JobId} {r : JobRecord} {phase : WindowPhase}
    (hfound : c.jobs.get? id = some r) (h : c.check caller id params = .ok phase) :
    c.InPhase r phase ∧ c.Admits r caller phase := by
  obtain ⟨r', hfound', -, hcheck⟩ := check_ok h
  obtain rfl : r = r' := Option.some.inj (hfound.symm.trans hfound')
  exact inPhase_of_check hcheck

variable [UtilityToken τ] [JobEffect ε]

def respond (c : Coordinator τ ε) : Call → Except Rejection Reply × Coordinator τ ε
  | .deliver payload chain sender => (c.deliver payload chain sender).map (.map .assigned) id
  | .deliverBytes payload chain sender =>
      (c.deliverBytes payload chain sender).map (.map .assigned) id
  | .execute caller payload params => (c.execute caller payload params).map (.map .executed) id
  | .executeBytes caller payload params =>
      (c.executeBytes caller payload params).map (.map .executed) id
  | .bond caller operator amount pod =>
      (c.bond caller operator amount pod).map (.map fun _ => .bonded) id
  | .topUp caller operator amount =>
      (c.topUp caller operator amount).map (.map fun _ => .toppedUp) id
  | .unbond caller operator recipient =>
      (c.unbond caller operator recipient).map (.map .unbonded) id

def answer (c : Coordinator τ ε) (call : Call) : Except Rejection Reply := (c.respond call).1

def after (c : Coordinator τ ε) (call : Call) : Coordinator τ ε := (c.respond call).2

def step (c : Coordinator τ ε) : Move τ ε → Coordinator τ ε
  | .call call => c.after call
  | .clock clock => { c with clock }
  | .owners owners => { c with owners }
  | .source chain sender => c.registerSource chain sender
  | .effect effect => { c with place := { c.place with effect } }
  | .token token => c.setToken token

def run (c : Coordinator τ ε) (moves : List (Move τ ε)) : Coordinator τ ε := moves.foldl step c

def exchange? (c : Coordinator τ ε) : Move τ ε → Option (Call × Except Rejection Reply)
  | .call call => some (call, c.answer call)
  | _ => none

def transcript (c : Coordinator τ ε) : List (Move τ ε) → List (Call × Except Rejection Reply)
  | [] => []
  | move :: rest => (c.exchange? move).toList ++ (c.step move).transcript rest

inductive Accepts (c : Coordinator τ ε) : Call → Reply → Coordinator τ ε → Prop
  | deliver {call : Call} {payload : Payload} {sender : Address}
      (hcall : call.delivery? = some (payload, payload.sourceChain, sender))
      (htrusted : c.isTrusted payload.sourceChain sender = true)
      (hfresh : c.jobs.get? payload.jobId = none) :
      Accepts c call (.assigned (.ofRecord (c.assignment payload) c.config.windowDuration))
        ((c.setJobs ⟨c.jobs.jobs.set payload.jobId (c.assignment payload)⟩).announce
          [.jobAvailable (.ofRecord (c.assignment payload) c.config.windowDuration)
            payload.toBytes])
  | execute {call : Call} {caller : Address} {payload : Payload} {params : ExecutionParams}
      {receipt : ExecutionReceipt} {place : Workplace τ ε}
      (hcall : call.execution? = some (caller, payload, params))
      (hexecute : Execution.execute c.config c.place caller payload c.clock.timestamp params =
        (.ok receipt, place)) :
      Accepts c call (.executed receipt) ({ c with place }.announce (Event.ofReceipt receipt))
  | bond {caller operator : Address} {amount : Amount} {pod : Uint 32} {r : BondRecord}
      {ledger : Ledger τ}
      (hbond : c.ledger.bond caller operator amount pod (c.kindOf operator) = (.ok r, ledger)) :
      Accepts c (.bond caller operator amount pod) .bonded
        ((c.setLedger ledger).announce [.operatorBonded operator r.pod r.amount])
  | topUp {caller operator : Address} {amount updated : Amount} {ledger : Ledger τ}
      (htopUp : c.ledger.topUp caller operator amount = (.ok updated, ledger)) :
      Accepts c (.topUp caller operator amount) .toppedUp (c.setLedger ledger)
  | unbond {caller operator recipient : Address} {amount : Amount} {ledger : Ledger τ}
      (hunbond : c.ledger.unbond caller operator recipient = (.ok amount, ledger)) :
      Accepts c (.unbond caller operator recipient) (.unbonded amount)
        ((c.setLedger ledger).announce [.operatorUnbonded operator amount])

@[simp]
theorem run_nil (c : Coordinator τ ε) : c.run [] = c := rfl

@[simp]
theorem run_cons (c : Coordinator τ ε) (move : Move τ ε) (moves : List (Move τ ε)) :
    c.run (move :: moves) = (c.step move).run moves := rfl

theorem run_append (c : Coordinator τ ε) (xs ys : List (Move τ ε)) :
    c.run (xs ++ ys) = (c.run xs).run ys := List.foldl_append

theorem respond_of_delivery (h : call.delivery? = some (payload, chain, sender)) :
    c.respond call = (c.deliver payload chain sender).map (.map .assigned) id := by
  cases call with
  | deliver payload' chain' sender' =>
      obtain ⟨rfl, rfl, rfl⟩ := by simpa [Call.delivery?] using h
      rfl
  | deliverBytes bytes chain' sender' =>
      cases hread : Payload.ofBytes bytes with
      | error e => simp [Call.delivery?, hread, Except.toOption] at h
      | ok payload' =>
          obtain ⟨rfl, rfl, rfl⟩ := by simpa [Call.delivery?, hread, Except.toOption] using h
          simp [respond, deliverBytes, hread]
  | _ => simp [Call.delivery?] at h

theorem respond_of_execution (h : call.execution? = some (caller, payload, params)) :
    c.respond call = (c.execute caller payload params).map (.map .executed) id := by
  cases call with
  | execute caller' payload' params' =>
      obtain ⟨rfl, rfl, rfl⟩ := by simpa [Call.execution?] using h
      rfl
  | executeBytes caller' bytes params' =>
      cases hread : Payload.ofBytes bytes with
      | error e => simp [Call.execution?, hread, Except.toOption] at h
      | ok payload' =>
          obtain ⟨rfl, rfl, rfl⟩ := by simpa [Call.execution?, hread, Except.toOption] using h
          simp [respond, executeBytes, hread]
  | _ => simp [Call.execution?] at h

theorem execute_ok {receipt : ExecutionReceipt}
    (h : c.execute caller payload params = (.ok receipt, c')) :
    ∃ place, Execution.execute c.config c.place caller payload c.clock.timestamp params =
      (.ok receipt, place) ∧ c' = { c with place }.announce (Event.ofReceipt receipt) := by
  unfold execute at h
  split at h
  · simp at h
  · next receipt' place hexecute =>
      simp only [Prod.mk.injEq, Except.ok.injEq] at h
      obtain ⟨rfl, rfl⟩ := h
      exact ⟨place, hexecute, rfl⟩

theorem execute_error (h : c.execute caller payload params = (.error e, c')) :
    c' = c ∨ ∃ operation, c.ledger.rejects e operation ∧
      c' = c.setLedger (c.ledger.after operation) := by
  unfold execute at h
  split at h
  · next e' place hexecute =>
      obtain ⟨rfl, rfl⟩ : e' = e ∧ { c with place } = c' := by simpa using h
      rcases Execution.execute_error hexecute with
        rfl | ⟨operator, amount, beneficiary, ledger, hslash, rfl⟩
      · exact .inl rfl
      · refine .inr ⟨.slash operator amount beneficiary, congrArg Prod.fst hslash, ?_⟩
        rw [Ledger.after, show c.ledger.slash operator amount beneficiary = _ from hslash]
        rfl
  · simp at h

theorem mapped_ok {α β σ : Type} {p : Except Rejection α × σ} {f : α → β} {b : β} {s : σ}
    (h : p.map (Except.map f) id = (Except.ok b, s)) : ∃ a, p = (.ok a, s) ∧ b = f a := by
  obtain ⟨e | a, s'⟩ := p
  · simp [Except.map] at h
  · obtain ⟨rfl, rfl⟩ := by simpa [Except.map] using h
    exact ⟨a, rfl, rfl⟩

theorem mapped_error {α β σ : Type} {p : Except Rejection α × σ} {f : α → β} {s : σ}
    (h : p.map (Except.map f) id = (Except.error e, s)) : p = (.error e, s) := by
  obtain ⟨e' | a, s'⟩ := p
  · obtain ⟨rfl, rfl⟩ := by simpa [Except.map] using h
    rfl
  · simp [Except.map] at h

theorem delivery_accepted (hcall : call.delivery? = some (payload, chain, sender))
    (h : c.respond call = (.ok reply, c')) : c.Accepts call reply c' := by
  rw [respond_of_delivery hcall] at h
  obtain ⟨details, hdeliver, rfl⟩ := mapped_ok h
  obtain ⟨rfl, htrusted, hfresh, rfl, rfl⟩ := deliver_ok hdeliver
  exact .deliver hcall htrusted hfresh

theorem execute_of_answer (hcall : call.execution? = some (caller, payload, params))
    (h : c.answer call = .ok reply) :
    ∃ receipt place, reply = .executed receipt ∧
      Execution.execute c.config c.place caller payload c.clock.timestamp params =
        (.ok receipt, place) := by
  have hrespond : c.respond call = (.ok reply, c.after call) := Prod.ext h rfl
  rw [respond_of_execution hcall] at hrespond
  obtain ⟨receipt, hexecute, hreply⟩ := mapped_ok hrespond
  obtain ⟨place, hplace, -⟩ := execute_ok hexecute
  exact ⟨receipt, place, hreply, hplace⟩

theorem execution_accepted (hcall : call.execution? = some (caller, payload, params))
    (h : c.respond call = (.ok reply, c')) : c.Accepts call reply c' := by
  rw [respond_of_execution hcall] at h
  obtain ⟨receipt, hexecute, rfl⟩ := mapped_ok h
  obtain ⟨place, hplace, rfl⟩ := execute_ok hexecute
  exact .execute hcall hplace

theorem accepted (h : c.respond call = (.ok reply, c')) : c.Accepts call reply c' := by
  cases call with
  | deliver payload chain sender => exact delivery_accepted rfl h
  | deliverBytes bytes chain sender =>
      cases hread : Payload.ofBytes bytes with
      | error e => simp [respond, deliverBytes, hread, Except.map] at h
      | ok payload =>
          have hcall : (Call.deliverBytes bytes chain sender).delivery? =
              some (payload, chain, sender) := by
            simp [Call.delivery?, hread, Except.toOption]
          exact delivery_accepted hcall h
  | execute caller payload params => exact execution_accepted rfl h
  | executeBytes caller bytes params =>
      cases hread : Payload.ofBytes bytes with
      | error e => simp [respond, executeBytes, hread, Except.map] at h
      | ok payload =>
          have hcall : (Call.executeBytes caller bytes params).execution? =
              some (caller, payload, params) := by
            simp [Call.execution?, hread, Except.toOption]
          exact execution_accepted hcall h
  | bond caller operator amount pod =>
      obtain ⟨u, hbond, rfl⟩ := mapped_ok (p := c.bond caller operator amount pod) h
      unfold Coordinator.bond at hbond
      split at hbond
      · simp at hbond
      · next r ledger hr =>
          obtain rfl := congrArg Prod.snd hbond
          exact .bond hr
  | topUp caller operator amount =>
      obtain ⟨u, htopUp, rfl⟩ := mapped_ok (p := c.topUp caller operator amount) h
      unfold Coordinator.topUp at htopUp
      split at htopUp
      · simp at htopUp
      · next updated ledger hupdated =>
          obtain rfl := congrArg Prod.snd htopUp
          exact .topUp hupdated
  | unbond caller operator recipient =>
      obtain ⟨paid, hunbond, rfl⟩ := mapped_ok (p := c.unbond caller operator recipient) h
      unfold Coordinator.unbond at hunbond
      split at hunbond
      · simp at hunbond
      · next amount ledger hpaid =>
          obtain ⟨rfl, rfl⟩ := by simpa using hunbond
          exact .unbond hpaid

theorem rejected (h : c.respond call = (.error e, c')) :
    c' = c ∨ ∃ operation, c.ledger.rejects e operation ∧
      c' = c.setLedger (c.ledger.after operation) := by
  cases call with
  | deliver payload chain sender => exact .inl (deliver_error (mapped_error h))
  | deliverBytes bytes chain sender =>
      have hdeliver := mapped_error (p := c.deliverBytes bytes chain sender) h
      unfold deliverBytes at hdeliver
      split at hdeliver
      · exact .inl (congrArg Prod.snd hdeliver).symm
      · exact .inl (deliver_error hdeliver)
  | execute caller payload params => exact execute_error (mapped_error h)
  | executeBytes caller bytes params =>
      have hexecute := mapped_error (p := c.executeBytes caller bytes params) h
      unfold executeBytes at hexecute
      split at hexecute
      · exact .inl (congrArg Prod.snd hexecute).symm
      · exact execute_error hexecute
  | bond caller operator amount pod =>
      have hbond := mapped_error (p := c.bond caller operator amount pod) h
      unfold Coordinator.bond at hbond
      split at hbond
      · next e' ledger hrejected =>
          obtain ⟨rfl, rfl⟩ := by simpa using hbond
          refine .inr ⟨.bond caller operator amount pod (c.kindOf operator),
            congrArg Prod.fst hrejected, ?_⟩
          rw [Ledger.after, hrejected]
      · simp at hbond
  | topUp caller operator amount =>
      have htopUp := mapped_error (p := c.topUp caller operator amount) h
      unfold Coordinator.topUp at htopUp
      split at htopUp
      · next e' ledger hrejected =>
          obtain ⟨rfl, rfl⟩ := by simpa using htopUp
          refine .inr ⟨.topUp caller operator amount, congrArg Prod.fst hrejected, ?_⟩
          rw [Ledger.after, hrejected]
      · simp at htopUp
  | unbond caller operator recipient =>
      have hunbond := mapped_error (p := c.unbond caller operator recipient) h
      unfold Coordinator.unbond at hunbond
      split at hunbond
      · next e' ledger hrejected =>
          obtain ⟨rfl, rfl⟩ := by simpa using hunbond
          refine .inr ⟨.unbond caller operator recipient, congrArg Prod.fst hrejected, ?_⟩
          rw [Ledger.after, hrejected]
      · simp at hunbond

theorem ledger_after (c : Coordinator τ ε) (call : Call) :
    (c.after call).ledger = c.ledger ∨
      ∃ operation, (c.after call).ledger = c.ledger.after operation := by
  rcases h : c.respond call with ⟨e | reply, c'⟩
  · obtain rfl : c.after call = c' := congrArg Prod.snd h
    rcases rejected h with hsame | ⟨operation, -, hafter⟩
    · exact .inl (congrArg ledger hsame)
    · exact .inr ⟨operation, congrArg ledger hafter⟩
  · obtain rfl : c.after call = c' := congrArg Prod.snd h
    generalize c.after call = c' at h ⊢
    cases accepted h with
    | deliver hcall htrusted hfresh => exact .inl rfl
    | @execute call caller payload params receipt place hcall hexecute =>
        obtain ⟨r, phase, -, -, -, hpenalize, -⟩ := Execution.execute_ok hexecute
        rcases Execution.penalize_ok hpenalize with
          ⟨-, hsame⟩ | ⟨slash, required, -, -, -, -, hslash⟩
        · exact .inl hsame
        · exact .inr ⟨.slash .., (congrArg Prod.snd hslash).symm⟩
    | bond hbond => exact .inr ⟨.bond .., (congrArg Prod.snd hbond).symm⟩
    | topUp htopUp => exact .inr ⟨.topUp .., (congrArg Prod.snd htopUp).symm⟩
    | unbond hunbond => exact .inr ⟨.unbond .., (congrArg Prod.snd hunbond).symm⟩

theorem frame_after (c : Coordinator τ ε) (call : Call) :
    (c.after call).config = c.config ∧ (c.after call).clock = c.clock := by
  rcases h : c.respond call with ⟨e | reply, c'⟩
  · obtain rfl : c.after call = c' := congrArg Prod.snd h
    rcases rejected h with hsame | ⟨operation, -, hafter⟩
    · rw [hsame]
      exact ⟨rfl, rfl⟩
    · rw [hafter]
      exact ⟨rfl, rfl⟩
  · obtain rfl : c.after call = c' := congrArg Prod.snd h
    generalize c.after call = c' at h ⊢
    cases accepted h <;> exact ⟨rfl, rfl⟩

theorem config_after (c : Coordinator τ ε) (call : Call) : (c.after call).config = c.config :=
  (c.frame_after call).1

theorem clock_after (c : Coordinator τ ε) (call : Call) : (c.after call).clock = c.clock :=
  (c.frame_after call).2

theorem config_step (c : Coordinator τ ε) (move : Move τ ε) : (c.step move).config = c.config := by
  cases move with
  | call call => exact c.config_after call
  | _ => rfl

theorem config_run (c : Coordinator τ ε) (moves : List (Move τ ε)) :
    (c.run moves).config = c.config := by
  induction moves generalizing c with
  | nil => rfl
  | cons move rest ih => rw [run_cons, ih, config_step]

structure Quiet (c c' : Coordinator τ ε) : Prop where
  jobs : c'.jobs = c.jobs
  invocations : c'.place.invocations = c.place.invocations
  record?_eq : ∀ operator, c'.ledger.record? operator = c.ledger.record? operator
  pods : c'.pods = c.pods
  feed : c'.feed = c.feed

theorem quiet_of_rejected (h : c.respond call = (.error e, c')) : c.Quiet c' := by
  rcases rejected h with rfl | ⟨operation, hrejects, rfl⟩
  · exact ⟨rfl, rfl, fun _ => rfl, rfl, rfl⟩
  · obtain ⟨token, hafter⟩ := Ledger.after_frame hrejects
    rw [hafter]
    exact ⟨rfl, rfl, fun _ => rfl, rfl, rfl⟩

theorem step_cases (c : Coordinator τ ε) (move : Move τ ε) :
    (∃ call reply, move = .call call ∧ c.answer call = .ok reply ∧
      c.Accepts call reply (c.step move)) ∨
      c.Quiet (c.step move) ∧ ∀ entry ∈ c.exchange? move, entry.2.isOk = false := by
  cases move with
  | call call =>
      rcases h : c.respond call with ⟨e | reply, c'⟩
      · obtain rfl : c.after call = c' := congrArg Prod.snd h
        have hanswer : c.answer call = .error e := congrArg Prod.fst h
        exact .inr ⟨quiet_of_rejected h, by simp [exchange?, hanswer, Except.isOk, Except.toBool]⟩
      · obtain rfl : c.after call = c' := congrArg Prod.snd h
        exact .inl ⟨call, reply, rfl, congrArg Prod.fst h, accepted h⟩
  | _ => exact .inr ⟨⟨rfl, rfl, fun _ => rfl, rfl, rfl⟩, by simp [exchange?]⟩

end BondedRelay.Coordinator
