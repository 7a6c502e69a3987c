import BondedRelay.Proofs.Coordinator.Assigned
import BondedRelay.Token.Memory

namespace BondedRelay.Coordinator

variable {τ ε : Type} [UtilityToken τ] [JobEffect ε] {c : Coordinator τ ε} {call : Call}
  {reply : Reply} {id : JobId} {payload : Payload} {r : JobRecord} {caller : Address}
  {params : ExecutionParams}

theorem admitted_of_execution (hcall : call.execution? = some (caller, payload, params))
    (h : c.answer call = .ok reply) :
    ∃ r phase, c.jobs.get? payload.jobId = some r ∧ c.InPhase r phase ∧
      c.Admits r caller phase := by
  obtain ⟨receipt, place, -, hplace⟩ := execute_of_answer hcall h
  obtain ⟨r, phase, hfound, -, hcheck, -⟩ := Execution.execute_ok hplace
  exact ⟨r, phase, hfound, inPhase_of_check hcheck⟩

theorem elapsed_of_execution (hknown : c.jobs.get? id = some r) (hassigned : r.primary ≠ 0)
    (later : List (Move τ ε)) (hcall : call.execution? = some (caller, payload, params))
    (hid : payload.jobId = id) (h : (c.run later).answer call = .ok reply)
    (hne : caller ≠ r.primary) :
    r.assignedAt.toNat + Window.seconds c.config.windowDuration ≤
      (c.run later).clock.timestamp.toNat := by
  obtain ⟨r', phase, hfound, hphase, hadmits⟩ := admitted_of_execution hcall h
  obtain ⟨r'', hlater, hfollows⟩ := follows_run later hknown
  obtain rfl : r' = r'' := Option.some.inj (hfound.symm.trans (hid ▸ hlater))
  rw [InPhase, config_run] at hphase
  rw [hfollows.fields] at hphase hadmits
  exact Window.elapsed_of_admits hphase hassigned hadmits hne

theorem assigned_unless_zero_bonded (chainId : Uint 32) (config : Protocol) (address : Address)
    (token : τ) (clock : Clock) (effect : ε) (owners : Table Address Address)
    (moves : List (Move τ ε)) (call : Call) (payload : Payload) :
    let start := create chainId config address token clock effect owners
    let c := start.run moves
    let r := c.assignment payload
    c.Assigns call payload →
      (c.after call).jobs.get? payload.jobId = some r ∧
      (c.pods.membersOf r.pod = [] → r.primary = 0) ∧
      (r.primary = 0 → c.pods.membersOf r.pod = [] ∨
        ∃ zero, c.ledger.record? 0 = some zero ∧ zero.pod = r.pod) ∧
      (r.primary ≠ 0 → r.primary ∈ c.pods.membersOf r.pod ∧
        ∀ later execution caller payload' params reply, caller ≠ r.primary →
          execution.execution? = some (caller, payload', params) →
          payload'.jobId = payload.jobId →
          ((c.after call).run later).answer execution = .ok reply →
          c.clock.timestamp.toNat + Window.seconds config.windowDuration ≤
            ((c.after call).run later).clock.timestamp.toNat) := by
  intro start c r hassigns
  have hstored := hassigns.get?_after
  refine ⟨hstored, fun hnobody => ?_, fun hzero => ?_, fun hassigned => ?_⟩
  · show Assignment.primary (c.pods.membersOf r.pod) _ _ = 0
    rw [hnobody, Assignment.primary_nil]
  · by_cases hmembers : c.pods.membersOf r.pod = []
    · exact .inl hmembers
    · have hstart : start.ledger.Aligned := Ledger.aligned_create address token _
      have haligned : c.ledger.Aligned := hstart.edits (start.edits_run moves)
      have hmem : r.primary ∈ c.pods.membersOf r.pod := Assignment.primary_mem hmembers
      exact .inr (haligned.record_of_mem (hzero ▸ hmem))
  · refine ⟨Assignment.primary_mem_of_ne_zero hassigned, ?_⟩
    intro later execution caller payload' params reply hne hcall hid hanswer
    have helapsed := elapsed_of_execution hstored hassigned later hcall hid hanswer hne
    rwa [config_after, config_run] at helapsed

theorem sole_member_guards_job :
    let config : Protocol := { Protocol.standard with bondUnit := 100 }
    let token := (MemoryToken.empty.mint 1 100).approve 1 9 100
    let job : Payload := ⟨5, 3, 0, [], 0, 0⟩
    let start := create 1 config 9 token .standard (RecordingEffect.create []) .empty
    let c := start.run [.call (.bond 1 7 100 1), .source 5 6]
    (c.assignment job).primary = 7 ∧ ∀ later caller params reply, caller ≠ 7 →
      ((c.after (.deliver job 5 6)).run later).answer (.execute caller job params) = .ok reply →
      Clock.standard.timestamp.toNat + 60 ≤
        ((c.after (.deliver job 5 6)).run later).clock.timestamp.toNat := by
  intro config token job start c
  have hassigns : c.Assigns (.deliver job 5 6) job :=
    ⟨5, 6, .ofRecord (c.assignment job) 60, rfl, by decide +kernel⟩
  have hprimary : (c.assignment job).primary = 7 := by decide +kernel
  have hassigned : (c.assignment job).primary ≠ 0 := by
    rw [hprimary]
    decide
  have hlate := ((assigned_unless_zero_bonded 1 config 9 token .standard (RecordingEffect.create [])
    .empty [.call (.bond 1 7 100 1), .source 5 6] (.deliver job 5 6) job hassigns).2.2.2
    hassigned).2
  refine ⟨hprimary, fun later caller params reply hne hanswer => ?_⟩
  have hother : caller ≠ (c.assignment job).primary := fun hcaller => hne (hcaller.trans hprimary)
  exact hlate later _ caller job params reply hother rfl rfl hanswer

theorem zero_member_leaves_job_open :
    let config : Protocol := { Protocol.standard with bondUnit := 100 }
    let token := (MemoryToken.empty.mint 1 100).approve 1 9 100
    let job : Payload := ⟨5, 3, 0, [], 0, 0⟩
    let start := create 1 config 9 token .standard (RecordingEffect.create []) .empty
    let c := start.run [.call (.bond 1 0 100 1), .source 5 6, .call (.deliver job 5 6)]
    (c.jobs.get? job.jobId).map JobRecord.primary = some 0 ∧ c.pods.membersOf 1 = [0] ∧
      (c.answer (.execute 11 job ⟨0, 0⟩)).isOk = true := by
  decide +kernel

end BondedRelay.Coordinator
