import BondedRelay.Proofs.Bond.Backed
import BondedRelay.Proofs.Coordinator.Run
import BondedRelay.Token.Memory

namespace BondedRelay.Coordinator

variable {τ ε : Type} [UtilityToken τ] [JobEffect ε] {c : Coordinator τ ε} {schedule : BondSchedule}
  {call : Call} {payload : Payload} {caller : Address} {params : ExecutionParams}
  {receipt : ExecutionReceipt} {slash : SlashReceipt} {job : JobRecord}

theorem backed_after (hb : c.ledger.Backed schedule) (call : Call) :
    (c.after call).ledger.Backed schedule := by
  rcases c.ledger_after call with hsame | ⟨operation, hafter⟩
  · exact hsame ▸ hb
  · exact hafter ▸ hb.after operation

theorem backed_step (hb : c.ledger.Backed schedule) (move : Move τ ε) :
    (c.step move).ledger.Backed schedule := by
  cases move with
  | call call => exact backed_after hb call
  | token token => exact hb.token token
  | _ => exact hb

theorem backed_run (hb : c.ledger.Backed schedule) (moves : List (Move τ ε)) :
    (c.run moves).ledger.Backed schedule := by
  induction moves generalizing c with
  | nil => exact hb
  | cons move rest ih => exact ih (backed_step hb move)

theorem slash_of_executed (hcall : call.execution? = some (caller, payload, params))
    (h : c.answer call = .ok (.executed receipt)) (hslash : receipt.slash = some slash)
    (hjob : c.jobs.get? payload.jobId = some job) :
    ∃ required l', c.pods.requirement job.pod = .ok required ∧
      c.ledger.slash job.primary required.base (Execution.claimant c.ledger caller) =
        (.ok slash, l') := by
  obtain ⟨receipt', place, hreply, hplace⟩ := execute_of_answer hcall h
  obtain rfl := Reply.executed.inj hreply
  obtain ⟨r, phase, hfound, -, -, hpenalize, -⟩ := Execution.execute_ok hplace
  obtain rfl : r = job := Option.some.inj (hfound.symm.trans hjob)
  rw [hslash] at hpenalize
  rcases Execution.penalize_ok hpenalize with
    ⟨hnone, -⟩ | ⟨taken, required, htaken, -, -, hrequired, hledger⟩
  · cases hnone
  · obtain rfl := Option.some.inj htaken
    exact ⟨required, _, hrequired, hledger⟩

theorem escalation_takes_base_bond (chainId : Uint 32) (config : Protocol) (address : Address)
    (token : τ) (clock : Clock) (effect : ε) (owners : Table Address Address)
    (moves : List (Move τ ε)) :
    let c := (create chainId config address token clock effect owners).run moves
    (∀ operator r, c.ledger.record? operator = some r →
      ∃ p, c.pods.pod r.pod = .ok p ∧ p.base ≤ r.amount) ∧
    ∀ call caller payload params receipt slash job,
      call.execution? = some (caller, payload, params) →
      c.answer call = .ok (.executed receipt) → receipt.slash = some slash →
      c.jobs.get? payload.jobId = some job →
      slash.operator = job.primary ∧
      slash.beneficiary =
        (if c.ledger.isBonded caller then .bond caller else .account caller) ∧
      ∃ r p, c.ledger.record? job.primary = some r ∧ c.pods.pod job.pod = .ok p ∧
        slash.slashed = min p.base r.amount ∧ (job.pod ≤ r.pod → slash.slashed = p.base) := by
  intro c
  have hstart : (create chainId config address token clock effect owners).ledger.Backed
      (.ofProtocol config) := Ledger.backed_create address token _
  have hb : c.ledger.Backed (.ofProtocol config) := backed_run hstart moves
  constructor
  · intro operator r hr
    obtain ⟨p, hp, -, hbase⟩ := hb.pod_of_record hr
    exact ⟨p, hp, hbase⟩
  · intro call caller payload params receipt slash job hcall hanswer hslash hjob
    obtain ⟨required, l', hrequired, hledger⟩ := slash_of_executed hcall hanswer hslash hjob
    obtain ⟨p, hp, hasked, -⟩ := hb.priced.requirement_ok hrequired
    rw [hasked] at hledger
    obtain ⟨r, hr, hslashed, hdearer⟩ := hb.slashed_eq hp hledger
    exact ⟨Ledger.operator_slash hledger, Ledger.beneficiary_slash hledger, r, p, hr, hp,
      hslashed, hdearer⟩

theorem fallback_takes_base_bond :
    let config : Protocol := { Protocol.standard with fallbackCount := 1, bondUnit := 100 }
    let token := (MemoryToken.empty.mint 1 350).approve 1 9 350
    let payload : Payload := ⟨5, 3, 0, [], 0, 0⟩
    let slash : SlashReceipt := ⟨7, 100, 150, 0, false, .bond 8⟩
    let c := (create 1 config 9 token .standard (RecordingEffect.create []) .empty).run
      [.call (.bond 1 7 250 1), .call (.bond 1 8 100 1), .source 5 6, .call (.deliver payload 5 6),
        .clock (Clock.standard.advance 60)]
    c.answer (.execute 8 payload ⟨0, 0⟩) =
        .ok (.executed ⟨payload.jobId, 8, .completed, some slash⟩) ∧
      ∃ p, c.pods.pod 1 = .ok p ∧ slash.slashed = p.base := by
  intro config token payload slash c
  have hanswer : c.answer (.execute 8 payload ⟨0, 0⟩) =
      .ok (.executed ⟨payload.jobId, 8, .completed, some slash⟩) := by decide +kernel
  have hassigned : (c.jobs.get? payload.jobId).map (fun job => (job.primary, job.pod)) =
      some (7, 1) := by decide +kernel
  obtain ⟨job, hjob, hseven⟩ := Option.map_eq_some_iff.1 hassigned
  obtain ⟨hprimary, hpod⟩ := Prod.mk.inj hseven
  have hbonded : (c.ledger.record? 7).map BondRecord.pod = some 1 := by decide +kernel
  obtain ⟨bond, hbond, hone⟩ := Option.map_eq_some_iff.1 hbonded
  obtain ⟨-, -, r, p, hr, hp, -, hexact⟩ :=
    (escalation_takes_base_bond 1 config 9 token .standard (RecordingEffect.create []) .empty _).2
      _ 8 payload ⟨0, 0⟩ _ slash job rfl hanswer rfl hjob
  rw [hprimary] at hr
  rw [hpod] at hp hexact
  obtain rfl : bond = r := Option.some.inj (hbond.symm.trans hr)
  exact ⟨hanswer, p, hp, hexact (Nat.le_of_eq (congrArg Uint.toNat hone.symm))⟩

end BondedRelay.Coordinator
