import BondedRelay.Proofs.Coordinator.Assigned
import BondedRelay.Proofs.Coordinator.Solvency

namespace BondedRelay.Coordinator

section

variable {τ ε : Type} {c c' : Coordinator τ ε} {caller : Address} {payload : Payload}
  {params : ExecutionParams} {e : Rejection}

structure Seated (c : Coordinator τ ε) : Prop where
  aligned : c.ledger.Aligned
  pod_exists : ∀ id r, c.jobs.get? id = some r → r.primary ≠ 0 → c.pods.exists? r.pod = true

theorem Seated.edits (hs : c.Seated) (hedits : Relation.ReflTransGen Ledger.Edit c.ledger c'.ledger)
    (hjobs : ∀ id r, c'.jobs.get? id = some r → r.primary ≠ 0 → c.pods.exists? r.pod = true) :
    c'.Seated := by
  refine ⟨hs.aligned.edits hedits, fun id r hfound hprimary => ?_⟩
  exact PodRegistry.exists?_of_count_le (Ledger.count_le_edits hedits) (hjobs id r hfound hprimary)

theorem seated_create (chainId : Uint 32) (config : Protocol) (address : Address) (token : τ)
    (clock : Clock) (effect : ε) (owners : Table Address Address) :
    (create chainId config address token clock effect owners).Seated :=
  ⟨Ledger.aligned_create address token _, fun _ _ hfound => by cases hfound⟩

variable [UtilityToken τ] [JobEffect ε]

theorem Seated.after (hs : c.Seated) (call : Call) : (c.after call).Seated := by
  refine hs.edits (c.edits_after call) fun id r hfound hprimary => ?_
  rcases known_after hfound with ⟨r₀, hknown, hfollows⟩ | ⟨payload, -, rfl⟩
  · rw [hfollows.fields] at hprimary ⊢
    exact hs.pod_exists id r₀ hknown hprimary
  · exact PodRegistry.exists?_of_mem (Assignment.primary_mem_of_ne_zero hprimary)

theorem Seated.step (hs : c.Seated) (move : Move τ ε) : (c.step move).Seated := by
  cases move with
  | call call => exact hs.after call
  | token token => exact hs.edits (.single (.token c.ledger token)) hs.pod_exists
  | _ => exact hs.edits .refl hs.pod_exists

theorem Seated.run (hs : c.Seated) (moves : List (Move τ ε)) : (c.run moves).Seated := by
  induction moves generalizing c with
  | nil => exact hs
  | cons move rest ih => exact ih (hs.step move)

theorem execute_of_check_error (h : c.check caller payload.jobId params = .error e) :
    (c.execute caller payload params).1 = .error e := by
  unfold check at h
  cases hpending : c.place.jobs.pending payload.jobId with
  | error e' =>
      rw [show c.jobs.pending payload.jobId = _ from hpending] at h
      obtain rfl := Except.error.inj h
      simp only [execute, Execution.execute, hpending]
  | ok r =>
      rw [show c.jobs.pending payload.jobId = _ from hpending] at h
      have hcheck : Execution.check c.config c.place.ledger r caller c.clock.timestamp params =
        .error e := h
      simp only [execute, Execution.execute, hpending, hcheck]

end

variable {ε : Type} [JobEffect ε]

inductive Undrained : Coordinator MemoryToken ε → Coordinator MemoryToken ε → Prop
  | guarded {c c' : Coordinator MemoryToken ε} (h : Guarded c c') : Undrained c c'
  | effect (c : Coordinator MemoryToken ε) (effect : ε) : Undrained c (c.step (.effect effect))

variable {c c' : Coordinator MemoryToken ε} {id : JobId} {r : JobRecord} {caller : Address}
  {payload : Payload} {params : ExecutionParams} {phase : WindowPhase}

theorem Seated.undrained (hs : c.Seated) (h : Undrained c c') : c'.Seated := by
  cases h with
  | effect effect => exact hs.step (.effect effect)
  | guarded hguarded =>
      cases hguarded with
      | call call => exact hs.after call
      | ledger call => exact hs.edits (c.ledger.edits_after call) hs.pod_exists
      | token token houtside => exact hs.step (.token token)
      | clock clock => exact hs.step (.clock clock)
      | owners owners => exact hs.step (.owners owners)
      | source chain sender => exact hs.step (.source chain sender)

theorem solvent_undrained (hs : c.ledger.Solvent) (h : Undrained c c') : c'.ledger.Solvent := by
  cases h with
  | guarded hguarded => exact solvent_guarded hs hguarded
  | effect effect => exact hs

theorem seated_solvent_run (hseated : c.Seated) (hs : c.ledger.Solvent)
    (h : Relation.ReflTransGen Undrained c c') : c'.Seated ∧ c'.ledger.Solvent := by
  induction h with
  | refl => exact ⟨hseated, hs⟩
  | tail _ hstep ih => exact ⟨ih.1.undrained hstep, solvent_undrained ih.2 hstep⟩

omit [JobEffect ε] in
theorem penalize_succeeds (hseated : c.Seated)
    (hcovered : c.ledger.liabilities ≤ c.ledger.held.toNat) (hfound : c.jobs.get? id = some r)
    (hphase : c.InPhase r phase) (caller : Address) :
    ∃ slash l', Execution.penalize c.ledger r caller phase = (.ok slash, l') ∧
      (slash.isSome = true ↔ Execution.Due c.ledger r caller phase) := by
  by_cases hdue : Execution.Due c.ledger r caller phase
  · have ⟨hescalated, hne, hbonded⟩ := hdue
    -- The job's pod sets the amount, and the primary's pod decides whether it stays.
    have hprimary : r.primary ≠ 0 := (hphase.elapsed hescalated).1
    obtain ⟨required, hrequired⟩ :=
      PodRegistry.requirement_of_exists (hseated.pod_exists id r hfound hprimary)
    obtain ⟨bond, hbond⟩ := Option.isSome_iff_exists.1 hbonded
    obtain ⟨asked, hasked⟩ :=
      PodRegistry.requirement_of_exists (hseated.aligned.exists_of_record hbond)
    obtain ⟨receipt, l', hslash⟩ :=
      Ledger.slashes_of_covered hcovered hbond (Execution.refuses?_claimant hne) hasked
        required.base
    exact ⟨some receipt, l', Execution.penalize_of_due hdue hrequired hslash, by simp [hdue]⟩
  · exact ⟨none, c.ledger, Execution.penalize_of_not_due hdue, by simp [hdue]⟩

theorem execute_of_covered (hseated : c.Seated)
    (hcovered : c.ledger.liabilities ≤ c.ledger.held.toNat)
    (h : c.check caller payload.jobId params = .ok phase) :
    ∃ receipt r, (c.execute caller payload params).1 = .ok receipt ∧
      c.jobs.get? payload.jobId = some r ∧
      (receipt.slash.isSome = true ↔ Execution.Due c.ledger r caller phase) := by
  obtain ⟨r, hfound, hpending, hcheck⟩ := check_ok h
  obtain ⟨slash, l', hpenalize, hslash⟩ :=
    penalize_succeeds hseated hcovered hfound (inPhase_of_check hcheck).1 caller
  obtain ⟨receipt, place, hexecute, rfl⟩ :=
    Execution.execute_of_check (w := c.place) hfound hpending hcheck hpenalize
  refine ⟨receipt, r, ?_, hfound, hslash⟩
  simp only [execute, hexecute]

theorem execute_of_check (hseated : c.Seated) (hs : c.ledger.Solvent)
    (h : c.check caller payload.jobId params = .ok phase) :
    ∃ receipt r, (c.execute caller payload params).1 = .ok receipt ∧
      c.jobs.get? payload.jobId = some r ∧
      (receipt.slash.isSome = true ↔ Execution.Due c.ledger r caller phase) :=
  execute_of_covered hseated hs.liabilities_le h

theorem check_foretells_execution (chainId : Uint 32) (config : Protocol) (address : Address)
    (token : MemoryToken) (clock : Clock) (effect : ε) (owners : Table Address Address)
    (hsupply : token.supply ≤ (Uint.top : Amount).toNat)
    (hallowance : (token.allowance address address).toNat = 0) (c : Coordinator MemoryToken ε)
    (hrun : Relation.ReflTransGen Undrained
      (create chainId config address token clock effect owners) c)
    (caller : Address) (payload : Payload) (params : ExecutionParams) :
    ((∃ phase, c.check caller payload.jobId params = .ok phase) ↔
        ∃ receipt, (c.execute caller payload params).1 = .ok receipt) ∧
      (∀ e, c.check caller payload.jobId params = .error e ↔
        (c.execute caller payload params).1 = .error e) ∧
      ∀ phase receipt r, c.check caller payload.jobId params = .ok phase →
        (c.execute caller payload params).1 = .ok receipt →
        c.jobs.get? payload.jobId = some r →
        (receipt.slash.isSome = true ↔ ((∃ k, phase = .fallback k) ∨ phase = .exhausted) ∧
          caller ≠ r.primary ∧ c.ledger.isBonded r.primary = true) := by
  have hstart : (create chainId config address token clock effect owners).ledger.Solvent :=
    Ledger.solvent_create ⟨hsupply, hallowance⟩ _
  obtain ⟨hseated, hs⟩ := seated_solvent_run (seated_create ..) hstart hrun
  cases hcheck : c.check caller payload.jobId params with
  | error e =>
      have hexecute := execute_of_check_error hcheck
      simp [hexecute]
  | ok phase =>
      obtain ⟨receipt, r, hexecute, hfound, hslash⟩ := execute_of_check hseated hs hcheck
      refine ⟨by simp [hexecute], by simp [hexecute], ?_⟩
      intro phase' receipt' r' hphase hreceipt hrecord
      obtain rfl := Except.ok.inj hphase
      obtain rfl := Except.ok.inj (hexecute.symm.trans hreceipt)
      obtain rfl := Option.some.inj (hfound.symm.trans hrecord)
      rw [hslash, Execution.Due, WindowPhase.isEscalated_iff]

theorem fallback_check_foretells_slash :
    let config : Protocol := { Protocol.standard with fallbackCount := 1, bondUnit := 100 }
    let token := (MemoryToken.empty.mint 1 200).approve 1 9 200
    let job : Payload := ⟨5, 3, 0, [], 0, 0⟩
    let start := create 1 config 9 token .standard (RecordingEffect.create []) .empty
    let bonded := (start.after (.bond 1 7 100 1)).after (.bond 1 8 100 1)
    let assigned := (bonded.registerSource 5 6).after (.deliver job 5 6)
    let c := { assigned with clock := Clock.standard.advance 60 }
    c.check 8 job.jobId ⟨0, 0⟩ = .ok (.fallback 1) ∧
      ∃ receipt, (c.execute 8 job ⟨0, 0⟩).1 = .ok receipt ∧ receipt.slash.isSome = true := by
  intro config token job start bonded assigned c
  have hrun : Relation.ReflTransGen Undrained start c :=
    .tail (.tail (.tail (.tail (.single (.guarded (.call _ _))) (.guarded (.call _ _)))
      (.guarded (.source ..))) (.guarded (.call _ _))) (.guarded (.clock ..))
  have hsupply : token.supply ≤ (Uint.top : Amount).toNat := by decide +kernel
  have hallowance : (token.allowance 9 9).toNat = 0 := by decide +kernel
  obtain ⟨hsucceeds, -, hslash⟩ := check_foretells_execution 1 config 9 token .standard (.create [])
    .empty hsupply hallowance c hrun 8 job ⟨0, 0⟩
  have hcheck : c.check 8 job.jobId ⟨0, 0⟩ = .ok (.fallback 1) := by decide +kernel
  obtain ⟨receipt, hexecute⟩ := hsucceeds.1 ⟨_, hcheck⟩
  obtain ⟨r, hfound, -⟩ := check_ok hcheck
  have hprimary : (c.jobs.get? job.jobId).map JobRecord.primary = some 7 := by decide +kernel
  have hseven : r.primary = 7 := by simpa [hfound] using hprimary
  have hbonded : c.ledger.isBonded 7 = true := by decide +kernel
  refine ⟨hcheck, receipt, hexecute, ?_⟩
  refine (hslash _ receipt r hcheck hexecute hfound).2 ⟨.inl ⟨1, rfl⟩, ?_, ?_⟩
  · rw [hseven]
    decide
  · rw [hseven]
    exact hbonded

end BondedRelay.Coordinator
