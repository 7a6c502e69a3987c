import BondedRelay.Proofs.Coordinator.Assigned
import BondedRelay.Token.Memory

namespace BondedRelay.Coordinator

variable {τ ε : Type} [UtilityToken τ] [JobEffect ε]

theorem executors_exclusive (chainId : Uint 32) (config : Protocol) (address : Address) (token : τ)
    (clock : Clock) (effect : ε) (owners : Table Address Address) (moves : List (Move τ ε))
    (id : JobId) :
    let start := create chainId config address token clock effect owners
    let c := start.run moves
    ∀ r, c.jobs.get? id = some r →
      (∀ caller other params params' phase phase', caller ≠ other →
        c.check caller id params = .ok phase → c.check other id params' = .ok phase' →
        phase' = phase ∧ c.InPhase r phase ∧
          (r.primary = 0 ∨
            (∃ k place before, phase = .fallback k ∧ r.fallbacks[k - 1]? = some place ∧
              (c.pods.membersOf r.pod).length ≤ place.toNat ∧ AssignedIn start moves before r ∧
              (c.pods.membersOf r.pod).length < (before.pods.membersOf r.pod).length) ∨
            phase = .exhausted ∧ c.config.afterFallbacks = .anyBonded ∧
              c.ledger.isBonded caller = true ∧ c.ledger.isBonded other = true)) ∧
      (c.InPhase r .primary → ∀ caller params phase, c.check caller id params = .ok phase →
        caller = r.primary) ∧
      ∀ k place expected, c.InPhase r (.fallback k) → r.fallbacks[k - 1]? = some place →
        c.pods.memberAt r.pod place.toNat = some expected →
        ∀ caller params phase, c.check caller id params = .ok phase → caller = expected := by
  intro start c r hfound
  refine ⟨fun caller other params params' phase phase' hne h h' => ?_,
    fun hprimary caller params phase h => ?_,
    fun k place expected hfallback hplace hmember caller params phase h => ?_⟩
  · obtain ⟨hphase, hadmits⟩ := admits_of_check hfound h
    obtain ⟨hphase', hadmits'⟩ := admits_of_check hfound h'
    obtain rfl := hphase.eq hphase'
    refine ⟨rfl, hphase, ?_⟩
    rcases Window.admits_both hphase hne hadmits hadmits' with
      hopen | ⟨k, place, hk, hplace, hgone⟩ | hexhausted
    · exact .inl hopen
    · -- The place was drawn from the members there were, so there are fewer now.
      obtain ⟨before, hassigned⟩ := assigned_run (fun _ => rfl) moves hfound
      have hthen := hassigned.lt_of_mem_fallbacks (List.mem_of_getElem? hplace)
      exact .inr (.inl ⟨k, place, before, hk, hplace, hgone, hassigned,
        Nat.lt_of_le_of_lt hgone hthen⟩)
    · exact .inr (.inr hexhausted)
  · obtain ⟨hphase, hadmits⟩ := admits_of_check hfound h
    obtain rfl := hprimary.eq hphase
    exact hadmits
  · obtain ⟨hphase, hadmits⟩ := admits_of_check hfound h
    obtain rfl := hfallback.eq hphase
    refine hadmits expected ?_
    rw [Window.fallbackOperator_eq hfallback.2.1 hplace]
    exact hmember

theorem deserted_fallback_open_to_all :
    let config : Protocol := { Protocol.standard with fallbackCount := 1, bondUnit := 100 }
    let token := (MemoryToken.empty.mint 1 200).approve 1 9 200
    let job : Payload := ⟨5, 3, 0, [], 0, 0⟩
    let moves : List (Move MemoryToken RecordingEffect) :=
      [.call (.bond 1 7 100 1), .call (.bond 1 8 100 1), .source 5 6, .call (.deliver job 5 6),
        .call (.unbond 8 8 8), .clock (Clock.standard.advance 60)]
    let start := create 1 config 9 token .standard (RecordingEffect.create []) .empty
    let c := start.run moves
    (∀ caller ∈ [11, 12], c.check caller job.jobId ⟨0, 0⟩ = .ok (.fallback 1)) ∧
      ∃ r before, c.jobs.get? job.jobId = some r ∧ r.primary ≠ 0 ∧
        AssignedIn start moves before r ∧
        (c.pods.membersOf r.pod).length < (before.pods.membersOf r.pod).length := by
  intro config token job moves start c
  have hpass : ∀ caller ∈ [11, 12], c.check caller job.jobId ⟨0, 0⟩ = .ok (.fallback 1) := by
    decide +kernel
  have hfirst := hpass 11 (by simp)
  have hsecond := hpass 12 (by simp)
  obtain ⟨r, hfound, -⟩ := check_ok hfirst
  obtain ⟨-, hphase, hcause⟩ := (executors_exclusive 1 config 9 token .standard
    (RecordingEffect.create []) .empty moves job.jobId r hfound).1 11 12 _ _ _ _ (by decide) hfirst
    hsecond
  refine ⟨hpass, r, ?_⟩
  rcases hcause with hopen | ⟨k, place, before, -, -, -, hassigned, hfewer⟩ | ⟨hlast, -⟩
  · exact absurd hopen hphase.1
  · exact ⟨before, hfound, hphase.1, hassigned, hfewer⟩
  · simp at hlast

end BondedRelay.Coordinator
