import BondedRelay.Proofs.Bond.Representation
import BondedRelay.Proofs.Coordinator.Assigned
import BondedRelay.Token.Memory

namespace BondedRelay.Coordinator

open Assignment

variable {τ ε : Type} [UtilityToken τ] [JobEffect ε]

theorem payload_placed_on_members {γ : Type} [ChainContext γ] (address : Address) (token : τ)
    (schedule : BondSchedule) (moves : List (Ledger.Move τ)) (config : Protocol) (chain : γ)
    (payload : Payload) :
    let ledger := (Ledger.create address token schedule).run moves
    let r := assign config ledger.pods chain payload
    WellMade config ledger.pods chain payload r ∧
    (∀ pods : PodRegistry, ledger.pods.populated = pods.populated →
      ledger.pods.membersOf r.pod = pods.membersOf r.pod →
      assign config pods chain payload = r) ∧
    ∀ (c : Coordinator τ ε) (call : Call), c.ledger = ledger → c.Assigns call payload →
      ∃ stored, (c.after call).jobs.get? payload.jobId = some stored ∧
        WellMade c.config (c.after call).pods c.clock payload stored := by
  intro ledger r
  have hedits := Ledger.edits_run (Ledger.create address token schedule) moves
  have hpriced : ledger.pods.Priced schedule :=
    Ledger.priced_edits (PodRegistry.priced_empty schedule) hedits
  refine ⟨wellMade_assign hpriced.count_lt, ?_, ?_⟩
  · intro pods hpopulated hmembers
    exact (assign_congr hpopulated hmembers).symm
  · intro c call hledger hassigns
    refine ⟨_, hassigns.get?_after, ?_⟩
    have hpods : (c.after call).pods = c.pods := congrArg Ledger.pods hassigns.ledger_after
    have hcount : c.pods.count < Uint.limit 32 := by
      rw [pods, hledger]
      exact hpriced.count_lt
    rw [hpods]
    exact wellMade_assign hcount

theorem deserted_pod_passed_over :
    let config : Protocol := { Protocol.standard with podPolicy := .random, bondUnit := 100 }
    let token := (MemoryToken.empty.mint 1 1000).approve 1 9 1000
    let job : Payload := ⟨5, 3, 0, [], 0, 0⟩
    let ledger := (Ledger.create 9 token (.ofProtocol config)).run
      [.call (.bond 1 7 100 1 .account), .call (.bond 1 8 200 2 .account),
        .call (.bond 1 6 300 2 .account), .call (.unbond 7 7 7)]
    let r := assign config ledger.pods Clock.standard job
    ledger.pods.membersOf 1 = [] ∧ ledger.pods.membersOf r.pod = [8, 6] ∧ r.primary ∈ [8, 6] ∧
      ∃ member ∈ [8, 6], Window.fallbackOperator ledger.pods r 1 = some member := by
  intro config token job ledger r
  have hplaced : WellMade config ledger.pods Clock.standard job r :=
    (payload_placed_on_members (ε := RecordingEffect) 9 token _ _ config Clock.standard job).1
  have hmembers : ledger.pods.membersOf r.pod = [8, 6] := by decide +kernel
  have hsome : ledger.pods.membersOf r.pod ≠ [] := hplaced.pod_random rfl ⟨2, by decide +kernel⟩
  obtain ⟨hprimary, hlength, -, hwindows⟩ := hplaced.manned hsome
  have hone : 1 ≤ r.fallbacks.length := by
    rw [hlength]
    decide
  have hwindow := hwindows 1 (Nat.le_refl 1) hone
  rw [hmembers] at hprimary hwindow
  exact ⟨by decide +kernel, hmembers, hprimary, hwindow⟩

end BondedRelay.Coordinator
