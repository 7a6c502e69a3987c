import BondedRelay.Proofs.Bond.Atomic
import BondedRelay.Proofs.Coordinator.Run

namespace BondedRelay.Coordinator

theorem rejected_call_changes_nothing {ε : Type} [JobEffect ε] {c : Coordinator MemoryToken ε}
    {call : Call} {e : Rejection}
    (h : c.answer call = .error e) : c.after call = c := by
  rcases rejected (Prod.ext h rfl) with hsame | ⟨operation, hrejects, hafter⟩
  · exact hsame
  · have hledger := Ledger.after_rejected hrejects
    rw [hledger] at hafter
    exact hafter

theorem unbond_drained_changes_nothing :
    let funded := (MemoryToken.empty.mint 5 Protocol.standard.bondUnit).approve 5 9 .top
    let c := (create 1 .standard 9 funded .standard (RecordingEffect.create []) .empty).run
      [.call (.bond 5 7 Protocol.standard.bondUnit 1), .token .empty]
    c.ledger.isBonded 7 = true ∧ c.after (.unbond 7 7 5) = c := by
  intro funded c
  have hdrained : c.answer (.unbond 7 7 5) =
      .error (.token (.insufficientBalance 9 Protocol.standard.bondUnit 0)) := by rfl
  exact ⟨by decide +kernel, rejected_call_changes_nothing hdrained⟩

end BondedRelay.Coordinator
