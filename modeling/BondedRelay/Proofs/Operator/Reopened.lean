import BondedRelay.Proofs.Operator.Dropped

namespace BondedRelay

namespace Coordinator

variable {τ ε : Type} {c c' : Coordinator τ ε} {r r' : JobRecord} {id : JobId}

theorem InPhase.exhausted_later (h : c.InPhase r .exhausted) (hconfig : c'.config = c.config)
    (hclock : c.clock.timestamp ≤ c'.clock.timestamp) : c'.InPhase r .exhausted := by
  obtain ⟨hassigned, hend⟩ := h
  refine ⟨hassigned, Nat.le_trans ?_ (Uint.le_iff.1 hclock)⟩
  rw [hconfig]
  exact hend

variable [UtilityToken τ] [JobEffect ε] {moves later : List (Move τ ε)}

def Forward (c : Coordinator τ ε) : List (Move τ ε) → Prop
  | [] => True
  | move :: rest =>
      c.clock.timestamp ≤ (c.step move).clock.timestamp ∧ (c.step move).Forward rest

instance decidableForward (c : Coordinator τ ε) (moves : List (Move τ ε)) :
    Decidable (c.Forward moves) :=
  match moves with
  | [] => inferInstanceAs (Decidable True)
  | move :: rest =>
      have := decidableForward (c.step move) rest
      inferInstanceAs (Decidable (_ ∧ _))

theorem timestamp_le_run (h : c.Forward moves) :
    c.clock.timestamp ≤ (c.run moves).clock.timestamp := by
  induction moves generalizing c with
  | nil => exact Uint.le_iff.2 (Nat.le_refl _)
  | cons move rest ih =>
      obtain ⟨hstep, hrest⟩ := h
      exact Uint.le_iff.2 (Nat.le_trans (Uint.le_iff.1 hstep) (Uint.le_iff.1 (ih hrest)))

end Coordinator

namespace Watch

open Coordinator Operator

variable {τ ε : Type} {w : Watch τ ε} {flow : Flow} {c' now : Coordinator τ ε} {o' : Operator}
  {id : JobId} {job : KnownJob} {params : ExecutionParams} {phase : WindowPhase}

variable [UtilityToken τ] [JobEffect ε] {later : List (Move τ ε)}

end Watch

end BondedRelay
