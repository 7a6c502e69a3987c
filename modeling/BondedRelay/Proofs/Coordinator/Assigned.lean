import Mathlib.Data.List.Induction
import BondedRelay.Proofs.Bond.Membership
import BondedRelay.Proofs.Coordinator.ExactlyOnce
import BondedRelay.Proofs.Job.Assignment

namespace BondedRelay.Coordinator

variable {τ ε : Type} [UtilityToken τ] [JobEffect ε] {start c before : Coordinator τ ε}
  {call : Call} {reply : Reply} {id : JobId} {payload : Payload} {r r' : JobRecord}
  {moves : List (Move τ ε)}

theorem edits_after (c : Coordinator τ ε) (call : Call) :
    Relation.ReflTransGen Ledger.Edit c.ledger (c.after call).ledger := by
  rcases c.ledger_after call with hsame | ⟨operation, hafter⟩
  · rw [hsame]
  · rw [hafter]
    exact c.ledger.edits_after operation

theorem edits_step (c : Coordinator τ ε) (move : Move τ ε) :
    Relation.ReflTransGen Ledger.Edit c.ledger (c.step move).ledger := by
  cases move with
  | call call => exact c.edits_after call
  | token token => exact .single (.token c.ledger token)
  | _ => exact .refl

theorem edits_run (c : Coordinator τ ε) (moves : List (Move τ ε)) :
    Relation.ReflTransGen Ledger.Edit c.ledger (c.run moves).ledger := by
  induction moves generalizing c with
  | nil => exact .refl
  | cons move rest ih => exact (c.edits_step move).trans (ih (c.step move))

theorem after_delivery {chain : Uint 32} {sender : Address}
    (hcall : call.delivery? = some (payload, chain, sender)) (h : c.answer call = .ok reply) :
    (∃ details, reply = .assigned details) ∧
      (c.after call).jobs.get? payload.jobId = some (c.assignment payload) ∧
      (c.after call).ledger = c.ledger := by
  have hrespond : c.respond call = (.ok reply, c.after call) := Prod.ext h rfl
  rw [respond_of_delivery hcall] at hrespond
  obtain ⟨details, hdeliver, rfl⟩ := mapped_ok hrespond
  obtain ⟨-, -, -, -, hafter⟩ := deliver_ok hdeliver
  rw [hafter]
  exact ⟨⟨details, rfl⟩, (JobStore.get?_set ..).trans (if_pos rfl), rfl⟩

def Assigns (c : Coordinator τ ε) (call : Call) (payload : Payload) : Prop :=
  ∃ chain sender details, call.delivery? = some (payload, chain, sender) ∧
    c.answer call = .ok (.assigned details)

theorem Assigns.get?_after (h : c.Assigns call payload) :
    (c.after call).jobs.get? payload.jobId = some (c.assignment payload) := by
  obtain ⟨chain, sender, details, hcall, hanswer⟩ := h
  exact (after_delivery hcall hanswer).2.1

theorem Assigns.ledger_after (h : c.Assigns call payload) : (c.after call).ledger = c.ledger := by
  obtain ⟨chain, sender, details, hcall, hanswer⟩ := h
  exact (after_delivery hcall hanswer).2.2

theorem known_after (h : (c.after call).jobs.get? id = some r) :
    (∃ r₀, c.jobs.get? id = some r₀ ∧ r₀.Follows r) ∨
      ∃ payload, c.Assigns call payload ∧ r = c.assignment payload := by
  cases hknown : c.jobs.get? id with
  | some r₀ =>
      obtain ⟨r₁, hafter, hfollows⟩ := follows_step (.call call) hknown
      obtain rfl : r₁ = r := Option.some.inj (hafter.symm.trans h)
      exact .inl ⟨r₀, rfl, hfollows⟩
  | none =>
      have hinserted : (c.step (.call call)).jobs.get? id = some r := h
      obtain ⟨-, call', hcall, hdelivered⟩ := inserted_step hknown hinserted
      obtain rfl := Move.call.inj hcall
      obtain ⟨⟨payload, chain, sender⟩, hdelivery, rfl⟩ := Option.map_eq_some_iff.1 hdelivered
      rcases hanswer : c.answer call with e | reply
      · have hrespond : c.respond call = (.error e, c.after call) := Prod.ext hanswer rfl
        rw [(quiet_of_rejected hrespond).jobs, hknown] at h
        simp at h
      · obtain ⟨⟨details, rfl⟩, hafter, -⟩ := after_delivery hdelivery hanswer
        exact .inr ⟨payload, ⟨chain, sender, details, hdelivery, hanswer⟩,
          Option.some.inj (h.symm.trans hafter)⟩

def AssignedIn (start : Coordinator τ ε) (moves : List (Move τ ε)) (before : Coordinator τ ε)
    (r : JobRecord) : Prop :=
  ∃ earlier call later payload, moves = earlier ++ .call call :: later ∧
    before = start.run earlier ∧ before.Assigns call payload ∧
    r = { before.assignment payload with status := r.status }

theorem AssignedIn.extend (h : AssignedIn start moves before r) (move : Move τ ε)
    (hfollows : r.Follows r') : AssignedIn start (moves ++ [move]) before r' := by
  obtain ⟨earlier, call, later, payload, rfl, hbefore, hassigns, hfields⟩ := h
  refine ⟨earlier, call, later ++ [move], payload, by simp, hbefore, hassigns, ?_⟩
  exact hfollows.fields.trans (by rw [hfields])

theorem AssignedIn.lt_of_mem_fallbacks {place : Uint 32} (h : AssignedIn start moves before r)
    (hplace : place ∈ r.fallbacks) : place.toNat < (before.pods.membersOf r.pod).length := by
  obtain ⟨earlier, call, later, payload, -, -, -, hfields⟩ := h
  rw [hfields] at hplace ⊢
  exact Assignment.lt_of_mem_fallbacks hplace

theorem assigned_run (hfresh : ∀ id, start.jobs.get? id = none) (moves : List (Move τ ε))
    (h : (start.run moves).jobs.get? id = some r) : ∃ before, AssignedIn start moves before r := by
  -- The last move made the record or found it there.
  induction moves using List.reverseRecOn generalizing r with
  | nil => simp [hfresh] at h
  | append_singleton moves move ih =>
      rw [run_append, run_cons, run_nil] at h
      cases move with
      | call call =>
          rcases known_after h with ⟨r₀, hknown, hfollows⟩ | ⟨payload, hassigns, rfl⟩
          · obtain ⟨before, hassigned⟩ := ih hknown
            exact ⟨before, hassigned.extend _ hfollows⟩
          · exact ⟨start.run moves, moves, call, [], payload, rfl, rfl, hassigns, rfl⟩
      | _ =>
          obtain ⟨before, hassigned⟩ := ih h
          exact ⟨before, hassigned.extend _ (.refl r)⟩

end BondedRelay.Coordinator
