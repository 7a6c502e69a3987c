namespace BondedRelay

structure Script (α : Type) where
  next : α
  later : List α
  deriving DecidableEq, Repr

namespace Script

variable {α : Type}

def ofList (default : α) : List α → Script α
  | [] => ⟨default, []⟩
  | a :: rest => ⟨a, rest⟩

def take (s : Script α) : α × Script α :=
  match s.later with
  | [] => (s.next, s)
  | a :: rest => (s.next, ⟨a, rest⟩)

def answer (s : Script α) : Nat → α
  | 0 => s.next
  | n + 1 => s.take.2.answer n

end Script

end BondedRelay
