namespace BondedRelay

structure Feed (α : Type) where
  capacity : Nat
  sent : List α
  closed : Bool
  deriving DecidableEq, Repr

structure Unread (α : Type) where
  missed : Nat
  items : List α
  deriving DecidableEq, Repr

namespace Feed

variable {α : Type}

def create (capacity : Nat) : Feed α := ⟨capacity, [], false⟩

def position (f : Feed α) : Nat := f.sent.length

def send (f : Feed α) (item : α) : Feed α := { f with sent := item :: f.sent }

def sendAll (f : Feed α) (items : List α) : Feed α := items.foldl send f

def close (f : Feed α) : Feed α := { f with closed := true }

def unread (f : Feed α) (seen : Nat) : Unread α :=
  let behind := f.position - seen
  ⟨behind - f.capacity, (f.sent.take (min behind f.capacity)).reverse⟩

@[simp]
theorem position_send (f : Feed α) (item : α) : (f.send item).position = f.position + 1 := rfl

theorem missed_add_length_unread (f : Feed α) (seen : Nat) :
    (f.unread seen).missed + (f.unread seen).items.length = f.position - seen := by
  unfold unread position
  simp only [List.length_reverse, List.length_take]
  omega

theorem unread_position (f : Feed α) : f.unread f.position = ⟨0, []⟩ := by
  simp [unread]

end Feed

end BondedRelay
