import BondedRelay.Bytes

namespace BondedRelay.Abi

inductive Field where
  | word (n : Amount)
  | bytes (b : Bytes)
  deriving DecidableEq, Repr

def wordBytes (n : Nat) : Bytes := Bytes.ofNat 32 n

def padded (b : Bytes) : Bytes := b ++ List.replicate ((32 - b.length % 32) % 32) 0

def Field.tail : Field → Bytes
  | .word _ => []
  | .bytes b => wordBytes b.length ++ padded b

def heads : Nat → List Field → Bytes
  | _, [] => []
  | offset, .word n :: rest => wordBytes n.toNat ++ heads offset rest
  | offset, .bytes b :: rest =>
      wordBytes offset ++ heads (offset + (Field.bytes b).tail.length) rest

def encode (fields : List Field) : Bytes :=
  heads (32 * fields.length) fields ++ fields.flatMap Field.tail

def word? (body : Bytes) (offset : Nat) : Option Amount :=
  if offset + 32 ≤ body.length then some ⟨body.wordAt offset, Bytes.wordAt_lt body offset⟩
  else none

def size? (body : Bytes) (offset : Nat) : Option Nat :=
  match word? body offset with
  | some n => if n.toNat < 0x100000000 then some n.toNat else none
  | none => none

def bytes? (body : Bytes) (offset : Nat) : Option Bytes :=
  match size? body offset with
  | none => none
  | some start =>
      match size? body start with
      | none => none
      | some n =>
          if start + 32 + n ≤ body.length then some ((body.drop (start + 32)).take n) else none

@[simp]
theorem length_wordBytes (n : Nat) : (wordBytes n).length = 32 := Bytes.length_ofNat ..

theorem length_heads (offset : Nat) (fields : List Field) :
    (heads offset fields).length = 32 * fields.length := by
  induction fields generalizing offset with
  | nil => rfl
  | cons f rest ih =>
      cases f <;> simp only [heads, List.length_append, length_wordBytes, ih, List.length_cons] <;>
        omega

theorem word?_append {body : Bytes} {o : Nat} {n : Amount} (h : word? body o = some n)
    (s : Bytes) : word? (body ++ s) o = some n := by
  unfold word? at h ⊢
  split at h
  · next hl =>
      rw [if_pos (by rw [List.length_append]; omega)]
      simpa [Bytes.wordAt_append s hl] using h
  · simp at h

end BondedRelay.Abi
