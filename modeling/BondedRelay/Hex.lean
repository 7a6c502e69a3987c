import BondedRelay.Bytes
import BondedRelay.Text.Blank

namespace BondedRelay.Hex

def digit? (c : Char) : Option Nat :=
  if '0' ≤ c ∧ c ≤ '9' then some (c.toNat - '0'.toNat)
  else if 'a' ≤ c ∧ c ≤ 'f' then some (c.toNat - 'a'.toNat + 10)
  else if 'A' ≤ c ∧ c ≤ 'F' then some (c.toNat - 'A'.toNat + 10)
  else none

def digitChar (n : Nat) : Char :=
  if n < 10 then Char.ofNat ('0'.toNat + n) else Char.ofNat ('a'.toNat + (n - 10))

def digits : Bytes → List Char
  | [] => []
  | b :: rest => digitChar (b.toNat / 16) :: digitChar (b.toNat % 16) :: digits rest

def bytes? : List Char → Option Bytes
  | [] => some []
  | [_] => none
  | hi :: lo :: rest =>
      match digit? hi, digit? lo, bytes? rest with
      | some h, some l, some bs => some (UInt8.ofNat (16 * h + l) :: bs)
      | _, _, _ => none

def unmarked : List Char → List Char
  | '0' :: 'x' :: rest => rest
  | cs => cs

def stripMark (s : String) : String := String.ofList (unmarked s.toList)

def ofBytes (b : Bytes) : String := String.ofList ('0' :: 'x' :: digits b)

def ofUint {w : Nat} (n : Uint w) : String := ofBytes (Bytes.ofUint n)

def ofNat (n : Nat) : String :=
  String.ofList ('0' :: 'x' :: (Nat.toDigits 16 n))

def toBytes? (s : String) : Option Bytes := bytes? (unmarked s.toList)

def toUint? (w : Nat) (s : String) : Option (Uint w) :=
  match toBytes? s with
  | some b => if b.length = w / 8 then Uint.ofNat? b.toNat else none
  | none => none

def paired : List Nat → Bytes
  | hi :: lo :: rest => UInt8.ofNat (16 * hi + lo) :: paired rest
  | _ => []

def spacedBytes? (places : List Char) : Option Bytes :=
  let digits := (places.filter fun c => !Text.isPlainBlank c).mapM digit?
  digits.map fun ds => paired (if places.length % 2 = 1 then 0 :: ds else ds)

def toSpacedUint? (w : Nat) (s : String) : Option (Uint w) :=
  let places := unmarked s.toList
  if places.length = w / 4 then
    match spacedBytes? places with
    | some b => Uint.ofNat? (b ++ List.replicate (w / 8 - b.length) 0).toNat
    | none => none
  else none

def toSpacedAmount? (s : String) : Option Amount :=
  let places := unmarked s.toList
  if places.isEmpty ∨ 64 < places.length then none
  else (spacedBytes? places).bind fun b => Uint.ofNat? b.toNat

theorem digit?_digitChar {n : Nat} (h : n < 16) : digit? (digitChar n) = some n := by
  have : ∀ k : Fin 16, digit? (digitChar k) = some k.val := by decide
  exact this ⟨n, h⟩

theorem length_digits (b : Bytes) : (digits b).length = 2 * b.length := by
  induction b with
  | nil => rfl
  | cons x xs ih =>
      simp only [digits, List.length_cons, ih]
      omega

theorem bytes?_digits (b : Bytes) : bytes? (digits b) = some b := by
  induction b with
  | nil => rfl
  | cons x xs ih =>
      have hx := x.toNat_lt
      have e : UInt8.ofNat (16 * (x.toNat / 16) + x.toNat % 16) = x := by
        rw [Nat.div_add_mod]
        exact UInt8.ofNat_toNat
      simp only [digits, bytes?, digit?_digitChar (show x.toNat / 16 < 16 by omega),
        digit?_digitChar (show x.toNat % 16 < 16 by omega), ih, e]

theorem toBytes?_ofBytes (b : Bytes) : toBytes? (ofBytes b) = some b := by
  simp [toBytes?, ofBytes, unmarked, bytes?_digits]

theorem isPlainBlank_digitChar {n : Nat} (h : n < 16) :
    Text.isPlainBlank (digitChar n) = false := by
  have : ∀ k : Fin 16, Text.isPlainBlank (digitChar k) = false := by decide
  exact this ⟨n, h⟩

theorem mapM_digit?_digits (b : Bytes) :
    (digits b).mapM digit? = some (b.flatMap fun x => [x.toNat / 16, x.toNat % 16]) := by
  induction b with
  | nil => rfl
  | cons x xs ih =>
      have hx := x.toNat_lt
      simp only [digits, List.mapM_cons, digit?_digitChar (show x.toNat / 16 < 16 by omega),
        digit?_digitChar (show x.toNat % 16 < 16 by omega), ih]
      rfl

theorem filter_digits (b : Bytes) :
    (digits b).filter (fun c => !Text.isPlainBlank c) = digits b := by
  induction b with
  | nil => rfl
  | cons x xs ih =>
      have hx := x.toNat_lt
      simp only [digits, List.filter_cons, isPlainBlank_digitChar (show x.toNat / 16 < 16 by omega),
        isPlainBlank_digitChar (show x.toNat % 16 < 16 by omega), ih, Bool.not_false, if_true]

theorem paired_values (b : Bytes) :
    paired (b.flatMap fun x => [x.toNat / 16, x.toNat % 16]) = b := by
  induction b with
  | nil => rfl
  | cons x xs ih =>
      have e : UInt8.ofNat (16 * (x.toNat / 16) + x.toNat % 16) = x := by
        rw [Nat.div_add_mod]
        exact UInt8.ofNat_toNat
      simp only [List.flatMap_cons, List.cons_append, List.nil_append, paired, e, ih]

theorem spacedBytes?_digits (b : Bytes) : spacedBytes? (digits b) = some b := by
  have h : (digits b).length % 2 ≠ 1 := by
    rw [length_digits]
    omega
  simp [spacedBytes?, filter_digits, mapM_digit?_digits, h, paired_values]

end BondedRelay.Hex
