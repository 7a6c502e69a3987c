namespace BondedRelay

def Uint.limit (w : Nat) : Nat := Nat.pow 2 w

structure Uint (w : Nat) where
  toNat : Nat
  isLt : toNat < Uint.limit w
  deriving DecidableEq

abbrev Address := Uint 160

abbrev Hash := Uint 256

abbrev Amount := Uint 256

abbrev JobId := Hash

namespace Uint

variable {w : Nat}

instance : Repr (Uint w) := ⟨fun n _ => repr n.toNat⟩

@[ext]
theorem ext {a b : Uint w} (h : a.toNat = b.toNat) : a = b := by
  cases a
  cases b
  simpa using h

theorem limit_pos (w : Nat) : 0 < limit w := Nat.two_pow_pos w

theorem limit_add (a b : Nat) : limit (a + b) = limit a * limit b := Nat.pow_add 2 a b

theorem limit_le_limit {a b : Nat} (h : a ≤ b) : limit a ≤ limit b :=
  Nat.pow_le_pow_right (by decide) h

def wrap (n : Nat) : Uint w :=
  ⟨n % limit w, Nat.mod_lt _ (limit_pos w)⟩

def clamp (n : Nat) : Uint w :=
  ⟨min n (limit w - 1), by have := limit_pos w; omega⟩

def ofNat? (n : Nat) : Option (Uint w) :=
  if h : n < limit w then some ⟨n, h⟩ else none

instance (n : Nat) : OfNat (Uint w) n := ⟨wrap n⟩

instance : Inhabited (Uint w) := ⟨0⟩

instance : LT (Uint w) := ⟨fun a b => a.toNat < b.toNat⟩

instance : LE (Uint w) := ⟨fun a b => a.toNat ≤ b.toNat⟩

instance (a b : Uint w) : Decidable (a < b) := inferInstanceAs (Decidable (a.toNat < b.toNat))

instance (a b : Uint w) : Decidable (a ≤ b) := inferInstanceAs (Decidable (a.toNat ≤ b.toNat))

instance : Min (Uint w) := ⟨fun a b => if a ≤ b then a else b⟩

instance : Max (Uint w) := ⟨fun a b => if a ≤ b then b else a⟩

def top : Uint w := clamp (limit w - 1)

def satAdd (a b : Uint w) : Uint w := clamp (a.toNat + b.toNat)

def satSub (a b : Uint w) : Uint w :=
  ⟨a.toNat - b.toNat, Nat.lt_of_le_of_lt (Nat.sub_le ..) a.isLt⟩

def satMul (a b : Uint w) : Uint w := clamp (a.toNat * b.toNat)

def divNat (a : Uint w) (d : Nat) : Uint w :=
  ⟨a.toNat / d, Nat.lt_of_le_of_lt (Nat.div_le_self ..) a.isLt⟩

def wrapAdd (a b : Uint w) : Uint w := wrap (a.toNat + b.toNat)

theorem lt_iff {a b : Uint w} : a < b ↔ a.toNat < b.toNat := Iff.rfl

theorem le_iff {a b : Uint w} : a ≤ b ↔ a.toNat ≤ b.toNat := Iff.rfl

theorem toNat_le (a : Uint w) : a.toNat ≤ limit w - 1 := by
  have := a.isLt
  omega

@[simp]
theorem toNat_ofNat (n : Nat) : (OfNat.ofNat n : Uint w).toNat = n % limit w := rfl

@[simp]
theorem toNat_zero : (0 : Uint w).toNat = 0 := Nat.zero_mod _

@[simp]
theorem toNat_wrap (n : Nat) : (wrap n : Uint w).toNat = n % limit w := rfl

@[simp]
theorem toNat_clamp (n : Nat) : (clamp n : Uint w).toNat = min n (limit w - 1) := rfl

@[simp]
theorem toNat_top : (top : Uint w).toNat = limit w - 1 := Nat.min_self _

@[simp]
theorem toNat_satAdd (a b : Uint w) :
    (a.satAdd b).toNat = min (a.toNat + b.toNat) (limit w - 1) := rfl

@[simp]
theorem toNat_satSub (a b : Uint w) : (a.satSub b).toNat = a.toNat - b.toNat := rfl

@[simp]
theorem toNat_satMul (a b : Uint w) :
    (a.satMul b).toNat = min (a.toNat * b.toNat) (limit w - 1) := rfl

@[simp]
theorem toNat_divNat (a : Uint w) (d : Nat) : (a.divNat d).toNat = a.toNat / d := rfl

@[simp]
theorem toNat_wrapAdd (a b : Uint w) :
    (a.wrapAdd b).toNat = (a.toNat + b.toNat) % limit w := rfl

@[simp]
theorem toNat_min (a b : Uint w) : (min a b).toNat = min a.toNat b.toNat := by
  show (if a ≤ b then a else b).toNat = _
  split
  · next h => exact (Nat.min_eq_left (le_iff.1 h)).symm
  · next h => exact (Nat.min_eq_right (Nat.le_of_not_le (mt le_iff.2 h))).symm

@[simp]
theorem toNat_max (a b : Uint w) : (max a b).toNat = max a.toNat b.toNat := by
  show (if a ≤ b then b else a).toNat = _
  split
  · next h => exact (Nat.max_eq_right (le_iff.1 h)).symm
  · next h => exact (Nat.max_eq_left (Nat.le_of_not_le (mt le_iff.2 h))).symm

theorem ofNat?_eq_some_iff {n : Nat} {a : Uint w} : ofNat? n = some a ↔ n = a.toNat := by
  unfold ofNat?
  split
  · simp [Uint.ext_iff]
  · have := a.isLt
    simp only [reduceCtorEq, false_iff]
    omega

theorem ofNat?_eq_none_iff {n : Nat} : (ofNat? n : Option (Uint w)) = none ↔ limit w ≤ n := by
  unfold ofNat?
  split
  · next h => simpa using h
  · next h => simpa using h

@[simp]
theorem ofNat?_toNat (a : Uint w) : ofNat? a.toNat = some a := ofNat?_eq_some_iff.2 rfl

@[simp]
theorem wrap_toNat (a : Uint w) : wrap a.toNat = a := Uint.ext (Nat.mod_eq_of_lt a.isLt)

theorem toNat_wrap_of_le {v : Nat} (h : w ≤ v) (a : Uint w) :
    (wrap a.toNat : Uint v).toNat = a.toNat :=
  Nat.mod_eq_of_lt (Nat.lt_of_lt_of_le a.isLt (limit_le_limit h))

theorem wrap_toNat_inj {v : Nat} (h : w ≤ v) {a b : Uint w}
    (e : (wrap a.toNat : Uint v) = wrap b.toNat) : a = b := by
  have hvalue := congrArg toNat e
  rw [toNat_wrap_of_le h, toNat_wrap_of_le h] at hvalue
  exact ext hvalue

end Uint

end BondedRelay
