import BondedRelay.Uint

namespace BondedRelay

abbrev Bytes := List UInt8

namespace Bytes

def ofNat : Nat → Nat → Bytes
  | 0, _ => []
  | k + 1, n => UInt8.ofNat (n / Uint.limit (8 * k)) :: ofNat k n

def toNat (b : Bytes) : Nat :=
  b.foldl (fun acc byte => acc * 256 + byte.toNat) 0

def ofUint {w : Nat} (n : Uint w) : Bytes := ofNat (w / 8) n.toNat

def wordAt (b : Bytes) (offset : Nat) : Nat := toNat ((b.drop offset).take 32)

def ofText (s : String) : Bytes := s.toUTF8.toList

@[simp]
theorem length_ofNat (k n : Nat) : (ofNat k n).length = k := by
  induction k with
  | zero => rfl
  | succ k ih => simp [ofNat, ih]

theorem length_ofUint {w : Nat} (n : Uint w) : (ofUint n).length = w / 8 := length_ofNat ..

theorem limit_succ (k : Nat) : Uint.limit (8 * (k + 1)) = 256 * Uint.limit (8 * k) := by
  rw [Nat.mul_succ, Uint.limit_add, Nat.mul_comm]
  rfl

theorem foldl_toNat (b : Bytes) (acc : Nat) :
    b.foldl (fun acc byte => acc * 256 + byte.toNat) acc =
      acc * Uint.limit (8 * b.length) + toNat b := by
  induction b generalizing acc with
  | nil => simp [toNat, Uint.limit]
  | cons x xs ih =>
      have h := ih (0 * 256 + x.toNat)
      simp only [toNat, List.foldl_cons] at h ⊢
      rw [ih, h, List.length_cons, limit_succ, Nat.add_mul, Nat.zero_mul, Nat.zero_add,
        Nat.mul_assoc, Nat.add_assoc]
      rfl

theorem toNat_cons (x : UInt8) (b : Bytes) :
    toNat (x :: b) = x.toNat * Uint.limit (8 * b.length) + toNat b := by
  have h := foldl_toNat b (0 * 256 + x.toNat)
  simpa [toNat] using h

theorem toNat_append (a b : Bytes) :
    toNat (a ++ b) = toNat a * Uint.limit (8 * b.length) + toNat b := by
  have h := foldl_toNat b (toNat a)
  simpa [toNat, List.foldl_append] using h

theorem toNat_lt (b : Bytes) : toNat b < Uint.limit (8 * b.length) := by
  induction b with
  | nil => exact Uint.limit_pos 0
  | cons x xs ih =>
      rw [toNat_cons, List.length_cons, limit_succ]
      have hx : x.toNat + 1 ≤ 256 := x.toNat_lt
      have := Nat.mul_le_mul_right (Uint.limit (8 * xs.length)) hx
      rw [Nat.add_mul] at this
      omega

@[simp]
theorem toNat_ofNat (k n : Nat) : toNat (ofNat k n) = n % Uint.limit (8 * k) := by
  induction k with
  | zero => exact (Nat.mod_one n).symm
  | succ k ih =>
      rw [ofNat, toNat_cons, ih, length_ofNat, limit_succ, Nat.mul_comm 256, Nat.mod_mul,
        UInt8.toNat_ofNat', Nat.mul_comm, Nat.add_comm]

theorem toNat_ofUint {w : Nat} (h : 8 ∣ w) (n : Uint w) : toNat (ofUint n) = n.toNat := by
  rw [ofUint, toNat_ofNat, Nat.mul_div_cancel' h]
  exact Nat.mod_eq_of_lt n.isLt

theorem ofNat_mul_add {j m : Nat} (h : j ≤ m) (n x : Nat) :
    ofNat j (n * Uint.limit (8 * m) + x) = ofNat j x := by
  induction j with
  | zero => rfl
  | succ j ih =>
      rw [ofNat, ofNat, ih (by omega)]
      congr 1
      obtain ⟨d, rfl⟩ : ∃ d, m = j + 1 + d := ⟨m - (j + 1), by omega⟩
      have e : n * Uint.limit (8 * (j + 1 + d)) =
          Uint.limit (8 * j) * (256 * (n * Uint.limit (8 * d))) := by
        rw [Nat.mul_add, Uint.limit_add, limit_succ]
        ac_rfl
      rw [e, Nat.mul_add_div (Uint.limit_pos _)]
      exact UInt8.toNat.inj (by simp [UInt8.toNat_ofNat'])

theorem ofNat_toNat (b : Bytes) : ofNat b.length (toNat b) = b := by
  induction b with
  | nil => rfl
  | cons x xs ih =>
      have hlt := toNat_lt xs
      rw [List.length_cons, ofNat, toNat_cons, ofNat_mul_add (Nat.le_refl _), ih]
      congr 1
      rw [Nat.mul_comm, Nat.mul_add_div (by omega), Nat.div_eq_of_lt hlt]
      simp

theorem ofUint_injective {w : Nat} (h : 8 ∣ w) {a b : Uint w} (e : ofUint a = ofUint b) : a = b :=
  Uint.ext (by rw [← toNat_ofUint h, e, toNat_ofUint h])

theorem wordAt_lt (b : Bytes) (o : Nat) : wordAt b o < Uint.limit 256 := by
  have hl : ((b.drop o).take 32).length ≤ 32 := List.length_take_le 32 _
  exact Nat.lt_of_lt_of_le (toNat_lt _) (Uint.limit_le_limit (by omega))

theorem wordAt_append {b : Bytes} (s : Bytes) {o : Nat} (h : o + 32 ≤ b.length) :
    wordAt (b ++ s) o = wordAt b o := by
  unfold wordAt
  rw [List.drop_append_of_le_length (by omega), List.take_append_of_le_length (by simp; omega)]

end Bytes

end BondedRelay
