import BondedRelay.Numeral

namespace BondedRelay.Numeral

section

variable {digit? : Char → Option Nat} {radix acc n : Nat} {cs : List Char}

theorem readFrom_append (acc : Nat) (xs ys : List Char) :
    readFrom digit? radix acc (xs ++ ys) =
      (readFrom digit? radix acc xs).bind fun n => readFrom digit? radix n ys := by
  induction xs generalizing acc with
  | nil => rfl
  | cons c rest ih =>
      simp only [List.cons_append, readFrom]
      cases digit? c with
      | none => rfl
      | some d => exact ih _

theorem isSome_of_readFrom (h : readFrom digit? radix acc cs = some n) :
    ∀ c ∈ cs, (digit? c).isSome = true := by
  induction cs generalizing acc with
  | nil => simp
  | cons c rest ih =>
      unfold readFrom at h
      split at h
      · next d hd => simpa [hd] using ih h
      · simp at h

theorem le_of_readFrom (hradix : 1 ≤ radix) (h : readFrom digit? radix acc cs = some n) :
    acc ≤ n := by
  induction cs generalizing acc with
  | nil => exact Nat.le_of_eq (Option.some.inj h)
  | cons c rest ih =>
      unfold readFrom at h
      split at h
      · next d hd =>
          have hacc : acc ≤ acc * radix := Nat.le_mul_of_pos_right acc hradix
          exact Nat.le_trans hacc (Nat.le_trans (Nat.le_add_right _ _) (ih h))
      · simp at h

theorem readFrom_toDigits (hradix : 1 < radix)
    (hdigit : ∀ d < radix, digit? (Nat.digitChar d) = some d) (n : Nat) :
    readFrom digit? radix 0 (Nat.toDigits radix n) = some n := by
  induction n using Nat.strongRecOn with
  | ind n ih =>
      by_cases hn : n < radix
      · simp [Nat.toDigits_of_lt_base hn, readFrom, hdigit n hn]
      · have hle : radix ≤ n := Nat.le_of_not_lt hn
        have hlt : n / radix < n := Nat.div_lt_self (by omega) hradix
        have hlast : n % radix < radix := Nat.mod_lt n (by omega)
        rw [Nat.toDigits_of_base_le hradix hle, readFrom_append, ih _ hlt]
        simp [readFrom, hdigit _ hlast, Nat.div_add_mod']

end

theorem head?_toDigits {radix n : Nat} (hradix : 1 < radix) (hn : 0 < n) :
    (Nat.toDigits radix n).head? ≠ some '0' := by
  induction n using Nat.strongRecOn with
  | ind n ih =>
      by_cases hlt : n < radix
      · simp [Nat.toDigits_of_lt_base hlt, Nat.ne_of_gt hn]
      · have hle : radix ≤ n := Nat.le_of_not_lt hlt
        have hfront := ih (n / radix) (Nat.div_lt_self hn hradix) (Nat.div_pos hle (by omega))
        rw [Nat.toDigits_of_base_le hradix hle, List.head?_append]
        cases hdigits : Nat.toDigits radix (n / radix) with
        | nil => exact absurd hdigits Nat.toDigits_ne_nil
        | cons d rest => simpa [hdigits] using hfront

theorem decimalDigit?_digitChar : ∀ d < 10, decimalDigit? (Nat.digitChar d) = some d := by
  decide

theorem hexDigit?_digitChar : ∀ d < 16, Hex.digit? (Nat.digitChar d) = some d := by
  decide

theorem decimal?_toDigits (n : Nat) : decimal? (Nat.toDigits 10 n) = some n :=
  readFrom_toDigits (by decide) decimalDigit?_digitChar n

theorem hexadecimal?_toDigits (n : Nat) : hexadecimal? (Nat.toDigits 16 n) = some n :=
  readFrom_toDigits (by decide) hexDigit?_digitChar n

theorem unmarked_of_notMem {cs : List Char} (h : 'x' ∉ cs) : Hex.unmarked cs = cs := by
  unfold Hex.unmarked
  split
  · simp at h
  · rfl

theorem unmarked_toDigits (n : Nat) : Hex.unmarked (Nat.toDigits 16 n) = Nat.toDigits 16 n := by
  apply unmarked_of_notMem
  intro hx
  have hdigit := isSome_of_readFrom (hexadecimal?_toDigits n) 'x' hx
  simp [Hex.digit?] at hdigit

theorem length_toDigits_le (n : Amount) : (Nat.toDigits 16 n.toNat).length ≤ 64 :=
  (Nat.length_toDigits_le_iff (by decide) (by decide)).2 (Nat.lt_of_lt_of_le n.isLt (by decide))

theorem amount?_ofNat (n : Amount) : amount? (Hex.ofNat n.toNat) = some n := by
  simp [amount?, Hex.ofNat, unmarked_toDigits, length_toDigits_le, hexadecimal?_toDigits]

end BondedRelay.Numeral
