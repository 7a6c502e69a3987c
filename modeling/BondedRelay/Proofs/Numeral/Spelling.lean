import Mathlib.Data.List.Forall2
import Mathlib.Data.Nat.Digits.Defs
import BondedRelay.Proofs.Numeral

namespace BondedRelay

theorem Uint.bind_ofNat?_eq_some_iff {w : Nat} {value : Option Nat} {u : Uint w} :
    value.bind ofNat? = some u ↔ value = some u.toNat := by
  simp [Option.bind_eq_some_iff, ofNat?_eq_some_iff]

namespace Numeral

def IsDigit (radix : Nat) (c : Char) (d : Nat) : Prop :=
  d < radix ∧ (c = Nat.digitChar d ∨ c = (Nat.digitChar d).toUpper)

def Spells (radix : Nat) (cs : List Char) (n : Nat) : Prop :=
  ∃ ds, List.Forall₂ (IsDigit radix) cs ds ∧ Nat.ofDigits radix ds.reverse = n

def InEitherCase (cs ds : List Char) : Prop :=
  List.Forall₂ (fun c d => c = d ∨ c = d.toUpper) cs ds

structure Plain (c : Char) : Prop where
  not_blank : Text.isBlank c = false
  ne_plus : c ≠ '+'
  ne_minus : c ≠ '-'
  ne_x : c ≠ 'x'
  ne_X : c ≠ 'X'

instance (c : Char) : Decidable (Plain c) :=
  decidable_of_iff (Text.isBlank c = false ∧ c ≠ '+' ∧ c ≠ '-' ∧ c ≠ 'x' ∧ c ≠ 'X')
    ⟨fun ⟨hblank, hplus, hminus, hx, hX⟩ => ⟨hblank, hplus, hminus, hx, hX⟩,
      fun ⟨hblank, hplus, hminus, hx, hX⟩ => ⟨hblank, hplus, hminus, hx, hX⟩⟩

variable {radix acc n d : Nat} {c : Char} {cs ds : List Char}

theorem eq_ofNat_of_toNat (h : c.toNat = n) : c = Char.ofNat n := by
  rw [← h, Char.ofNat_toNat]

theorem ofNat_decimal : ∀ d < 10, Char.ofNat (48 + d) = Nat.digitChar d := by
  decide

theorem ofNat_lower : ∀ d < 16, 10 ≤ d → Char.ofNat (87 + d) = Nat.digitChar d := by
  decide

theorem ofNat_upper : ∀ d < 16, 10 ≤ d → Char.ofNat (55 + d) = (Nat.digitChar d).toUpper := by
  decide

theorem decimalDigit?_eq_some_iff : decimalDigit? c = some d ↔ IsDigit 10 c d := by
  constructor
  · intro h
    unfold decimalDigit? at h
    split at h
    · next hrange =>
        have hlow : 48 ≤ c.toNat := hrange.1
        have hhigh : c.toNat ≤ 57 := hrange.2
        have hvalue : c.toNat - 48 = d := Option.some.inj h
        have hc : c = Char.ofNat (48 + d) := eq_ofNat_of_toNat (by omega)
        have hd : d < 10 := by omega
        exact ⟨hd, .inl (hc.trans (ofNat_decimal d hd))⟩
    · cases h
  · have hread : ∀ d < 10, decimalDigit? (Nat.digitChar d) = some d ∧
        decimalDigit? (Nat.digitChar d).toUpper = some d := by decide
    rintro ⟨hd, rfl | rfl⟩
    · exact (hread d hd).1
    · exact (hread d hd).2

theorem hexDigit?_eq_some_iff : Hex.digit? c = some d ↔ IsDigit 16 c d := by
  constructor
  · intro h
    unfold Hex.digit? at h
    split at h
    · next hrange =>
        have hlow : 48 ≤ c.toNat := hrange.1
        have hhigh : c.toNat ≤ 57 := hrange.2
        have hvalue : c.toNat - 48 = d := Option.some.inj h
        have hc : c = Char.ofNat (48 + d) := eq_ofNat_of_toNat (by omega)
        exact ⟨by omega, .inl (hc.trans (ofNat_decimal d (by omega)))⟩
    · split at h
      · next hrange =>
          have hlow : 97 ≤ c.toNat := hrange.1
          have hhigh : c.toNat ≤ 102 := hrange.2
          have hvalue : c.toNat - 97 + 10 = d := Option.some.inj h
          have hc : c = Char.ofNat (87 + d) := eq_ofNat_of_toNat (by omega)
          exact ⟨by omega, .inl (hc.trans (ofNat_lower d (by omega) (by omega)))⟩
      · split at h
        · next hrange =>
            have hlow : 65 ≤ c.toNat := hrange.1
            have hhigh : c.toNat ≤ 70 := hrange.2
            have hvalue : c.toNat - 65 + 10 = d := Option.some.inj h
            have hc : c = Char.ofNat (55 + d) := eq_ofNat_of_toNat (by omega)
            exact ⟨by omega, .inr (hc.trans (ofNat_upper d (by omega) (by omega)))⟩
        · cases h
  · have hread : ∀ d < 16, Hex.digit? (Nat.digitChar d) = some d ∧
        Hex.digit? (Nat.digitChar d).toUpper = some d := by decide
    rintro ⟨hd, rfl | rfl⟩
    · exact (hread d hd).1
    · exact (hread d hd).2

theorem readFrom_eq_some_iff {digit? : Char → Option Nat}
    (hdigit : ∀ c d, digit? c = some d ↔ IsDigit radix c d) :
    readFrom digit? radix acc cs = some n ↔
      ∃ ds, List.Forall₂ (IsDigit radix) cs ds ∧
        acc * radix ^ ds.length + Nat.ofDigits radix ds.reverse = n := by
  induction cs generalizing acc with
  | nil =>
      constructor
      · intro h
        exact ⟨[], .nil, by simpa [readFrom] using h⟩
      · rintro ⟨_, ⟨⟩, hn⟩
        simpa [readFrom] using hn
  | cons c rest ih =>
      have hshift (d : Nat) (ds : List Nat) :
          (acc * radix + d) * radix ^ ds.length + Nat.ofDigits radix ds.reverse =
            acc * radix ^ (d :: ds).length + Nat.ofDigits radix (d :: ds).reverse := by
        rw [List.reverse_cons, Nat.ofDigits_append, Nat.ofDigits_singleton, List.length_reverse,
          List.length_cons]
        ring
      constructor
      · intro h
        unfold readFrom at h
        split at h
        · next d hd =>
            obtain ⟨ds, hds, hn⟩ := ih.1 h
            exact ⟨d :: ds, .cons ((hdigit c d).1 hd) hds, (hshift d ds).symm.trans hn⟩
        · cases h
      · rintro ⟨_, hds, hn⟩
        cases hds with
        | @cons _ d _ ds hd hds =>
            rw [readFrom, (hdigit c d).2 hd]
            exact ih.2 ⟨ds, hds, (hshift d ds).trans hn⟩

theorem decimal?_eq_some_iff : decimal? cs = some n ↔ Spells 10 cs n := by
  rw [decimal?, readFrom_eq_some_iff fun c d => decimalDigit?_eq_some_iff]
  simp only [Nat.zero_mul, Nat.zero_add, Spells]

theorem hexadecimal?_eq_some_iff : hexadecimal? cs = some n ↔ Spells 16 cs n := by
  rw [hexadecimal?, readFrom_eq_some_iff fun c d => hexDigit?_eq_some_iff]
  simp only [Nat.zero_mul, Nat.zero_add, Spells]

theorem spells_nil_iff : Spells radix [] n ↔ n = 0 := by
  constructor
  · rintro ⟨_, ⟨⟩, rfl⟩
    rfl
  · rintro rfl
    exact ⟨[], .nil, rfl⟩

theorem spells_decimal (n : Nat) : Spells 10 (Nat.toDigits 10 n) n :=
  decimal?_eq_some_iff.1 (decimal?_toDigits n)

theorem spells_hexadecimal (n : Nat) : Spells 16 (Nat.toDigits 16 n) n :=
  hexadecimal?_eq_some_iff.1 (hexadecimal?_toDigits n)

theorem InEitherCase.length_eq (h : InEitherCase cs ds) : cs.length = ds.length :=
  List.Forall₂.length_eq h

theorem IsDigit.toUpper (h : IsDigit 16 c d) : IsDigit 16 c.toUpper d := by
  have hidempotent : ∀ d < 16, (Nat.digitChar d).toUpper.toUpper = (Nat.digitChar d).toUpper := by
    decide
  obtain ⟨hd, rfl | rfl⟩ := h
  · exact ⟨hd, .inr rfl⟩
  · exact ⟨hd, .inr (hidempotent d hd)⟩

theorem Spells.inEitherCase (h : Spells 16 ds n) (hcase : InEitherCase cs ds) :
    Spells 16 cs n := by
  obtain ⟨values, hvalues, rfl⟩ := h
  refine ⟨values, ?_, rfl⟩
  induction hcase generalizing values with
  | nil => exact hvalues
  | cons hc _ ih =>
      cases hvalues with
      | cons hd hrest =>
          refine .cons ?_ (ih _ hrest)
          rcases hc with rfl | rfl
          · exact hd
          · exact hd.toUpper

theorem Spells.isDigit_of_mem (h : Spells radix cs n) (hc : c ∈ cs) : ∃ d, IsDigit radix c d := by
  obtain ⟨ds, hds, -⟩ := h
  induction hds with
  | nil => cases hc
  | @cons _ d _ _ hd _ ih =>
      cases hc with
      | head => exact ⟨d, hd⟩
      | tail _ hrest => exact ih hrest

theorem IsDigit.mono {radix' : Nat} (h : IsDigit radix c d) (hle : radix ≤ radix') :
    IsDigit radix' c d :=
  ⟨Nat.lt_of_lt_of_le h.1 hle, h.2⟩

theorem IsDigit.plain (h : IsDigit 16 c d) : Plain c := by
  have hplain : ∀ d < 16, Plain (Nat.digitChar d) ∧ Plain (Nat.digitChar d).toUpper := by decide
  obtain ⟨hd, rfl | rfl⟩ := h
  · exact (hplain d hd).1
  · exact (hplain d hd).2

theorem Spells.plain_of_mem (h : Spells radix cs n) (hradix : radix ≤ 16) (hc : c ∈ cs) :
    Plain c := by
  obtain ⟨d, hd⟩ := h.isDigit_of_mem hc
  exact (hd.mono hradix).plain

theorem Spells.x_notMem (h : Spells radix cs n) (hradix : radix ≤ 16) : 'x' ∉ cs := by
  intro hx
  exact (h.plain_of_mem hradix hx).ne_x rfl

end Numeral

end BondedRelay
