import BondedRelay.Json.Lenient
import BondedRelay.Proofs.Numeral.Amount
import BondedRelay.Proofs.Numeral.Lenient

namespace BondedRelay

namespace Numeral

variable {n m : Nat} {cs t : List Char}

def Ornate (cs : List Char) : Prop :=
  (∃ c ∈ cs, Text.isBlank c = true ∨ c = '+' ∨ c = 'X') ∨
    ∃ ds, cs = '0' :: 'x' :: ds ∧ 64 < ds.length

theorem amountText_of_lenientText (h : LenientText cs n) (hplain : ¬ Ornate cs) :
    AmountText cs n := by
  have hsigned {radix : Nat} {ds : List Char} (h : SignedText radix ds n) (hplus : '+' ∉ ds) :
      ds ≠ [] ∧ Spells radix ds n := by
    cases h with
    | bare hsome h => exact ⟨hsome, h⟩
    | plus => simp at hplus
  cases h with
  | mark hx =>
      rcases hx with rfl | rfl
      · exact .hexadecimal (by simp) (spells_nil_iff.2 rfl)
      · exact absurd (.inl ⟨'X', by simp⟩) hplain
  | @hexadecimal x ds _ hx h =>
      rcases hx with rfl | rfl
      · have hplus : '+' ∉ ds := fun hc => hplain (.inl ⟨'+', by simp [hc]⟩)
        have hlength : ds.length ≤ 64 := Nat.le_of_not_lt fun hlong =>
          hplain (.inr ⟨ds, rfl, hlong⟩)
        exact .hexadecimal hlength (hsigned h hplus).2
      · exact absurd (.inl ⟨'X', by simp⟩) hplain
  | decimal h =>
      have hplus : '+' ∉ cs := fun hc => hplain (.inl ⟨'+', by simp [hc]⟩)
      obtain ⟨hsome, h⟩ := hsigned h hplus
      exact .decimal hsome h

theorem lenientText_of_amountText (h : AmountText cs n) : LenientText cs n := by
  cases h with
  | decimal hsome h => exact .decimal (.bare hsome h)
  | @hexadecimal ds _ hlength h =>
      by_cases hsome : ds = []
      · subst hsome
        obtain rfl := spells_nil_iff.1 h
        exact .mark (.inl rfl)
      · exact .hexadecimal (.inl rfl) (.bare hsome h)

theorem StrayText.not_lenientText (h : StrayText cs m) : ¬ LenientText cs n := by
  intro hlenient
  cases h with
  | empty => exact hlenient.ne_nil rfl
  | remarked =>
      cases hlenient with
      | hexadecimal _ h => exact h.x_notMem (by decide) (by simp)
      | decimal h => exact h.x_notMem (by decide) (by simp)

theorem AmountText.not_ornate (h : AmountText cs n) : ¬ Ornate cs := by
  rintro (⟨c, hc, hother⟩ | ⟨ds, rfl, hlong⟩)
  · obtain ⟨hblank, hplus, -, hX⟩ := bare_of_read (.inl h) c hc
    rcases hother with hc | hc | hc
    · rw [hblank] at hc
      cases hc
    · exact hplus hc
    · exact hX hc
  · cases h with
    | decimal _ hdigits => exact hdigits.x_notMem (by decide) (by simp)
    | hexadecimal hlength => exact Nat.not_lt_of_le hlength hlong

theorem not_read_of_ornate (hpadded : Text.Padded cs t) (h : LenientText t n)
    (hornate : Ornate cs) : ¬ (AmountText cs m ∨ StrayText cs m) := by
  intro hread
  obtain rfl : cs = t := Text.eq_of_padded hpadded fun c hc => (bare_of_read hread c hc).1
  rcases hread with hamount | hstray
  · exact hamount.not_ornate hornate
  · exact hstray.not_lenientText h

end Numeral

namespace Json

open Numeral

variable {w : Nat} {v : Json} {s : String} {u : Uint w} {a : Amount}

theorem numberWith_eq_ok_iff {α : Type} {expected : String} {ofNat : Nat → Option α}
    {ofText : String → Option α} {x : α} :
    numberWith expected ofNat ofText v = .ok x ↔
      (∃ k, v = .nat k ∧ ofNat k.toNat = some x) ∨ ∃ s, v = .string s ∧ ofText s = some x := by
  cases v with
  | nat k =>
      simp only [numberWith]
      cases h : ofNat k.toNat <;> simp [h]
  | string s =>
      simp only [numberWith]
      cases h : ofText s <;> simp [h]
  | _ => simp [numberWith]

theorem lenientUint_eq_ok_iff :
    lenientUint w v = .ok u ↔
      (∃ k, v = .nat k ∧ k.toNat = u.toNat) ∨
        ∃ s, v = .string s ∧ ∃ t, Text.Padded s.toList t ∧ LenientText t u.toNat := by
  simp only [lenientUint, numberWith_eq_ok_iff, Uint.ofNat?_eq_some_iff, lenient?_eq_some_iff]

theorem lenientUint_string :
    lenientUint w (.string s) = .ok u ↔
      ∃ t, Text.Padded s.toList t ∧ LenientText t u.toNat := by
  simp [lenientUint_eq_ok_iff]

theorem lenientAmount_eq_ok_iff :
    lenientAmount v = .ok a ↔
      (∃ k, v = .nat k ∧ k.toNat = a.toNat) ∨
        ∃ s, v = .string s ∧ (AmountText s.toList a.toNat ∨ StrayText s.toList a.toNat) := by
  simp only [lenientAmount, numberWith_eq_ok_iff, Uint.ofNat?_eq_some_iff, amount?_eq_some_iff]

theorem lenient_texts_read_exactly (w : Nat) (s : String) :
    (∀ n, (∃ u : Uint w, lenientUint w (.string s) = .ok u ∧ u.toNat = n) ↔
        n < Uint.limit w ∧ ∃ t, Text.Padded s.toList t ∧ LenientText t n) ∧
      (∀ u : Uint w, Text.Padded s.toList (Nat.toDigits 10 u.toNat) →
        lenientUint w (.string s) = .ok u) ∧
      (∀ (u : Uint w) x ds, x = 'x' ∨ x = 'X' → InEitherCase ds (Nat.toDigits 16 u.toNat) →
        Text.Padded s.toList ('0' :: x :: ds) → lenientUint w (.string s) = .ok u) ∧
      ∀ (u : Uint w) w', lenientUint w (.string s) = .ok u → w ≤ w' →
        ∃ u' : Uint w', lenientUint w' (.string s) = .ok u' ∧ u'.toNat = u.toNat := by
  refine ⟨fun n => ⟨?_, ?_⟩, fun u hpadded => ?_, fun u x ds hx hcase hpadded => ?_,
    fun u w' hread hle => ?_⟩
  · rintro ⟨u, hread, rfl⟩
    exact ⟨u.isLt, lenientUint_string.1 hread⟩
  · rintro ⟨hlt, htext⟩
    exact ⟨⟨n, hlt⟩, lenientUint_string.2 htext, rfl⟩
  · exact lenientUint_string.2 ⟨_, hpadded, lenientText_decimal u.toNat⟩
  · exact lenientUint_string.2 ⟨_, hpadded, lenientText_hexadecimal hx hcase⟩
  · have hlt : u.toNat < Uint.limit w' := Nat.lt_of_lt_of_le u.isLt (Uint.limit_le_limit hle)
    have htext := lenientUint_string.1 hread
    exact ⟨⟨u.toNat, hlt⟩, lenientUint_string.2 htext, rfl⟩

theorem padded_numbers_read :
    let ds := ['f', 'F']
    let s := "\u3000 0X" ++ String.ofList ds ++ "\n"
    InEitherCase ds (Nat.toDigits 16 255) ∧ Text.Padded s.toList ('0' :: 'X' :: ds) ∧
      lenientUint 8 (.string s) = .ok 255 ∧
      ∃ u : Uint 128, lenientUint 128 (.string s) = .ok u ∧ u.toNat = 255 := by
  intro ds s
  have hcase : InEitherCase ds (Nat.toDigits 16 255) := by
    unfold InEitherCase
    decide +kernel
  have hpadded : Text.Padded s.toList ('0' :: 'X' :: ds) :=
    ⟨['\u3000', ' '], ['\n'], by decide +kernel, List.all_eq_true.1 (by decide),
      List.all_eq_true.1 (by decide)⟩
  obtain ⟨-, -, hspelled, hwider⟩ := lenient_texts_read_exactly 8 s
  have hread : lenientUint 8 (.string s) = .ok 255 := hspelled 255 'X' ds (.inr rfl) hcase hpadded
  exact ⟨hcase, hpadded, hread, hwider 255 128 hread (by decide)⟩

theorem lenient_readers_agree_on_plain_texts (v : Json) :
    (∀ n : Uint 128, lenientUint 128 v = .ok n →
        ((∀ s, v = .string s → ¬ Ornate s.toList) →
          ∃ a, lenientAmount v = .ok a ∧ a.toNat = n.toNat) ∧
        ∀ s, v = .string s → Ornate s.toList → ∃ e, lenientAmount v = .error e) ∧
      ∀ a, lenientAmount v = .ok a → a.toNat < Uint.limit 128 →
        (∀ s, v = .string s → s.toList ≠ [] ∧ ¬ ['0', 'x', '0', 'x'] <+: s.toList) →
        ∃ n : Uint 128, lenientUint 128 v = .ok n ∧ n.toNat = a.toNat := by
  refine ⟨fun n hread => ⟨fun hplain => ?_, ?_⟩, fun a hread hlt hwritten => ?_⟩
  · have hfits : n.toNat < Uint.limit 256 :=
      Nat.lt_of_lt_of_le n.isLt (Uint.limit_le_limit (by decide))
    refine ⟨⟨n.toNat, hfits⟩, lenientAmount_eq_ok_iff.2 ?_, rfl⟩
    rcases lenientUint_eq_ok_iff.1 hread with hwhole | ⟨s, rfl, t, hpadded, htext⟩
    · exact .inl hwhole
    · have hs := hplain s rfl
      have hblank : ∀ c ∈ s.toList, Text.isBlank c = false := fun c hc =>
        Bool.eq_false_iff.2 fun hc' => hs (.inl ⟨c, hc, .inl hc'⟩)
      obtain rfl := Text.eq_of_padded hpadded hblank
      exact .inr ⟨s, rfl, .inl (amountText_of_lenientText htext hs)⟩
  · rintro s rfl hornate
    obtain ⟨t, hpadded, htext⟩ := lenientUint_string.1 hread
    cases hamount : lenientAmount (.string s) with
    | error e => exact ⟨e, rfl⟩
    | ok a =>
        rcases lenientAmount_eq_ok_iff.1 hamount with ⟨k, hk, -⟩ | ⟨s', hs', hread'⟩
        · cases hk
        · cases hs'
          exact absurd hread' (not_read_of_ornate hpadded htext hornate)
  · refine ⟨⟨a.toNat, hlt⟩, lenientUint_eq_ok_iff.2 ?_, rfl⟩
    rcases lenientAmount_eq_ok_iff.1 hread with hwhole | ⟨s, rfl, hamount | hstray⟩
    · exact .inl hwhole
    · exact .inr ⟨s, rfl, _, Text.padded_refl _, lenientText_of_amountText hamount⟩
    · obtain ⟨hsome, hmark⟩ := hwritten s rfl
      exact absurd hstray.eq_nil_or_marked (not_or.2 ⟨hsome, hmark⟩)

theorem text_with_zeros_read_by_both :
    let v : Json := .string "0x00fF"
    (lenientUint 128 v = .ok 255 ∧ ∃ a, lenientAmount v = .ok a ∧ a.toNat = 255) ∧
      lenientAmount v = .ok 255 ∧ ∃ n : Uint 128, lenientUint 128 v = .ok n ∧ n.toNat = 255 := by
  intro v
  have hdigits : Spells 16 ['0', '0', 'f', 'F'] 255 := hexadecimal?_eq_some_iff.1 (by decide)
  have htext : AmountText "0x00fF".toList 255 := .hexadecimal (by decide) hdigits
  have hnumber : lenientUint 128 v = .ok 255 := by decide +kernel
  have hamount : lenientAmount v = .ok 255 := by decide +kernel
  obtain ⟨hfrom, hto⟩ := lenient_readers_agree_on_plain_texts v
  refine ⟨⟨hnumber, (hfrom 255 hnumber).1 fun s hs => ?_⟩, hamount,
    hto 255 hamount (by decide) fun s hs => ?_⟩
  · obtain rfl := Json.string.inj hs
    exact htext.not_ornate
  · obtain rfl := Json.string.inj hs
    decide +kernel

theorem ornate_number_is_no_amount :
    lenientUint 128 (.string " 0X5 ") = .ok 5 ∧ ∀ a, lenientAmount (.string " 0X5 ") ≠ .ok a := by
  have hrefused : (lenientAmount (.string " 0X5 ")).toOption = none := by decide +kernel
  refine ⟨by decide +kernel, fun a ha => ?_⟩
  rw [ha] at hrefused
  cases hrefused

end Json

end BondedRelay
