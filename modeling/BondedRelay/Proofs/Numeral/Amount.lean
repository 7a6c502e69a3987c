import BondedRelay.Proofs.Numeral.Spelling

namespace BondedRelay.Numeral

variable {n m : Nat} {s : String} {cs ds : List Char} {v : Amount}

inductive AmountText : List Char → Nat → Prop
  | decimal {ds : List Char} {n : Nat} (hsome : ds ≠ []) (h : Spells 10 ds n) : AmountText ds n
  | hexadecimal {ds : List Char} {n : Nat} (hlength : ds.length ≤ 64) (h : Spells 16 ds n) :
      AmountText ('0' :: 'x' :: ds) n

inductive StrayText : List Char → Nat → Prop
  | empty : StrayText [] 0
  | remarked {ds : List Char} {n : Nat} (hlength : ds.length ≤ 64) (h : Spells 16 ds n) :
      StrayText ('0' :: 'x' :: '0' :: 'x' :: ds) n

theorem StrayText.eq_nil_or_marked (h : StrayText cs n) :
    cs = [] ∨ ['0', 'x', '0', 'x'] <+: cs := by
  cases h with
  | empty => exact .inl rfl
  | remarked => exact .inr (by simp)

theorem StrayText.not_amountText (h : StrayText cs n) : ¬ AmountText cs m := by
  intro hamount
  cases h with
  | empty =>
      cases hamount with
      | decimal hsome _ => exact hsome rfl
  | remarked =>
      cases hamount with
      | decimal _ hdigits => exact hdigits.x_notMem (by decide) (by simp)
      | hexadecimal _ hdigits => exact hdigits.x_notMem (by decide) (by simp)

def amountValue? : List Char → Option Nat
  | '0' :: 'x' :: rest =>
      if (Hex.unmarked rest).length ≤ 64 then hexadecimal? (Hex.unmarked rest) else none
  | cs => decimal? cs

theorem amount?_eq (s : String) : amount? s = (amountValue? s.toList).bind Uint.ofNat? := by
  unfold amount?
  split
  · next rest hs =>
      rw [hs, amountValue?]
      dsimp only
      split
      · rfl
      · rfl
  · next hs =>
      rw [amountValue?]
      exact hs

theorem amountValue?_of_notMem (h : 'x' ∉ cs) : amountValue? cs = decimal? cs := by
  unfold amountValue?
  split
  · simp at h
  · rfl

theorem unmarked_cases (cs : List Char) :
    Hex.unmarked cs = cs ∨ cs = '0' :: 'x' :: Hex.unmarked cs := by
  unfold Hex.unmarked
  split
  · exact .inr rfl
  · exact .inl rfl

theorem amountValue?_eq_some_iff :
    amountValue? cs = some n ↔ AmountText cs n ∨ StrayText cs n := by
  constructor
  · intro h
    unfold amountValue? at h
    split at h
    · next rest =>
        split at h
        · next hlength =>
            have hdigits := hexadecimal?_eq_some_iff.1 h
            rcases unmarked_cases rest with hplain | hmarked
            · rw [hplain] at hlength hdigits
              exact .inl (.hexadecimal hlength hdigits)
            · rw [hmarked]
              exact .inr (.remarked hlength hdigits)
        · cases h
    · have hdigits := decimal?_eq_some_iff.1 h
      by_cases hsome : cs = []
      · subst hsome
        obtain rfl := spells_nil_iff.1 hdigits
        exact .inr .empty
      · exact .inl (.decimal hsome hdigits)
  · rintro ((⟨-, hdigits⟩ | ⟨hlength, hdigits⟩) | (_ | ⟨hlength, hdigits⟩))
    · rw [amountValue?_of_notMem (hdigits.x_notMem (by decide))]
      exact decimal?_eq_some_iff.2 hdigits
    · have hplain := unmarked_of_notMem (hdigits.x_notMem (by decide))
      rw [amountValue?, hplain, if_pos hlength]
      exact hexadecimal?_eq_some_iff.2 hdigits
    · rfl
    · rw [amountValue?, Hex.unmarked, if_pos hlength]
      exact hexadecimal?_eq_some_iff.2 hdigits

theorem amount?_eq_some_iff :
    amount? s = some v ↔ AmountText s.toList v.toNat ∨ StrayText s.toList v.toNat := by
  rw [amount?_eq, Uint.bind_ofNat?_eq_some_iff, amountValue?_eq_some_iff]

theorem plain_of_read (h : AmountText cs n ∨ StrayText cs n) : ∀ c ∈ cs, c = 'x' ∨ Plain c := by
  have hdigits {radix n : Nat} {ds : List Char} (hradix : radix ≤ 16) (h : Spells radix ds n) :
      ∀ c ∈ ds, c = 'x' ∨ Plain c := fun c hc => .inr (h.plain_of_mem hradix hc)
  have hmarked {ds : List Char} (h : ∀ c ∈ ds, c = 'x' ∨ Plain c) :
      ∀ c ∈ '0' :: 'x' :: ds, c = 'x' ∨ Plain c :=
    List.forall_mem_cons.2 ⟨.inr (by decide), List.forall_mem_cons.2 ⟨.inl rfl, h⟩⟩
  rcases h with (⟨-, h⟩ | ⟨-, h⟩) | (_ | ⟨-, h⟩)
  · exact hdigits (by decide) h
  · exact hmarked (hdigits (by decide) h)
  · exact fun c hc => absurd hc List.not_mem_nil
  · exact hmarked (hmarked (hdigits (by decide) h))

theorem bare_of_read (h : AmountText cs n ∨ StrayText cs n) :
    ∀ c ∈ cs, Text.isBlank c = false ∧ c ≠ '+' ∧ c ≠ '-' ∧ c ≠ 'X' := by
  intro c hc
  rcases plain_of_read h c hc with rfl | hplain
  · decide
  · exact ⟨hplain.not_blank, hplain.ne_plus, hplain.ne_minus, hplain.ne_X⟩

theorem amountText_decimal (v : Amount) : AmountText (Nat.toDigits 10 v.toNat) v.toNat :=
  .decimal Nat.toDigits_ne_nil (spells_decimal v.toNat)

theorem amountText_hexadecimal (h : InEitherCase ds (Nat.toDigits 16 v.toNat)) :
    AmountText ('0' :: 'x' :: ds) v.toNat :=
  .hexadecimal (h.length_eq ▸ length_toDigits_le v) ((spells_hexadecimal v.toNat).inEitherCase h)

theorem amounts_read_as_written_or_stray (s : String) :
    (∀ n, (∃ v, amount? s = some v ∧ v.toNat = n) ↔
        n < Uint.limit 256 ∧ (AmountText s.toList n ∨ StrayText s.toList n)) ∧
      (∀ n m, StrayText s.toList n → ¬ AmountText s.toList m) ∧
      (∀ v, amount? s = some v → ∀ c ∈ s.toList, Text.isBlank c = false ∧ c ≠ '+' ∧ c ≠ '-') ∧
      ∀ v, amount? (String.ofList (Nat.toDigits 10 v.toNat)) = some v ∧
        ∀ ds, InEitherCase ds (Nat.toDigits 16 v.toNat) →
          amount? (String.ofList ('0' :: 'x' :: ds)) = some v := by
  refine ⟨fun n => ⟨?_, ?_⟩, fun n m h => h.not_amountText, fun v h c hc => ?_,
    fun v => ⟨?_, fun ds hcase => ?_⟩⟩
  · rintro ⟨v, hread, rfl⟩
    exact ⟨v.isLt, amount?_eq_some_iff.1 hread⟩
  · rintro ⟨hlt, htext⟩
    exact ⟨⟨n, hlt⟩, amount?_eq_some_iff.2 htext, rfl⟩
  · obtain ⟨hblank, hplus, hminus, -⟩ := bare_of_read (amount?_eq_some_iff.1 h) c hc
    exact ⟨hblank, hplus, hminus⟩
  · rw [amount?_eq_some_iff, String.toList_ofList]
    exact .inl (amountText_decimal v)
  · rw [amount?_eq_some_iff, String.toList_ofList]
    exact .inl (amountText_hexadecimal hcase)

theorem largest_amount_read_in_upper_case :
    let ds := List.replicate 64 'F'
    let s := String.ofList ('0' :: 'x' :: ds)
    InEitherCase ds (Nat.toDigits 16 (Uint.top : Amount).toNat) ∧ amount? s = some .top ∧
      ∀ c ∈ s.toList, Text.isBlank c = false ∧ c ≠ '+' ∧ c ≠ '-' := by
  intro ds s
  have hcase : InEitherCase ds (Nat.toDigits 16 (Uint.top : Amount).toNat) := by
    unfold InEitherCase
    decide +kernel
  obtain ⟨-, -, hplain, hspelled⟩ := amounts_read_as_written_or_stray s
  have hread : amount? s = some .top := (hspelled .top).2 ds hcase
  exact ⟨hcase, hread, hplain .top hread⟩

theorem empty_text_and_doubled_mark_read :
    (amount? "" = some 0 ∧ ∀ n, ¬ AmountText "".toList n) ∧
      amount? "0x0x1" = some 1 ∧ ∀ n, ¬ AmountText "0x0x1".toList n := by
  have hdigits : Spells 16 ['1'] 1 := spells_hexadecimal 1
  have hmarked : StrayText "0x0x1".toList 1 := .remarked (by decide) hdigits
  exact ⟨⟨by decide, fun n => StrayText.empty.not_amountText⟩, by decide,
    fun n => hmarked.not_amountText⟩

end BondedRelay.Numeral
