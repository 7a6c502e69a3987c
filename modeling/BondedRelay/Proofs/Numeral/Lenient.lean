import BondedRelay.Proofs.Numeral.Spelling

namespace BondedRelay

namespace Text

variable {cs t l r : List Char}

def Padded (cs t : List Char) : Prop :=
  ∃ l r, cs = l ++ (t ++ r) ∧ (∀ c ∈ l, isBlank c = true) ∧ ∀ c ∈ r, isBlank c = true

theorem padded_refl (t : List Char) : Padded t t :=
  ⟨[], [], by simp, by simp, by simp⟩

theorem padded_trimmed (cs : List Char) : Padded cs (trimmed cs) := by
  let rest := cs.dropWhile isBlank
  refine ⟨cs.takeWhile isBlank, (rest.reverse.takeWhile isBlank).reverse, ?_, ?_, ?_⟩
  · have hrest : trimmed cs ++ (rest.reverse.takeWhile isBlank).reverse = rest := by
      rw [trimmed, ← List.reverse_append, List.takeWhile_append_dropWhile, List.reverse_reverse]
    rw [hrest, List.takeWhile_append_dropWhile]
  · exact List.all_eq_true.1 List.all_takeWhile
  · intro c hc
    exact List.all_eq_true.1 List.all_takeWhile c (List.mem_reverse.1 hc)

theorem dropWhile_blanks (hl : ∀ c ∈ l, isBlank c = true) (ht : ∀ c ∈ t, isBlank c = false)
    (hsome : t ≠ []) : (l ++ (t ++ r)).dropWhile isBlank = t ++ r := by
  obtain ⟨c, rest, rfl⟩ := List.exists_cons_of_ne_nil hsome
  rw [List.dropWhile_append_of_pos hl, List.cons_append, List.dropWhile_cons_of_neg]
  simpa using ht c List.mem_cons_self

theorem trimmed_of_padded (h : Padded cs t) (ht : ∀ c ∈ t, isBlank c = false) (hsome : t ≠ []) :
    trimmed cs = t := by
  obtain ⟨l, r, rfl, hl, hr⟩ := h
  have hfront := dropWhile_blanks (r := r) hl ht hsome
  have hback := dropWhile_blanks (l := r.reverse) (t := t.reverse) (r := [])
    (by simpa using hr) (by simpa using ht) (by simpa using hsome)
  rw [List.append_nil] at hback
  rw [trimmed, hfront, List.reverse_append, hback, List.reverse_reverse]

theorem eq_of_padded (h : Padded cs t) (hcs : ∀ c ∈ cs, isBlank c = false) : cs = t := by
  obtain ⟨l, r, rfl, hl, hr⟩ := h
  have hfront : l = [] := List.eq_nil_iff_forall_not_mem.2 fun c hc => by
    have := hl c hc
    simp [hcs c (by simp [hc])] at this
  have hback : r = [] := List.eq_nil_iff_forall_not_mem.2 fun c hc => by
    have := hr c hc
    simp [hcs c (by simp [hc])] at this
  simp [hfront, hback]

end Text

namespace Numeral

variable {radix n w v : Nat} {c : Char} {cs ds : List Char} {s : String} {u : Uint w}

inductive SignedText (radix : Nat) : List Char → Nat → Prop
  | bare {ds : List Char} {n : Nat} (hsome : ds ≠ []) (h : Spells radix ds n) :
      SignedText radix ds n
  | plus {ds : List Char} {n : Nat} (hsome : ds ≠ []) (h : Spells radix ds n) :
      SignedText radix ('+' :: ds) n

inductive LenientText : List Char → Nat → Prop
  | mark {x : Char} (hx : x = 'x' ∨ x = 'X') : LenientText ['0', x] 0
  | hexadecimal {x : Char} {ds : List Char} {n : Nat} (hx : x = 'x' ∨ x = 'X')
      (h : SignedText 16 ds n) : LenientText ('0' :: x :: ds) n
  | decimal {ds : List Char} {n : Nat} (h : SignedText 10 ds n) : LenientText ds n

theorem SignedText.ne_nil (h : SignedText radix cs n) : cs ≠ [] := by
  cases h with
  | bare hsome => exact hsome
  | plus => exact List.cons_ne_nil _ _

theorem SignedText.plain_of_mem (h : SignedText radix cs n) (hradix : radix ≤ 16) (hc : c ∈ cs) :
    c = '+' ∨ Plain c := by
  cases h with
  | bare _ h => exact .inr (h.plain_of_mem hradix hc)
  | plus _ h =>
      rcases List.mem_cons.1 hc with rfl | hc
      · exact .inl rfl
      · exact .inr (h.plain_of_mem hradix hc)

theorem SignedText.not_blank (h : SignedText radix cs n) (hradix : radix ≤ 16) (hc : c ∈ cs) :
    Text.isBlank c = false := by
  rcases h.plain_of_mem hradix hc with rfl | hplain
  · decide
  · exact hplain.not_blank

theorem SignedText.x_notMem (h : SignedText radix cs n) (hradix : radix ≤ 16) : 'x' ∉ cs := by
  intro hx
  rcases h.plain_of_mem hradix hx with hplus | hplain
  · cases hplus
  · exact hplain.ne_x rfl

theorem SignedText.X_notMem (h : SignedText radix cs n) (hradix : radix ≤ 16) : 'X' ∉ cs := by
  intro hX
  rcases h.plain_of_mem hradix hX with hplus | hplain
  · cases hplus
  · exact hplain.ne_X rfl

theorem LenientText.ne_nil (h : LenientText cs n) : cs ≠ [] := by
  cases h with
  | mark => exact List.cons_ne_nil _ _
  | hexadecimal => exact List.cons_ne_nil _ _
  | decimal h => exact h.ne_nil

theorem LenientText.not_blank (h : LenientText cs n) : ∀ c ∈ cs, Text.isBlank c = false := by
  have hmarked {x : Char} {ds : List Char} (hx : x = 'x' ∨ x = 'X')
      (h : ∀ c ∈ ds, Text.isBlank c = false) : ∀ c ∈ '0' :: x :: ds, Text.isBlank c = false := by
    have hx : Text.isBlank x = false := by
      rcases hx with rfl | rfl
      · decide
      · decide
    exact List.forall_mem_cons.2 ⟨by decide, List.forall_mem_cons.2 ⟨hx, h⟩⟩
  cases h with
  | mark hx => exact hmarked hx fun c hc => absurd hc List.not_mem_nil
  | hexadecimal hx h => exact hmarked hx fun c hc => h.not_blank (by decide) hc
  | decimal h => exact fun c hc => h.not_blank (by decide) hc

theorem signed?_eq_some_iff {read : List Char → Option Nat} (hradix : radix ≤ 16)
    (hread : ∀ ds n, read ds = some n ↔ Spells radix ds n) :
    signed? read cs = some n ↔ SignedText radix cs n := by
  have hsome {ds : List Char} : (if ds.isEmpty then none else read ds) = some n ↔
      ds ≠ [] ∧ Spells radix ds n := by
    simp [hread]
  constructor
  · intro h
    unfold signed? at h
    split at h
    · obtain ⟨hds, hspells⟩ := hsome.1 h
      exact .plus hds hspells
    · obtain ⟨hds, hspells⟩ := hsome.1 h
      exact .bare hds hspells
  · intro h
    unfold signed?
    cases h with
    | bare hds hspells =>
        split
        · exact absurd rfl (hspells.plain_of_mem hradix List.mem_cons_self).ne_plus
        · exact hsome.2 ⟨hds, hspells⟩
    | plus hds hspells => exact hsome.2 ⟨hds, hspells⟩

def markedValue? (rest : List Char) : Option Nat :=
  if rest.isEmpty then some 0 else signed? hexadecimal? rest

def lenientValue? : List Char → Option Nat
  | '0' :: 'x' :: rest => markedValue? rest
  | '0' :: 'X' :: rest => markedValue? rest
  | cs => signed? decimal? cs

theorem lenient?_eq (w : Nat) (s : String) :
    lenient? w s = (lenientValue? (Text.trimmed s.toList)).bind Uint.ofNat? := rfl

theorem lenientText_of_markedValue? {x : Char} (hx : x = 'x' ∨ x = 'X')
    (h : markedValue? ds = some n) : LenientText ('0' :: x :: ds) n := by
  unfold markedValue? at h
  split at h
  · next hnil =>
      obtain rfl := List.isEmpty_iff.1 hnil
      obtain rfl := Option.some.inj h
      exact .mark hx
  · exact .hexadecimal hx
      ((signed?_eq_some_iff (by decide) fun _ _ => hexadecimal?_eq_some_iff).1 h)

theorem lenientValue?_eq_some_iff : lenientValue? cs = some n ↔ LenientText cs n := by
  constructor
  · intro h
    unfold lenientValue? at h
    split at h
    · exact lenientText_of_markedValue? (.inl rfl) h
    · exact lenientText_of_markedValue? (.inr rfl) h
    · exact .decimal ((signed?_eq_some_iff (by decide) fun _ _ => decimal?_eq_some_iff).1 h)
  · intro h
    cases h with
    | mark hx =>
        rcases hx with rfl | rfl
        · rfl
        · rfl
    | @hexadecimal x ds _ hx h =>
        have hmarked : markedValue? ds = some n := by
          rw [markedValue?, if_neg (by simpa using h.ne_nil)]
          exact (signed?_eq_some_iff (by decide) fun _ _ => hexadecimal?_eq_some_iff).2 h
        rcases hx with rfl | rfl
        · exact hmarked
        · exact hmarked
    | decimal h =>
        unfold lenientValue?
        split
        · exact absurd (by simp) (h.x_notMem (by decide))
        · exact absurd (by simp) (h.X_notMem (by decide))
        · exact (signed?_eq_some_iff (by decide) fun _ _ => decimal?_eq_some_iff).2 h

theorem lenient?_eq_some_iff :
    lenient? w s = some u ↔ ∃ t, Text.Padded s.toList t ∧ LenientText t u.toNat := by
  rw [lenient?_eq, Uint.bind_ofNat?_eq_some_iff, lenientValue?_eq_some_iff]
  constructor
  · intro h
    exact ⟨_, Text.padded_trimmed s.toList, h⟩
  · rintro ⟨t, hpadded, h⟩
    rwa [Text.trimmed_of_padded hpadded h.not_blank h.ne_nil]

theorem lenientText_decimal (n : Nat) : LenientText (Nat.toDigits 10 n) n :=
  .decimal (.bare Nat.toDigits_ne_nil (spells_decimal n))

theorem lenientText_hexadecimal {x : Char} {ds : List Char} (hx : x = 'x' ∨ x = 'X')
    (hcase : InEitherCase ds (Nat.toDigits 16 n)) : LenientText ('0' :: x :: ds) n := by
  have hsome : ds ≠ [] := by
    intro hnil
    have hlength := hcase.length_eq
    rw [hnil] at hlength
    exact Nat.toDigits_ne_nil (List.length_eq_zero_iff.1 hlength.symm)
  exact .hexadecimal hx (.bare hsome ((spells_hexadecimal n).inEitherCase hcase))

end Numeral

end BondedRelay
