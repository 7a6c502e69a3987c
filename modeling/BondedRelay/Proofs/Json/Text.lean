import BondedRelay.Json.Document
import BondedRelay.Json.Writer
import BondedRelay.Proofs.Numeral

namespace BondedRelay.Json

mutual

def isExact : Json → Bool
  | .negative magnitude => 1 ≤ magnitude && magnitude ≤ 0x8000000000000000
  | .float _ => false
  | .unreadable => false
  | .array items => areExact items
  | .object fields => haveExact fields
  | _ => true

def areExact : List Json → Bool
  | [] => true
  | v :: rest => v.isExact && areExact rest

def haveExact : List (String × Json) → Bool
  | [] => true
  | (_, v) :: rest => v.isExact && haveExact rest

end

theorem areExact_eq_all (vs : List Json) : areExact vs = vs.all isExact := by
  induction vs with
  | nil => rfl
  | cons v rest ih => simp [areExact, ih]

theorem haveExact_eq_all (fields : List (String × Json)) :
    haveExact fields = fields.all fun f => f.2.isExact := by
  induction fields with
  | nil => rfl
  | cons f rest ih => simp [haveExact, ih]

theorem unit?_of_lt {n : Nat} (h : n < 0x100) :
    unit? '0' '0' (Hex.digitChar (n / 16)) (Hex.digitChar (n % 16)) = some n := by
  have hzero : Hex.digit? '0' = some 0 := by decide
  have hhigh : n / 16 < 16 := by omega
  have hlow : n % 16 < 16 := Nat.mod_lt n (by decide)
  simp [unit?, hzero, Hex.digit?_digitChar hhigh, Hex.digit?_digitChar hlow, Nat.div_add_mod']

theorem readString_control {c : Char} (h : c.toNat < 0x20) (acc rest : List Char) :
    readString (some acc) ('\\' :: 'u' :: '0' :: '0' :: Hex.digitChar (c.toNat / 16) ::
      Hex.digitChar (c.toNat % 16) :: rest) = readString (some (c :: acc)) rest := by
  have hhigh : isHighSurrogate c.toNat = false := by
    rw [isHighSurrogate, Bool.and_eq_false_iff]
    exact .inl (decide_eq_false (by omega))
  have hlow : isLowSurrogate c.toNat = false := by
    rw [isLowSurrogate, Bool.and_eq_false_iff]
    exact .inl (decide_eq_false (by omega))
  rw [readString, unit?_of_lt (by omega)]
  simp [hhigh, hlow, Char.ofNat_toNat]

theorem readString_plain {c : Char} (hquote : c ≠ '"') (hslash : c ≠ '\\')
    (hcontrol : ¬ c.toNat < 0x20) (acc rest : List Char) :
    readString (some acc) (c :: rest) = readString (some (c :: acc)) rest := by
  rw [readString]
  · simp [hslash, hcontrol]
  · exact hquote
  · exact fun _ _ _ _ _ h => absurd h hslash
  · exact fun _ _ h => absurd h hslash

theorem readString_escaped (c : Char) (acc rest : List Char) :
    readString (some acc) (escaped c ++ rest) = readString (some (c :: acc)) rest := by
  unfold escaped
  split
  · simp [readString, shortEscape?]
  · simp [readString, shortEscape?]
  · simp [readString, shortEscape?]
  · simp [readString, shortEscape?]
  · simp [readString, shortEscape?]
  · simp [readString, shortEscape?]
  · simp [readString, shortEscape?]
  · next hquote hslash _ _ _ _ _ =>
      split
      · next hcontrol => exact readString_control hcontrol acc rest
      · next hcontrol => exact readString_plain hquote hslash hcontrol acc rest

theorem readString_flatMap (cs acc rest : List Char) :
    readString (some acc) (cs.flatMap escaped ++ '"' :: rest) =
      some (some (String.ofList (acc.reverse ++ cs)), rest) := by
  induction cs generalizing acc with
  | nil => simp [readString]
  | cons c cs ih =>
      rw [List.flatMap_cons, List.append_assoc, readString_escaped, ih]
      simp

theorem readString_write (s : String) (rest : List Char) :
    readString (some []) (s.toList.flatMap escaped ++ '"' :: rest) = some (some s, rest) := by
  simp [readString_flatMap]

def Ends (rest : List Char) : Prop :=
  ∀ c ∈ rest.head?, isDigit c = false ∧ c ≠ '.' ∧ c ≠ 'e' ∧ c ≠ 'E'

namespace NumberText

open Numeral

theorem gather_eq {significand n : Nat} {ds : List Char}
    (h : readFrom decimalDigit? 10 significand ds = some n) (hn : n < Uint.limit 64) :
    gather significand ds = (n, []) := by
  induction ds generalizing significand with
  | nil => simp [gather, Option.some.inj h]
  | cons c rest ih =>
      unfold readFrom at h
      split at h
      · next d hd =>
          have hnat : natOf [c] = d := by simp [natOf, decimal?, readFrom, hd]
          have hle : significand * 10 + d ≤ n := le_of_readFrom (by decide) h
          have hlt : 10 * significand + d < Uint.limit 64 := by omega
          rw [gather, hnat]
          simp only [hlt, if_true]
          exact ih (Nat.mul_comm 10 significand ▸ h)
      · simp at h

theorem nearest_le (n : Nat) (hn : n ≠ 0) : Magnitude.nearest n ≤ 2 * n := by
  have hspacing : Magnitude.spacing n ≤ n := by
    have hexponent : n.log2 + 1 - Magnitude.precision ≤ n.log2 := by
      unfold Magnitude.precision
      omega
    rw [Magnitude.spacing, Nat.one_shiftLeft]
    exact Nat.le_trans (Nat.pow_le_pow_right (by decide) hexponent) (Nat.log2_self_le hn)
  have hkept : n / Magnitude.spacing n * Magnitude.spacing n ≤ n := Nat.div_mul_le_self ..
  unfold Magnitude.nearest
  dsimp only
  split
  · rw [Nat.add_mul]
    omega
  · omega

theorem isTooLarge_digits (minus : Bool) {n : Nat} (hn : n < Uint.limit 64) :
    isTooLarge ⟨minus, Nat.toDigits 10 n, [], none⟩ = false := by
  have hscaled : scaled ⟨minus, Nat.toDigits 10 n, [], none⟩ = (n, 0) := by
    simp [scaled, gather_eq (decimal?_toDigits n) hn, gather, shift]
  unfold isTooLarge
  rw [hscaled]
  cases n with
  | zero => rfl
  | succ m =>
      have hnearest : Magnitude.nearest (m + 1) ≤ 2 * (m + 1) := nearest_le _ (Nat.succ_ne_zero m)
      have hone : Magnitude.nearest (Nat.pow 10 0) = 1 := by decide
      have hbound : 2 * Uint.limit 64 ≤ Magnitude.tooLarge := by decide +kernel
      have hsmall : ¬ Magnitude.tooLarge ≤ Magnitude.nearest (m + 1) * 1 := by omega
      show (decide (308 < 0) || decide (Magnitude.tooLarge ≤
        Magnitude.nearest (m + 1) * Magnitude.nearest (Nat.pow 10 0))) = false
      rw [hone, decide_eq_false hsmall]
      rfl

theorem natOf_toDigits (n : Nat) : natOf (Nat.toDigits 10 n) = n := by
  simp [natOf, decimal?_toDigits]

theorem value_nat (n : Uint 64) : value ⟨false, Nat.toDigits 10 n.toNat, [], none⟩ = .nat n := by
  simp [value, isTooLarge_digits false n.isLt, natOf_toDigits]

theorem value_negative {n : Nat} (hpos : 1 ≤ n) (hn : n ≤ 0x8000000000000000) :
    value ⟨true, Nat.toDigits 10 n, [], none⟩ = .negative n := by
  have hlimit : n < Uint.limit 64 := Nat.lt_of_le_of_lt hn (by decide)
  simp [value, isTooLarge_digits true hlimit, natOf_toDigits, hpos, hn]

end NumberText

theorem isDigit_of_mem_toDigits {n : Nat} {c : Char} (h : c ∈ Nat.toDigits 10 n) :
    isDigit c = true :=
  Numeral.isSome_of_readFrom (Numeral.decimal?_toDigits n) c h

theorem readFraction_of_ends {rest : List Char} (h : Ends rest) :
    readFraction rest = some ([], rest) := by
  unfold readFraction
  split
  · simp [Ends] at h
  · rfl

theorem readExponent_of_ends {rest : List Char} (h : Ends rest) :
    readExponent rest = some (none, rest) := by
  cases rest with
  | nil => rfl
  | cons c rest =>
      obtain ⟨-, -, hlower, hupper⟩ := h c rfl
      simp [readExponent, hlower, hupper]

theorem readNumber_toDigits (minus : Bool) (n : Nat) {rest : List Char} (h : Ends rest) :
    readNumber minus (Nat.toDigits 10 n ++ rest) =
      some (⟨minus, Nat.toDigits 10 n, [], none⟩, rest) := by
  have hwhole : (Nat.toDigits 10 n ++ rest).takeWhile isDigit = Nat.toDigits 10 n := by
    rw [List.takeWhile_append_of_pos fun c hc => isDigit_of_mem_toDigits hc]
    cases rest with
    | nil => simp
    | cons c rest => simp [(h c rfl).1]
  have hrest : (Nat.toDigits 10 n ++ rest).dropWhile isDigit = rest := by
    rw [List.dropWhile_append_of_pos fun c hc => isDigit_of_mem_toDigits hc]
    cases rest with
    | nil => rfl
    | cons c rest => simp [(h c rfl).1]
  unfold readNumber
  dsimp only
  rw [hwhole, hrest, readFraction_of_ends h]
  dsimp only
  rw [readExponent_of_ends h]
  split
  · next hnil => exact absurd hnil Nat.toDigits_ne_nil
  · next d ds hzero =>
      -- Only zero itself starts with a zero.
      rcases Nat.eq_zero_or_pos n with rfl | hpos
      · simp at hzero
      · have hhead : (Nat.toDigits 10 n).head? = some '0' := by simp [hzero]
        exact absurd hhead (Numeral.head?_toDigits (by decide) hpos)
  · rfl

theorem skipBlanks_cons {c : Char} (h : Text.isPlainBlank c = false) (rest : List Char) :
    skipBlanks (c :: rest) = c :: rest := by
  simp [skipBlanks, h]

theorem isPlainBlank_of_isDigit {c : Char} (h : isDigit c = true) :
    Text.isPlainBlank c = false := by
  rw [← Bool.not_eq_true]
  intro hblank
  simp only [Text.isPlainBlank, Bool.or_eq_true, decide_eq_true_eq] at hblank
  rcases hblank with ((rfl | rfl) | rfl) | rfl <;> exact absurd h (by decide)

theorem ends_cons {c : Char} (h : c = ',' ∨ c = ']' ∨ c = '\x7d') (rest : List Char) :
    Ends (c :: rest) := by
  intro c' hc'
  obtain rfl : c = c' := by simpa using hc'
  rcases h with rfl | rfl | rfl <;> decide

theorem readValue_string (s : String) (fuel : Nat) (rest : List Char) :
    readValue (fuel + 1) (writeString s ++ rest) = some (.string s, rest) := by
  rw [writeString, List.cons_append, List.append_assoc, List.singleton_append, readValue,
    skipBlanks_cons (by decide)]
  simp [readString_write, ofString]

theorem readValue_number {c : Char} {ds : List Char} (hdigit : isDigit c = true) (fuel : Nat)
    (rest : List Char) :
    readValue (fuel + 1) (c :: ds ++ rest) =
      (readNumber false (c :: ds ++ rest)).map fun read => (read.1.value, read.2) := by
  have hne (c' : Char) (h : isDigit c' = false) : c ≠ c' := by
    rintro rfl
    rw [hdigit] at h
    cases h
  rw [List.cons_append, readValue, skipBlanks_cons (isPlainBlank_of_isDigit hdigit)]
  simp [hne '"' (by decide), hne '[' (by decide), hne '\x7b' (by decide), hne 'n' (by decide),
    hne 't' (by decide), hne 'f' (by decide), hne '-' (by decide)]

theorem readValue_nat (n : Uint 64) (fuel : Nat) {rest : List Char} (h : Ends rest) :
    readValue (fuel + 1) (Nat.toDigits 10 n.toNat ++ rest) = some (.nat n, rest) := by
  have hread := readNumber_toDigits false n.toNat h
  have hdigits (c : Char) (hc : c ∈ Nat.toDigits 10 n.toNat) := isDigit_of_mem_toDigits hc
  have hvalue := NumberText.value_nat n
  cases hn : Nat.toDigits 10 n.toNat with
  | nil => exact absurd hn Nat.toDigits_ne_nil
  | cons c ds =>
      rw [hn] at hread hvalue hdigits
      rw [readValue_number (hdigits c (by simp)), hread, Option.map_some, hvalue]

theorem readValue_negative {n : Nat} (hpos : 1 ≤ n) (hn : n ≤ 0x8000000000000000) (fuel : Nat)
    {rest : List Char} (h : Ends rest) :
    readValue (fuel + 1) ('-' :: (Nat.toDigits 10 n ++ rest)) = some (.negative n, rest) := by
  rw [readValue, skipBlanks_cons (by decide)]
  simp [readNumber_toDigits true n h, NumberText.value_negative hpos hn]

theorem exists_write_eq_cons {v : Json} (h : v.isExact = true) :
    ∃ c cs, v.write = c :: cs ∧ Text.isPlainBlank c = false ∧ c ≠ ']' := by
  cases v with
  | null => exact ⟨'n', _, rfl, by decide⟩
  | bool b => cases b <;> exact ⟨_, _, rfl, by decide⟩
  | nat n =>
      rw [write]
      cases hn : Nat.toDigits 10 n.toNat with
      | nil => exact absurd hn Nat.toDigits_ne_nil
      | cons c ds =>
          have hdigit : isDigit c = true := isDigit_of_mem_toDigits (n := n.toNat) (by simp [hn])
          refine ⟨c, ds, rfl, isPlainBlank_of_isDigit hdigit, ?_⟩
          rintro rfl
          cases hdigit
  | negative n => exact ⟨'-', _, rfl, by decide⟩
  | float literal => cases h
  | string s => exact ⟨'"', _, rfl, by decide⟩
  | array items => exact ⟨'[', _, rfl, by decide⟩
  | object fields => exact ⟨'\x7b', _, rfl, by decide⟩
  | unreadable => cases h

theorem ofFields_some (fields : List (String × Json)) :
    ofFields (fields.map fun f => (some f.1, f.2)) = .object fields := by
  have hnamed : (fields.map fun f => (some f.1, f.2)).mapM
      (fun f : Option String × Json => f.1.map fun name => (name, f.2)) = some fields := by
    induction fields with
    | nil => rfl
    | cons f rest ih => simp [ih]
  rw [ofFields, hnamed]

theorem writeItems_cons_cons (v w : Json) (ws : List Json) :
    writeItems (v :: w :: ws) = v.write ++ ',' :: writeItems (w :: ws) := by
  simp [writeItems]

theorem writeFields_cons_cons (name : String) (v : Json) (f : String × Json)
    (fs : List (String × Json)) :
    writeFields ((name, v) :: f :: fs) =
      writeString name ++ ':' :: (v.write ++ ',' :: writeFields (f :: fs)) := by
  simp [writeFields]

theorem exists_writeItems_eq_cons {v : Json} (h : v.isExact = true) (vs : List Json) :
    ∃ c cs, writeItems (v :: vs) = c :: cs ∧ Text.isPlainBlank c = false ∧ c ≠ ']' := by
  obtain ⟨c, cs, hwrite, hc⟩ := exists_write_eq_cons h
  cases vs with
  | nil => exact ⟨c, cs, hwrite, hc⟩
  | cons w ws => exact ⟨c, cs ++ ',' :: writeItems (w :: ws), by simp [writeItems, hwrite], hc⟩

theorem exists_writeFields_eq_cons (f : String × Json) (fs : List (String × Json)) :
    ∃ cs, writeFields (f :: fs) = '"' :: cs := by
  cases fs with
  | nil => exact ⟨_, rfl⟩
  | cons g gs => exact ⟨_, rfl⟩

theorem length_write_pos {v : Json} (h : v.isExact = true) : 0 < v.write.length := by
  obtain ⟨c, cs, hwrite, -⟩ := exists_write_eq_cons h
  simp [hwrite]

-- The fuel of a reader is spent on the depth of a document and on the places in its lists, and each
-- of them takes up a character of the text.
structure ReadsBack (fuel : Nat) : Prop where
  value : ∀ (v : Json) (rest : List Char), v.isExact = true → 2 * v.write.length ≤ fuel →
    Ends rest → readValue fuel (v.write ++ rest) = some (v, rest)
  items : ∀ (v : Json) (vs : List Json) (rest : List Char), areExact (v :: vs) = true →
    2 * (writeItems (v :: vs)).length + 1 ≤ fuel →
    readItems fuel (writeItems (v :: vs) ++ ']' :: rest) = some (v :: vs, rest)
  fields : ∀ (f : String × Json) (fs : List (String × Json)) (rest : List Char),
    haveExact (f :: fs) = true → 2 * (writeFields (f :: fs)).length + 1 ≤ fuel →
    readFields fuel (writeFields (f :: fs) ++ '\x7d' :: rest) =
      some ((f :: fs).map fun f => (some f.1, f.2), rest)

section

variable {fuel : Nat} {v : Json} {rest : List Char}

theorem ReadsBack.array (h : ReadsBack fuel) {items : List Json} (hexact : areExact items = true)
    (hfuel : 2 * (writeItems items).length + 1 ≤ fuel) :
    readValue (fuel + 1) ((Json.array items).write ++ rest) = some (.array items, rest) := by
  rw [readValue, write, List.cons_append, List.append_assoc, List.singleton_append,
    skipBlanks_cons (by decide)]
  cases items with
  | nil => simp [writeItems, skipBlanks, Text.isPlainBlank]
  | cons w ws =>
      have hitems := h.items w ws rest hexact hfuel
      rw [areExact, Bool.and_eq_true] at hexact
      obtain ⟨c, cs, hwrite, hblank, hclose⟩ := exists_writeItems_eq_cons hexact.1 ws
      rw [hwrite, List.cons_append] at hitems ⊢
      simp [skipBlanks_cons hblank, hclose, hitems]

theorem ReadsBack.object (h : ReadsBack fuel) {fields : List (String × Json)}
    (hexact : haveExact fields = true) (hfuel : 2 * (writeFields fields).length + 1 ≤ fuel) :
    readValue (fuel + 1) ((Json.object fields).write ++ rest) = some (.object fields, rest) := by
  rw [readValue, write, List.cons_append, List.append_assoc, List.singleton_append,
    skipBlanks_cons (by decide)]
  cases fields with
  | nil => simp [writeFields, skipBlanks, Text.isPlainBlank]
  | cons f fs =>
      have hfields := h.fields f fs rest hexact hfuel
      have hobject := ofFields_some (f :: fs)
      obtain ⟨cs, hwrite⟩ := exists_writeFields_eq_cons f fs
      rw [hwrite, List.cons_append] at hfields ⊢
      rw [List.map_cons] at hfields hobject
      simp [skipBlanks_cons (c := '"') (by decide), hfields, hobject]

theorem ReadsBack.value_succ (h : ReadsBack fuel) (hexact : v.isExact = true)
    (hfuel : 2 * v.write.length ≤ fuel + 1) (hends : Ends rest) :
    readValue (fuel + 1) (v.write ++ rest) = some (v, rest) := by
  cases v with
  | null =>
      rw [readValue, write]
      simp [skipBlanks, Text.isPlainBlank, readLiteral]
  | bool b =>
      rw [readValue]
      cases b with
      | false => simp [write, skipBlanks, Text.isPlainBlank, readLiteral]
      | true => simp [write, skipBlanks, Text.isPlainBlank, readLiteral]
  | nat n => exact readValue_nat n fuel hends
  | negative n =>
      obtain ⟨hpos, hn⟩ := by simpa [isExact] using hexact
      exact readValue_negative hpos hn fuel hends
  | float literal => cases hexact
  | string s => exact readValue_string s fuel rest
  | array items =>
      refine h.array hexact ?_
      simp only [write, List.length_cons, List.length_append] at hfuel
      omega
  | object fields =>
      refine h.object hexact ?_
      simp only [write, List.length_cons, List.length_append] at hfuel
      omega
  | unreadable => cases hexact

theorem ReadsBack.items_succ (h : ReadsBack fuel) {vs : List Json}
    (hexact : areExact (v :: vs) = true)
    (hfuel : 2 * (writeItems (v :: vs)).length + 1 ≤ fuel + 1) :
    readItems (fuel + 1) (writeItems (v :: vs) ++ ']' :: rest) = some (v :: vs, rest) := by
  rw [areExact, Bool.and_eq_true] at hexact
  cases vs with
  | nil =>
      rw [writeItems] at hfuel ⊢
      rw [readItems, h.value v _ hexact.1 (by omega) (ends_cons (.inr (.inl rfl)) rest)]
      simp only [skipBlanks_cons (c := ']') (by decide)]
  | cons w ws =>
      have hpos : 0 < v.write.length := length_write_pos hexact.1
      rw [writeItems_cons_cons] at hfuel ⊢
      rw [List.length_append, List.length_cons] at hfuel
      rw [List.append_assoc, List.cons_append, readItems,
        h.value v _ hexact.1 (by omega) (ends_cons (.inl rfl) _)]
      simp only [skipBlanks_cons (c := ',') (by decide), h.items w ws rest hexact.2 (by omega),
        Option.map_some]

theorem ReadsBack.fields_succ (h : ReadsBack fuel) {name : String} {fs : List (String × Json)}
    (hexact : haveExact ((name, v) :: fs) = true)
    (hfuel : 2 * (writeFields ((name, v) :: fs)).length + 1 ≤ fuel + 1) :
    readFields (fuel + 1) (writeFields ((name, v) :: fs) ++ '\x7d' :: rest) =
      some (((name, v) :: fs).map fun f => (some f.1, f.2), rest) := by
  rw [haveExact, Bool.and_eq_true] at hexact
  cases fs with
  | nil =>
      rw [writeFields, writeString] at hfuel ⊢
      simp only [List.length_append, List.length_cons] at hfuel
      simp only [List.cons_append, List.append_assoc, List.nil_append]
      rw [readFields, skipBlanks_cons (by decide)]
      simp only [readString_write, skipBlanks_cons (c := ':') (by decide),
        h.value v _ hexact.1 (by omega) (ends_cons (.inr (.inr rfl)) rest),
        skipBlanks_cons (c := '\x7d') (by decide), List.map_cons, List.map_nil]
  | cons g gs =>
      rw [writeFields_cons_cons, writeString] at hfuel ⊢
      simp only [List.length_append, List.length_cons] at hfuel
      simp only [List.cons_append, List.append_assoc, List.nil_append]
      rw [readFields, skipBlanks_cons (by decide)]
      simp only [readString_write, skipBlanks_cons (c := ':') (by decide),
        h.value v _ hexact.1 (by omega) (ends_cons (.inl rfl) _),
        skipBlanks_cons (c := ',') (by decide), h.fields g gs rest hexact.2 (by omega),
        Option.map_some, List.map_cons]

end

theorem readsBack (fuel : Nat) : ReadsBack fuel := by
  induction fuel with
  | zero =>
      refine ⟨fun v rest hexact hfuel _ => ?_, fun v vs rest _ hfuel => ?_,
        fun f fs rest _ hfuel => ?_⟩
      · have hpos : 0 < v.write.length := length_write_pos hexact
        omega
      · omega
      · omega
  | succ fuel ih =>
      exact ⟨fun v rest hexact hfuel hends => ih.value_succ hexact hfuel hends,
        fun v vs rest hexact hfuel => ih.items_succ hexact hfuel,
        fun f fs rest hexact hfuel => ih.fields_succ hexact hfuel⟩

theorem read?_render {v : Json} (hexact : v.isExact = true) : read? v.render = some v := by
  have hread := (readsBack (2 * v.write.length + 2)).value v [] hexact (by omega) (by simp [Ends])
  rw [List.append_nil] at hread
  simp [read?, render, hread, skipBlanks]

theorem document_render {α : Type} {read : Json → Option α} {v : Json} {a : α}
    (hexact : v.isExact = true) (hread : read v = some a) :
    document read v.render = .ok a := by
  simp [document, read?_render hexact, hread]

end BondedRelay.Json
