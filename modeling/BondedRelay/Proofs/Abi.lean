import BondedRelay.Abi

namespace BondedRelay.Abi

variable {body front rest : Bytes} {offset n m : Nat}

theorem wordAt_wordBytes (h : front.length = offset) (n : Nat) (rest : Bytes) :
    Bytes.wordAt (front ++ (wordBytes n ++ rest)) offset = n % Uint.limit 256 := by
  rw [Bytes.wordAt, List.drop_left' h, List.take_left' (length_wordBytes n)]
  exact Bytes.toNat_ofNat 32 n

theorem wordBytes_inj {a b : Nat} (h : wordBytes a = wordBytes b) :
    a % Uint.limit 256 = b % Uint.limit 256 := by
  have hread := congrArg Bytes.toNat h
  rwa [wordBytes, wordBytes, Bytes.toNat_ofNat, Bytes.toNat_ofNat] at hread

theorem word?_wordBytes (h : front.length = offset) (n : Nat) (rest : Bytes) :
    word? (front ++ (wordBytes n ++ rest)) offset = some (.wrap n) := by
  have hinside : offset + 32 ≤ (front ++ (wordBytes n ++ rest)).length := by
    rw [List.length_append, List.length_append, length_wordBytes]
    omega
  rw [word?, if_pos hinside]
  exact congrArg some (Uint.ext (wordAt_wordBytes h n rest))

theorem size?_wordBytes (h : front.length = offset) (hn : n < 0x100000000) (rest : Bytes) :
    size? (front ++ (wordBytes n ++ rest)) offset = some n := by
  have hlimit : 0x100000000 ≤ Uint.limit 256 := by decide
  have hsame : (Uint.wrap n : Amount).toNat = n := Nat.mod_eq_of_lt (by omega)
  simp only [size?, word?_wordBytes h, hsame, if_pos hn]

theorem word?_take (body : Bytes) (m offset : Nat) :
    word? (body.take m) offset = if offset + 32 ≤ m then word? body offset else none := by
  unfold word?
  rw [List.length_take]
  by_cases hm : offset + 32 ≤ m
  · have hword : Bytes.wordAt (body.take m) offset = Bytes.wordAt body offset := by
      rw [Bytes.wordAt, Bytes.wordAt, List.drop_take, List.take_take, Nat.min_eq_left (by omega)]
    have hinside : offset + 32 ≤ min m body.length ↔ offset + 32 ≤ body.length := by omega
    simp only [hword, hinside, hm, if_true]
  · rw [if_neg hm, if_neg (by omega)]

theorem size?_take (body : Bytes) (m offset : Nat) :
    size? (body.take m) offset = if offset + 32 ≤ m then size? body offset else none := by
  rw [size?, word?_take, size?]
  by_cases hm : offset + 32 ≤ m
  · rw [if_pos hm, if_pos hm]
  · rw [if_neg hm, if_neg hm]

theorem size?_append (h : size? body offset = some n) (s : Bytes) :
    size? (body ++ s) offset = some n := by
  unfold size? at h
  cases hword : word? body offset with
  | none => simp [hword] at h
  | some w =>
      rw [size?, word?_append hword]
      simpa [hword] using h

theorem word?_eq_some_iff {w : Amount} :
    word? body offset = some w ↔ offset + 32 ≤ body.length ∧ w.toNat = body.wordAt offset := by
  unfold word?
  by_cases hinside : offset + 32 ≤ body.length
  · rw [if_pos hinside, Option.some.injEq, Uint.ext_iff]
    exact ⟨fun h => ⟨hinside, h.symm⟩, fun h => h.2.symm⟩
  · rw [if_neg hinside]
    simp [hinside]

theorem size?_eq_some_iff :
    size? body offset = some n ↔
      offset + 32 ≤ body.length ∧ body.wordAt offset = n ∧ n < 0x100000000 := by
  unfold size?
  cases hword : word? body offset with
  | none =>
      have houtside : ¬ offset + 32 ≤ body.length := fun hinside => by
        simp [word?, hinside] at hword
      simp [houtside]
  | some w =>
      obtain ⟨hinside, hvalue⟩ := word?_eq_some_iff.1 hword
      simp only [hvalue]
      by_cases hsmall : body.wordAt offset < 0x100000000
      · rw [if_pos hsmall, Option.some.injEq]
        exact ⟨fun h => ⟨hinside, h, h ▸ hsmall⟩, fun h => h.2.1⟩
      · rw [if_neg hsmall]
        refine ⟨fun h => (Option.some_ne_none n h.symm).elim, fun h => ?_⟩
        exact absurd (h.2.1.symm ▸ h.2.2) hsmall

theorem size?_lt (h : size? body offset = some n) : n < 0x100000000 :=
  (size?_eq_some_iff.1 h).2.2

theorem bytes?_eq_some_iff {b : Bytes} :
    bytes? body offset = some b ↔
      ∃ start n, size? body offset = some start ∧ size? body start = some n ∧
        start + 32 + n ≤ body.length ∧ (body.drop (start + 32)).take n = b := by
  unfold bytes?
  cases hstart : size? body offset with
  | none => simp
  | some start =>
      cases hn : size? body start with
      | none => simp [hn]
      | some n => by_cases hinside : start + 32 + n ≤ body.length <;> simp [hn, hinside]

theorem bytes?_length_lt {b : Bytes} (h : bytes? body offset = some b) :
    b.length < 0x100000000 := by
  obtain ⟨start, n, -, hn, -, rfl⟩ := bytes?_eq_some_iff.1 h
  exact Nat.lt_of_le_of_lt (List.length_take_le ..) (size?_lt hn)

theorem bytes?_append {b : Bytes} (h : bytes? body offset = some b) (s : Bytes) :
    bytes? (body ++ s) offset = some b := by
  obtain ⟨start, n, hstart, hn, hinside, rfl⟩ := bytes?_eq_some_iff.1 h
  refine bytes?_eq_some_iff.2 ⟨start, n, size?_append hstart s, size?_append hn s, ?_, ?_⟩
  · rw [List.length_append]
    omega
  · rw [List.drop_append_of_le_length (by omega),
      List.take_append_of_le_length (by rw [List.length_drop]; omega)]

theorem bytes?_take {start : Nat} (hstart : size? body offset = some start)
    (hn : size? body start = some n) (hinside : start + 32 + n ≤ body.length)
    (hafter : offset ≤ start) (m : Nat) :
    bytes? (body.take m) offset = if start + 32 + n ≤ m then bytes? body offset else none := by
  rw [bytes?_eq_some_iff.2 ⟨start, n, hstart, hn, hinside, rfl⟩]
  unfold bytes?
  rw [size?_take, hstart, List.length_take]
  by_cases hhead : offset + 32 ≤ m
  · simp only [hhead, if_true, size?_take, hn]
    by_cases hword : start + 32 ≤ m
    · simp only [hword, if_true]
      by_cases hm : start + 32 + n ≤ m
      · rw [if_pos hm, if_pos (by omega), List.drop_take, List.take_take,
          Nat.min_eq_left (by omega)]
      · rw [if_neg hm, if_neg (by omega)]
    · rw [if_neg hword, if_neg (by omega)]
  · rw [if_neg hhead, if_neg (by omega)]

theorem heads_append (offset : Nat) (xs ys : List Field) :
    heads offset (xs ++ ys) =
      heads offset xs ++ heads (offset + (xs.flatMap Field.tail).length) ys := by
  induction xs generalizing offset with
  | nil => rfl
  | cons f rest ih =>
      cases f with
      | word n => simp [heads, Field.tail, ih]
      | bytes b => simp [heads, ih, Nat.add_assoc]

section

variable (xs ys : List Field)

def tailOffset (count : Nat) : Nat := 32 * count + (xs.flatMap Field.tail).length

theorem encode_word (n : Amount) :
    ∃ rest, encode (xs ++ .word n :: ys) =
      heads (32 * (xs ++ .word n :: ys).length) xs ++ (wordBytes n.toNat ++ rest) := by
  rw [encode, heads_append, heads, List.append_assoc, List.append_assoc]
  exact ⟨_, rfl⟩

variable (b : Bytes)

theorem encode_offset :
    ∃ rest, encode (xs ++ .bytes b :: ys) =
      heads (32 * (xs ++ .bytes b :: ys).length) xs ++
        (wordBytes (tailOffset xs (xs ++ .bytes b :: ys).length) ++ rest) := by
  rw [encode, heads_append, heads, List.append_assoc, List.append_assoc]
  exact ⟨_, rfl⟩

theorem encode_tail :
    ∃ front rest, encode (xs ++ .bytes b :: ys) = front ++ (wordBytes b.length ++ (b ++ rest)) ∧
      front.length = tailOffset xs (xs ++ .bytes b :: ys).length := by
  let fields := xs ++ .bytes b :: ys
  refine ⟨heads (32 * fields.length) fields ++ xs.flatMap Field.tail,
    List.replicate ((32 - b.length % 32) % 32) 0 ++ ys.flatMap Field.tail, ?_, ?_⟩
  · rw [encode, List.flatMap_append, List.flatMap_cons, Field.tail, padded]
    simp only [List.append_assoc, fields]
  · rw [List.length_append, length_heads, tailOffset]

theorem tail_inside :
    tailOffset xs (xs ++ .bytes b :: ys).length + 32 + b.length ≤
      (encode (xs ++ .bytes b :: ys)).length := by
  obtain ⟨front, rest, htail, hfront⟩ := encode_tail xs ys b
  have hlength : (front ++ (wordBytes b.length ++ (b ++ rest))).length =
      front.length + 32 + b.length + rest.length := by
    simp only [List.length_append, length_wordBytes, Nat.add_assoc]
  rw [htail, hlength, hfront]
  omega

theorem word?_encode (n : Amount) :
    word? (encode (xs ++ .word n :: ys)) (32 * xs.length) = some n := by
  obtain ⟨rest, hencode⟩ := encode_word xs ys n
  rw [hencode, word?_wordBytes (length_heads ..), Uint.wrap_toNat]

theorem word?_encode_take (n : Amount) (m : Nat) :
    word? ((encode (xs ++ .word n :: ys)).take m) (32 * xs.length) =
      if 32 * xs.length + 32 ≤ m then some n else none := by
  rw [word?_take, word?_encode]

theorem size?_encode_offset
    (hstart : tailOffset xs (xs ++ .bytes b :: ys).length < 0x100000000) :
    size? (encode (xs ++ .bytes b :: ys)) (32 * xs.length) =
      some (tailOffset xs (xs ++ .bytes b :: ys).length) := by
  obtain ⟨rest, hencode⟩ := encode_offset xs ys b
  rw [hencode]
  exact size?_wordBytes (length_heads ..) hstart rest

theorem size?_encode_tail (hb : b.length < 0x100000000) :
    size? (encode (xs ++ .bytes b :: ys)) (tailOffset xs (xs ++ .bytes b :: ys).length) =
      some b.length := by
  obtain ⟨front, rest, htail, hfront⟩ := encode_tail xs ys b
  rw [htail]
  exact size?_wordBytes hfront hb (b ++ rest)

theorem bytes?_encode (hstart : tailOffset xs (xs ++ .bytes b :: ys).length < 0x100000000)
    (hb : b.length < 0x100000000) :
    bytes? (encode (xs ++ .bytes b :: ys)) (32 * xs.length) = some b := by
  refine bytes?_eq_some_iff.2 ⟨_, _, size?_encode_offset xs ys b hstart,
    size?_encode_tail xs ys b hb, tail_inside xs ys b, ?_⟩
  obtain ⟨front, rest, htail, hfront⟩ := encode_tail xs ys b
  have hlength : (front ++ wordBytes b.length).length =
      tailOffset xs (xs ++ .bytes b :: ys).length + 32 := by
    rw [List.length_append, hfront, length_wordBytes]
  rw [htail, ← List.append_assoc, List.drop_left' hlength, List.take_left' rfl]

theorem bytes?_encode_of_long
    (hstart : tailOffset xs (xs ++ .bytes b :: ys).length < 0x100000000)
    (hlong : 0x100000000 ≤ b.length) (hb : b.length < Uint.limit 256) :
    bytes? (encode (xs ++ .bytes b :: ys)) (32 * xs.length) = none := by
  obtain ⟨front, rest, htail, hfront⟩ := encode_tail xs ys b
  have hsame : (Uint.wrap b.length : Amount).toNat = b.length := Nat.mod_eq_of_lt hb
  have hlength : size? (encode (xs ++ .bytes b :: ys))
      (tailOffset xs (xs ++ .bytes b :: ys).length) = none := by
    rw [htail, size?, word?_wordBytes hfront]
    dsimp only
    rw [hsame, if_neg (Nat.not_lt_of_le hlong)]
  rw [bytes?, size?_encode_offset xs ys b hstart]
  dsimp only
  rw [hlength]

theorem bytes?_encode_take
    (hstart : tailOffset xs (xs ++ .bytes b :: ys).length < 0x100000000)
    (hb : b.length < 0x100000000) (m : Nat) :
    bytes? ((encode (xs ++ .bytes b :: ys)).take m) (32 * xs.length) =
      if tailOffset xs (xs ++ .bytes b :: ys).length + 32 + b.length ≤ m then some b else none := by
  have hafter : 32 * xs.length ≤ tailOffset xs (xs ++ .bytes b :: ys).length := by
    rw [tailOffset, List.length_append]
    omega
  rw [bytes?_take (size?_encode_offset xs ys b hstart) (size?_encode_tail xs ys b hb)
    (tail_inside xs ys b) hafter, bytes?_encode xs ys b hstart hb]

end

theorem heads_word_inj {a b : Amount} {xs ys : List Field}
    (h : heads offset (.word a :: xs) = heads offset (.word b :: ys)) :
    a = b ∧ heads offset xs = heads offset ys := by
  obtain ⟨hword, hrest⟩ := List.append_inj h (by simp)
  have hvalue := wordBytes_inj hword
  rw [Nat.mod_eq_of_lt a.isLt, Nat.mod_eq_of_lt b.isLt] at hvalue
  exact ⟨Uint.ext hvalue, hrest⟩

theorem length_padded (b : Bytes) :
    (padded b).length = b.length + (32 - b.length % 32) % 32 := by
  rw [padded, List.length_append, List.length_replicate]

theorem bytes_tail_inj {b c : Bytes} (h : (Field.bytes b).tail = (Field.bytes c).tail) : b = c := by
  obtain ⟨hword, hpadded⟩ := List.append_inj h (by simp)
  have hlengths := congrArg List.length hpadded
  rw [length_padded, length_padded] at hlengths
  have hwords := wordBytes_inj hword
  -- Lengths that agree modulo a multiple of 32 and are padded to the same length are the same.
  have hsame : b.length = c.length := by
    rw [show Uint.limit 256 = 2 ^ 256 from rfl] at hwords
    omega
  have hprefix := congrArg (List.take b.length) hpadded
  rwa [padded, padded, List.take_left' rfl, hsame, List.take_left' rfl] at hprefix

end BondedRelay.Abi
