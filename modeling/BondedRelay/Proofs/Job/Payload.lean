import BondedRelay.Job.Payload
import BondedRelay.Proofs.Abi

namespace BondedRelay.Payload

variable {p q : Payload} {b body : Bytes}

theorem ofBody_of_no_data (hbody : body ≠ []) (h : Abi.bytes? body 96 = none) :
    ofBody body = .error .malformedBody := by
  unfold ofBody
  rw [h]
  cases Abi.word? body 0 <;> cases Abi.word? body 32 <;> cases Abi.word? body 64 <;>
    simp [hbody]

theorem ofBody_eq_ok_iff :
    ofBody body = .ok p ↔
      ∃ chain target limit, Abi.word? body 0 = some chain ∧ Abi.word? body 32 = some target ∧
        Abi.word? body 64 = some p.nonce ∧ Abi.bytes? body 96 = some p.data ∧
        Abi.word? body 128 = some limit ∧ Abi.word? body 160 = some p.gasPrice ∧
        chain.toNat = p.sourceChain.toNat ∧ limit.toNat = p.gasLimit.toNat ∧
        p.target = .wrap target.toNat := by
  constructor
  · intro h
    unfold ofBody at h
    split at h
    · simp at h
    · split at h
      · next chain target nonce data limit gasPrice hchain htarget hnonce hdata hlimit hprice =>
          split at h
          · simp at h
          · next sourceChain hsource =>
              split at h
              · simp at h
              · next gasLimit hgas =>
                  obtain rfl := Except.ok.inj h
                  exact ⟨chain, target, limit, hchain, htarget, hnonce, hdata, hlimit, hprice,
                    Uint.ofNat?_eq_some_iff.1 hsource, Uint.ofNat?_eq_some_iff.1 hgas, rfl⟩
      · simp at h
  · rintro ⟨chain, target, limit, hchain, htarget, hnonce, hdata, hlimit, hprice, hsource, hgas,
      haddress⟩
    have hbody : body.isEmpty = false := by
      cases body with
      | nil => simp [Abi.word?] at hchain
      | cons x rest => rfl
    simp only [ofBody, hbody, hchain, htarget, hnonce, hdata, hlimit, hprice, hsource, hgas,
      Uint.ofNat?_toNat, Bool.false_eq_true, if_false, ← haddress]

theorem ofBody_append (h : ofBody body = .ok p) (s : Bytes) : ofBody (body ++ s) = .ok p := by
  rw [ofBody_eq_ok_iff] at h ⊢
  obtain ⟨chain, target, limit, hchain, htarget, hnonce, hdata, hlimit, hprice, hfields⟩ := h
  exact ⟨chain, target, limit, Abi.word?_append hchain s, Abi.word?_append htarget s,
    Abi.word?_append hnonce s, Abi.bytes?_append hdata s, Abi.word?_append hlimit s,
    Abi.word?_append hprice s, hfields⟩

theorem encode_fields_ne_nil (p : Payload) : Abi.encode p.fields ≠ [] := by
  have hheads : (Abi.encode p.fields).length ≠ 0 := by
    rw [Abi.encode, List.length_append, Abi.length_heads]
    simp [fields]
  exact fun hnil => hheads (congrArg List.length hnil)

theorem ofBody_take (hdata : p.data.length < 0x100000000) (m : Nat) :
    ofBody ((Abi.encode p.fields).take m) =
      if m < 224 + p.data.length then .error (if m = 0 then .emptyBody else .malformedBody)
      else .ok p := by
  let chain : Abi.Field := .word (.wrap p.sourceChain.toNat)
  let target : Abi.Field := .word (.wrap p.target.toNat)
  let limit : Abi.Field := .word (.wrap p.gasLimit.toNat)
  have hchain : Abi.word? ((Abi.encode p.fields).take m) 0 =
      if 32 ≤ m then some (.wrap p.sourceChain.toNat) else none :=
    Abi.word?_encode_take [] _ _ m
  have htarget : Abi.word? ((Abi.encode p.fields).take m) 32 =
      if 64 ≤ m then some (.wrap p.target.toNat) else none :=
    Abi.word?_encode_take [chain] _ _ m
  have hnonce : Abi.word? ((Abi.encode p.fields).take m) 64 =
      if 96 ≤ m then some p.nonce else none :=
    Abi.word?_encode_take [chain, target] _ _ m
  have hoffset : Abi.tailOffset [chain, target, .word p.nonce] p.fields.length < 0x100000000 := by
    show 192 < 0x100000000
    decide
  have hbytes : Abi.bytes? ((Abi.encode p.fields).take m) 96 =
      if 224 + p.data.length ≤ m then some p.data else none :=
    Abi.bytes?_encode_take [chain, target, .word p.nonce] _ _ hoffset hdata m
  have hlimit : Abi.word? ((Abi.encode p.fields).take m) 128 =
      if 160 ≤ m then some (.wrap p.gasLimit.toNat) else none :=
    Abi.word?_encode_take [chain, target, .word p.nonce, .bytes p.data] _ _ m
  have hprice : Abi.word? ((Abi.encode p.fields).take m) 160 =
      if 192 ≤ m then some p.gasPrice else none :=
    Abi.word?_encode_take [chain, target, .word p.nonce, .bytes p.data, limit] _ _ m
  by_cases hcut : m < 224 + p.data.length
  · rw [if_pos hcut]
    rw [if_neg (by omega)] at hbytes
    by_cases hempty : m = 0
    · subst hempty
      rfl
    · rw [if_neg hempty]
      refine ofBody_of_no_data (fun hnil => ?_) hbytes
      rcases List.take_eq_nil_iff.1 hnil with hm | hencode
      · exact hempty hm
      · exact p.encode_fields_ne_nil hencode
  · rw [if_pos (by omega)] at hchain htarget hnonce hbytes hlimit hprice
    rw [if_neg hcut, ofBody_eq_ok_iff]
    refine ⟨_, _, _, hchain, htarget, hnonce, hbytes, hlimit, hprice, ?_, ?_, ?_⟩
    · exact Uint.toNat_wrap_of_le (by decide) _
    · exact Uint.toNat_wrap_of_le (by decide) _
    · rw [Uint.toNat_wrap_of_le (by decide), Uint.wrap_toNat]

theorem ofBytes_selector (body : Bytes) : ofBytes (selector ++ body) = ofBody body := by
  have hlength : ¬ (selector ++ body).length < 4 := by
    rw [List.length_append, show selector.length = 4 from rfl]
    omega
  have hselector : (selector ++ body).take 4 = selector := List.take_left' rfl
  have hbody : (selector ++ body).drop 4 = body := List.drop_left' rfl
  rw [ofBytes, if_neg hlength, hselector, if_neg (by simp), hbody]

theorem ofBytes_append (h : ofBytes b = .ok p) (s : Bytes) : ofBytes (b ++ s) = .ok p := by
  unfold ofBytes at h
  split at h
  · simp at h
  · next hlength =>
      split at h
      · simp at h
      · next hselector =>
          have hinside : 4 ≤ b.length := Nat.le_of_not_lt hlength
          have hlonger : ¬ (b ++ s).length < 4 := by
            rw [List.length_append]
            omega
          rw [ofBytes, if_neg hlonger, List.take_append_of_le_length hinside, if_neg hselector,
            List.drop_append_of_le_length hinside]
          exact ofBody_append h s

def cutError (length : Nat) : PayloadError :=
  if length < 4 then .tooShort length
  else if length = 4 then .emptyBody
  else .malformedBody

theorem ofBytes_take (hdata : p.data.length < 0x100000000) (k : Nat) (hk : k ≤ p.toBytes.length) :
    ofBytes (p.toBytes.take k) =
      if k < 4 + 224 + p.data.length then .error (cutError k) else .ok p := by
  have hlength : (p.toBytes.take k).length = k := List.length_take_of_le hk
  by_cases hshort : k < 4
  · rw [ofBytes, hlength, if_pos hshort, if_pos (by omega), cutError, if_pos hshort]
  · obtain ⟨m, rfl⟩ := Nat.exists_eq_add_of_le (Nat.le_of_not_lt hshort)
    have hcut : p.toBytes.take (selector.length + m) = selector ++ (Abi.encode p.fields).take m :=
      List.take_length_add_append m
    rw [show selector.length = 4 from rfl] at hcut
    rw [hcut, ofBytes_selector, ofBody_take hdata, cutError, if_neg hshort]
    have hinside : 4 + m < 4 + 224 + p.data.length ↔ m < 224 + p.data.length := by omega
    have hempty : 4 + m = 4 ↔ m = 0 := by omega
    simp only [hinside, hempty]

theorem toBytes_eq (p : Payload) :
    p.toBytes = selector ++ (Abi.heads 192 p.fields ++ (Abi.Field.bytes p.data).tail) := by
  simp [toBytes, Abi.encode, fields, Abi.Field.tail]

theorem length_toBytes (p : Payload) :
    p.toBytes.length = 4 + 224 + (Abi.padded p.data).length := by
  rw [toBytes_eq, List.length_append, List.length_append, Abi.length_heads, Abi.Field.tail,
    List.length_append, Abi.length_wordBytes, show selector.length = 4 from rfl,
    show p.fields.length = 6 from rfl]
  omega

theorem length_data_le (p : Payload) : p.data.length ≤ p.toBytes.length := by
  rw [length_toBytes, Abi.length_padded]
  omega

theorem toBytes_injective (h : q.toBytes = p.toBytes) : q = p := by
  rw [toBytes_eq, toBytes_eq] at h
  obtain ⟨hheads, htail⟩ := List.append_inj (List.append_cancel_left h)
    (by rw [Abi.length_heads, Abi.length_heads]; rfl)
  have hdata := Abi.bytes_tail_inj htail
  obtain ⟨hchain, hheads⟩ := Abi.heads_word_inj hheads
  obtain ⟨htarget, hheads⟩ := Abi.heads_word_inj hheads
  obtain ⟨hnonce, hheads⟩ := Abi.heads_word_inj hheads
  rw [hdata] at hheads
  obtain ⟨hlimit, hheads⟩ := Abi.heads_word_inj (List.append_cancel_left hheads)
  obtain ⟨hprice, -⟩ := Abi.heads_word_inj hheads
  obtain ⟨chain, target, nonce, data, gasLimit, gasPrice⟩ := q
  obtain rfl := Uint.wrap_toNat_inj (by decide) hchain
  obtain rfl := Uint.wrap_toNat_inj (by decide) htarget
  obtain rfl := Uint.wrap_toNat_inj (by decide) hlimit
  obtain rfl : nonce = p.nonce := hnonce
  obtain rfl : data = p.data := hdata
  obtain rfl : gasPrice = p.gasPrice := hprice
  rfl

theorem length_data_lt (h : ofBytes b = .ok p) : p.data.length < 0x100000000 := by
  unfold ofBytes at h
  split at h
  · simp at h
  · split at h
    · simp at h
    · obtain ⟨chain, target, limit, -, -, -, hdata, -⟩ := ofBody_eq_ok_iff.1 h
      exact Abi.bytes?_length_lt hdata

theorem ofBytes_cut (hdata : p.data.length < 0x100000000) :
    ofBytes (p.toBytes.take (4 + 224 + p.data.length)) = .ok p := by
  have hinside : 4 + 224 + p.data.length ≤ p.toBytes.length := by
    rw [length_toBytes, Abi.length_padded]
    omega
  rw [ofBytes_take hdata _ hinside, if_neg (by omega)]

theorem ofBytes_toBytes (hdata : p.data.length < 0x100000000) : ofBytes p.toBytes = .ok p := by
  have hcut := ofBytes_append (ofBytes_cut hdata) (p.toBytes.drop (4 + 224 + p.data.length))
  rwa [List.take_append_drop] at hcut

theorem ofBytes_of_long (hlong : 0x100000000 ≤ p.data.length)
    (hdata : p.data.length < Uint.limit 256) : ofBytes p.toBytes = .error .malformedBody := by
  have hoffset : Abi.tailOffset [.word (.wrap p.sourceChain.toNat), .word (.wrap p.target.toNat),
      .word p.nonce] p.fields.length < 0x100000000 := by
    show 192 < 0x100000000
    decide
  have hbytes : Abi.bytes? (Abi.encode p.fields) 96 = none :=
    Abi.bytes?_encode_of_long [_, _, _] _ _ hoffset hlong hdata
  rw [toBytes, ofBytes_selector]
  exact ofBody_of_no_data p.encode_fields_ne_nil hbytes

theorem data_marks_readable_prefix (p : Payload) (hdata : p.data.length < 0x100000000) :
    (∀ b, p.toBytes.take (4 + 224 + p.data.length) <+: b → ofBytes b = .ok p) ∧
      (∀ b, b <+: p.toBytes → b.length < 4 + 224 + p.data.length →
        ofBytes b = .error (cutError b.length)) ∧
      (∀ q : Payload, q.toBytes = p.toBytes → q = p) ∧
      ∀ b q, ofBytes b = .ok q → ofBytes q.toBytes = .ok q ∧
        (ofBytes q.toBytes).map jobId = (ofBytes b).map jobId := by
  refine ⟨?_, ?_, fun q => toBytes_injective, ?_⟩
  · rintro b ⟨s, rfl⟩
    exact ofBytes_append (ofBytes_cut hdata) s
  · intro b hprefix hshort
    have hcut := ofBytes_take hdata b.length hprefix.length_le
    rwa [← List.prefix_iff_eq_take.1 hprefix, if_pos hshort] at hcut
  · intro b q h
    have hagain := ofBytes_toBytes (length_data_lt h)
    exact ⟨hagain, by rw [hagain, h]⟩

theorem altered_padding_is_not_read :
    let p : Payload := ⟨5, 17, 7, [0xde, 0xad, 0xbe], 30000, 12⟩
    p.data.length < 0x100000000 ∧ ofBytes (p.toBytes.take 231 ++ [1, 2, 3]) = .ok p ∧
      ofBytes (p.toBytes.take 230) = .error .malformedBody := by
  intro p
  have hdata : p.data.length < 0x100000000 := by decide
  obtain ⟨hread, hrefused, -⟩ := data_marks_readable_prefix p hdata
  refine ⟨hdata, hread _ (List.prefix_append ..), ?_⟩
  exact hrefused _ (List.take_prefix ..) (by decide +kernel)

end BondedRelay.Payload
