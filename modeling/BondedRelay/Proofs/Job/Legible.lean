import BondedRelay.Proofs.Job.Payload

namespace BondedRelay

theorem Abi.low_bytes_of_word {body : Bytes} {offset : Nat} (h : offset + 32 ≤ body.length) :
    Bytes.ofUint (.wrap (body.wordAt offset) : Address) = (body.drop (offset + 12)).take 20 := by
  let low : Bytes := (body.drop (offset + 12)).take 20
  have hlength : low.length = 20 := by
    rw [List.length_take, List.length_drop]
    omega
  have hlow := Bytes.toNat_lt low
  have hword : (body.drop offset).take 32 = (body.drop offset).take 12 ++ low := by
    rw [← List.take_append_drop 12 ((body.drop offset).take 32), List.take_take, List.drop_take,
      List.drop_drop]
    rfl
  have hvalue : (.wrap (body.wordAt offset) : Address).toNat = low.toNat := by
    rw [hlength] at hlow
    rw [Uint.toNat_wrap, Bytes.wordAt, hword, Bytes.toNat_append, hlength,
      Nat.mul_add_mod_self_right]
    exact Nat.mod_eq_of_lt hlow
  have hback := Bytes.ofNat_toNat low
  rw [hlength] at hback
  rw [Bytes.ofUint, hvalue]
  exact hback

namespace Payload

variable {p : Payload} {b body : Bytes} {e : PayloadError}

def dataStart (body : Bytes) : Nat := body.wordAt 96

def dataLength (body : Bytes) : Nat := body.wordAt (dataStart body)

structure Framed (body : Bytes) : Prop where
  heads_inside : 192 ≤ body.length
  start_lt : dataStart body < Uint.limit 32
  start_inside : dataStart body + 32 ≤ body.length
  length_lt : dataLength body < Uint.limit 32
  data_inside : dataStart body + 32 + dataLength body ≤ body.length

structure Legible (body : Bytes) : Prop extends Framed body where
  sourceChain_lt : body.wordAt 0 < Uint.limit 32
  gasLimit_lt : body.wordAt 128 < Uint.limit 64

structure Tells (body : Bytes) (p : Payload) : Prop where
  sourceChain_eq : p.sourceChain.toNat = body.wordAt 0
  target_eq : Bytes.ofUint p.target = (body.drop (32 + 12)).take 20
  nonce_eq : p.nonce.toNat = body.wordAt 64
  data_eq : p.data = (body.drop (dataStart body + 32)).take (dataLength body)
  gasLimit_eq : p.gasLimit.toNat = body.wordAt 128
  gasPrice_eq : p.gasPrice.toNat = body.wordAt 160

inductive Refused : Bytes → PayloadError → Prop
  | tooShort {b : Bytes} (h : b.length < 4) : Refused b (.tooShort b.length)
  | unknownSelector {b : Bytes} (hlong : 4 ≤ b.length) (h : ¬ selector <+: b) :
      Refused b (.unknownSelector (b.take 4))
  | emptyBody : Refused selector .emptyBody
  | malformedBody {body : Bytes} (hbody : body ≠ []) (h : ¬ Framed body) :
      Refused (selector ++ body) .malformedBody
  | sourceChain {body : Bytes} (hframed : Framed body) (h : Uint.limit 32 ≤ body.wordAt 0) :
      Refused (selector ++ body) (.outOfRange "sourceChain")
  | gasLimit {body : Bytes} (hframed : Framed body) (hchain : body.wordAt 0 < Uint.limit 32)
      (h : Uint.limit 64 ≤ body.wordAt 128) : Refused (selector ++ body) (.outOfRange "gasLimit")

theorem Framed.words (h : Framed body) {offset : Nat} (hhead : offset + 32 ≤ 192) :
    Abi.word? body offset = some ⟨body.wordAt offset, Bytes.wordAt_lt body offset⟩ :=
  Abi.word?_eq_some_iff.2 ⟨Nat.le_trans hhead h.heads_inside, rfl⟩

theorem Framed.data (h : Framed body) :
    Abi.bytes? body 96 = some ((body.drop (dataStart body + 32)).take (dataLength body)) := by
  have hhead : 96 + 32 ≤ body.length := Nat.le_trans (by decide) h.heads_inside
  have hstart : Abi.size? body 96 = some (dataStart body) :=
    Abi.size?_eq_some_iff.2 ⟨hhead, rfl, h.start_lt⟩
  have hlength : Abi.size? body (dataStart body) = some (dataLength body) :=
    Abi.size?_eq_some_iff.2 ⟨h.start_inside, rfl, h.length_lt⟩
  exact Abi.bytes?_eq_some_iff.2 ⟨_, _, hstart, hlength, h.data_inside, rfl⟩

theorem framed_of_parts {gasPrice : Amount} {data : Bytes}
    (hprice : Abi.word? body 160 = some gasPrice) (hdata : Abi.bytes? body 96 = some data) :
    Framed body := by
  obtain ⟨start, n, hstart, hlength, hinside, -⟩ := Abi.bytes?_eq_some_iff.1 hdata
  obtain ⟨-, rfl, hstart_lt⟩ := Abi.size?_eq_some_iff.1 hstart
  obtain ⟨hstart_inside, rfl, hlength_lt⟩ := Abi.size?_eq_some_iff.1 hlength
  exact ⟨(Abi.word?_eq_some_iff.1 hprice).1, hstart_lt, hstart_inside, hlength_lt, hinside⟩

theorem ofBody_of_not_framed (hbody : body ≠ []) (h : ¬ Framed body) :
    ofBody body = .error .malformedBody := by
  unfold ofBody
  rw [if_neg (by simpa using hbody)]
  split
  · next hdata _ hprice => exact absurd (framed_of_parts hprice hdata) h
  · rfl

theorem ofBody_of_framed (h : Framed body) :
    ofBody body =
      (Uint.ofNat? (body.wordAt 0)).elim (.error (.outOfRange "sourceChain")) fun sourceChain =>
        (Uint.ofNat? (body.wordAt 128)).elim (.error (.outOfRange "gasLimit")) fun gasLimit =>
          .ok { sourceChain, target := .wrap (body.wordAt 32),
                nonce := ⟨body.wordAt 64, Bytes.wordAt_lt body 64⟩,
                data := (body.drop (dataStart body + 32)).take (dataLength body),
                gasLimit, gasPrice := ⟨body.wordAt 160, Bytes.wordAt_lt body 160⟩ } := by
  have hbody : ¬ body.isEmpty = true := fun hnil => by
    have hheads := h.heads_inside
    rw [List.isEmpty_iff.1 hnil] at hheads
    exact absurd hheads (by decide)
  unfold ofBody
  rw [if_neg hbody]
  simp only [h.words (by decide : 0 + 32 ≤ 192), h.words (by decide : 32 + 32 ≤ 192),
    h.words (by decide : 64 + 32 ≤ 192), h.words (by decide : 128 + 32 ≤ 192),
    h.words (by decide : 160 + 32 ≤ 192), h.data]
  cases (Uint.ofNat? (body.wordAt 0) : Option (Uint 32)) with
  | none => rfl
  | some sourceChain =>
      cases (Uint.ofNat? (body.wordAt 128) : Option (Uint 64)) with
      | none => rfl
      | some gasLimit => rfl

theorem Legible.read (h : Legible body) : ∃ p, ofBody body = .ok p ∧ Tells body p := by
  have hchain : Uint.ofNat? (body.wordAt 0) = some ⟨_, h.sourceChain_lt⟩ :=
    Uint.ofNat?_eq_some_iff.2 rfl
  have hlimit : Uint.ofNat? (body.wordAt 128) = some ⟨_, h.gasLimit_lt⟩ :=
    Uint.ofNat?_eq_some_iff.2 rfl
  have htarget := Abi.low_bytes_of_word (Nat.le_trans (by decide) h.heads_inside : 32 + 32 ≤ _)
  rw [ofBody_of_framed h.toFramed, hchain, hlimit]
  exact ⟨_, rfl, rfl, htarget, rfl, rfl, rfl, rfl⟩

theorem Refused.ofBytes_eq (h : Refused b e) : ofBytes b = .error e := by
  cases h with
  | tooShort hshort => rw [ofBytes, if_pos hshort]
  | unknownSelector hlong hother =>
      have hselector : b.take 4 ≠ selector := fun heq => hother (heq ▸ List.take_prefix ..)
      rw [ofBytes, if_neg (Nat.not_lt_of_le hlong), if_pos hselector]
  | emptyBody => rfl
  | malformedBody hbody hframed => rw [ofBytes_selector, ofBody_of_not_framed hbody hframed]
  | sourceChain hframed hlarge =>
      rw [ofBytes_selector, ofBody_of_framed hframed, Uint.ofNat?_eq_none_iff.2 hlarge,
        Option.elim_none]
  | gasLimit hframed hchain hlarge =>
      have hfits : Uint.ofNat? _ = some ⟨_, hchain⟩ := Uint.ofNat?_eq_some_iff.2 rfl
      rw [ofBytes_selector, ofBody_of_framed hframed, hfits, Uint.ofNat?_eq_none_iff.2 hlarge,
        Option.elim_some, Option.elim_none]

theorem legible_or_refused (b : Bytes) :
    (∃ body, b = selector ++ body ∧ Legible body) ∨ ∃ e, Refused b e := by
  by_cases hshort : b.length < 4
  · exact .inr ⟨_, .tooShort hshort⟩
  by_cases hselector : selector <+: b
  · obtain ⟨(body : Bytes), rfl⟩ := hselector
    by_cases hframed : Framed body
    · by_cases hchain : body.wordAt 0 < Uint.limit 32
      · by_cases hlimit : body.wordAt 128 < Uint.limit 64
        · exact .inl ⟨body, rfl, hframed, hchain, hlimit⟩
        · exact .inr ⟨_, .gasLimit hframed hchain (Nat.le_of_not_lt hlimit)⟩
      · exact .inr ⟨_, .sourceChain hframed (Nat.le_of_not_lt hchain)⟩
    · by_cases hbody : body = []
      · subst hbody
        exact .inr ⟨_, .emptyBody⟩
      · exact .inr ⟨_, .malformedBody hbody hframed⟩
  · exact .inr ⟨_, .unknownSelector (Nat.le_of_not_lt hshort) hselector⟩

theorem legible_bytes_read (b : Bytes) :
    ((∃ p, ofBytes b = .ok p) ↔ ∃ body, b = selector ++ body ∧ Legible body) ∧
      (∀ p, ofBytes b = .ok p → ∃ body, b = selector ++ body ∧ Tells body p) ∧
      ∀ e, ofBytes b = .error e ↔ Refused b e := by
  rcases legible_or_refused b with ⟨body, rfl, hlegible⟩ | ⟨e, hrefused⟩
  · obtain ⟨p, hread, htells⟩ := hlegible.read
    have hbytes : ofBytes (selector ++ body) = .ok p := by rw [ofBytes_selector, hread]
    refine ⟨⟨fun _ => ⟨body, rfl, hlegible⟩, fun _ => ⟨p, hbytes⟩⟩, ?_, fun e => ⟨?_, ?_⟩⟩
    · intro q hq
      obtain rfl := Except.ok.inj (hbytes.symm.trans hq)
      exact ⟨body, rfl, htells⟩
    · intro herror
      cases hbytes.symm.trans herror
    · intro hrefused
      cases hbytes.symm.trans hrefused.ofBytes_eq
  · have herror := hrefused.ofBytes_eq
    have hunread : ∀ p, ofBytes b ≠ .ok p := fun p hp => by cases herror.symm.trans hp
    refine ⟨⟨fun ⟨p, hp⟩ => absurd hp (hunread p), ?_⟩, fun p hp => absurd hp (hunread p), ?_⟩
    · rintro ⟨body, rfl, hlegible⟩
      obtain ⟨p, hread, -⟩ := hlegible.read
      exact absurd (by rw [ofBytes_selector, hread]) (hunread p)
    · intro e'
      refine ⟨fun h => ?_, Refused.ofBytes_eq⟩
      obtain rfl := Except.error.inj (herror.symm.trans h)
      exact hrefused

example :
    (ofBytes (selector ++ [5, 17, 7, 0, 30000, 12].flatMap Abi.wordBytes)).toOption =
      some ⟨5, 17, 7, [0, 0, 0, 0, 0], 30000, 12⟩ := by
  decide +kernel

end Payload

end BondedRelay
