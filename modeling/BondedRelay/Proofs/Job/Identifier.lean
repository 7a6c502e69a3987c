import BondedRelay.Form.Job
import BondedRelay.Proofs.Json.Text
import BondedRelay.Proofs.Numeral.Amount

namespace BondedRelay

theorem Bytes.exists_ofUint {w : Nat} (hw : 8 ∣ w) {b : Bytes} (hlength : b.length = w / 8) :
    ∃ u : Uint w, ofUint u = b := by
  have hwidth : 8 * b.length = w := by rw [hlength, Nat.mul_div_cancel' hw]
  refine ⟨⟨b.toNat, hwidth ▸ b.toNat_lt⟩, ?_⟩
  rw [ofUint, ← hlength]
  exact b.ofNat_toNat

namespace Hex

open Numeral

variable {c hi lo : Char} {d : Nat} {cs : List Char} {b : Bytes}

def IsHexDigit (c : Char) : Prop := ∃ d, IsDigit 16 c d

theorem x_notMem (h : ∀ c ∈ cs, IsHexDigit c) : 'x' ∉ cs := by
  intro hx
  obtain ⟨d, hd⟩ := h 'x' hx
  exact hd.plain.ne_x rfl

theorem digitChar_of_isDigit (h : IsDigit 16 c d) : digitChar d = c.toLower := by
  have hwritten : ∀ d < 16, digitChar d = (Nat.digitChar d).toLower ∧
      digitChar d = (Nat.digitChar d).toUpper.toLower := by decide
  obtain ⟨hd, rfl | rfl⟩ := h
  · exact (hwritten d hd).1
  · exact (hwritten d hd).2

theorem digits_ofNat_cons {h l : Nat} (hh : h < 16) (hl : l < 16) (b : Bytes) :
    digits (UInt8.ofNat (16 * h + l) :: b) = digitChar h :: digitChar l :: digits b := by
  have hbyte : (UInt8.ofNat (16 * h + l)).toNat = 16 * h + l := by
    rw [UInt8.toNat_ofNat', Nat.mod_eq_of_lt (by omega)]
  have hhigh : (16 * h + l) / 16 = h := by omega
  have hlow : (16 * h + l) % 16 = l := by omega
  rw [digits, hbyte, hhigh, hlow]

theorem bytes?_cons_cons {h l : Nat} (hhi : IsDigit 16 hi h) (hlo : IsDigit 16 lo l)
    (hcs : bytes? cs = some b) :
    bytes? (hi :: lo :: cs) = some (UInt8.ofNat (16 * h + l) :: b) := by
  rw [bytes?, hexDigit?_eq_some_iff.2 hhi, hexDigit?_eq_some_iff.2 hlo, hcs]

theorem written_of_bytes? (h : bytes? cs = some b) :
    digits b = cs.map Char.toLower ∧ ∀ c ∈ cs, IsHexDigit c := by
  induction cs using bytes?.induct generalizing b with
  | case1 =>
      obtain rfl := Option.some.inj h
      exact ⟨rfl, fun c hc => absurd hc List.not_mem_nil⟩
  | case2 c => cases h
  | case3 hi lo rest hvalue lvalue bs hrest hlow hhigh ih =>
      have hhi := hexDigit?_eq_some_iff.1 hhigh
      have hlo := hexDigit?_eq_some_iff.1 hlow
      obtain ⟨hdigits, hall⟩ := ih hrest
      rw [bytes?_cons_cons hhi hlo hrest] at h
      obtain rfl := Option.some.inj h
      refine ⟨?_, List.forall_mem_cons.2 ⟨⟨_, hhi⟩, List.forall_mem_cons.2 ⟨⟨_, hlo⟩, hall⟩⟩⟩
      rw [digits_ofNat_cons hhi.1 hlo.1, digitChar_of_isDigit hhi, digitChar_of_isDigit hlo,
        hdigits, List.map_cons, List.map_cons]
  | case4 hi lo rest hnone ih =>
      rw [bytes?] at h
      split at h
      · next hvalue lvalue bs hhigh hlow hrest => exact absurd hrest (hnone _ _ _ hhigh hlow)
      · cases h

theorem exists_bytes? {k : Nat} (hlength : cs.length = 2 * k) (h : ∀ c ∈ cs, IsHexDigit c) :
    ∃ b, bytes? cs = some b := by
  induction k generalizing cs with
  | zero =>
      obtain rfl := List.length_eq_zero_iff.1 hlength
      exact ⟨[], rfl⟩
  | succ k ih =>
      obtain ⟨hi, lo, rest, rfl⟩ : ∃ hi lo rest, cs = hi :: lo :: rest := by
        match cs, hlength with
        | hi :: lo :: rest, _ => exact ⟨hi, lo, rest, rfl⟩
      obtain ⟨⟨hvalue, hhi⟩, hothers⟩ := List.forall_mem_cons.1 h
      obtain ⟨⟨lvalue, hlo⟩, hrest⟩ := List.forall_mem_cons.1 hothers
      obtain ⟨bs, hbs⟩ := ih (by simpa [Nat.mul_succ] using hlength) hrest
      exact ⟨_, bytes?_cons_cons hhi hlo hbs⟩

theorem toUint?_eq_some_iff {w : Nat} (hw : 8 ∣ w) {s : String} {u : Uint w} :
    toUint? w s = some u ↔ toBytes? s = some (Bytes.ofUint u) := by
  unfold toUint?
  cases hread : toBytes? s with
  | none => simp
  | some b =>
      dsimp only
      constructor
      · intro h
        split at h
        · next hlength =>
            have hvalue := Uint.ofNat?_eq_some_iff.1 h
            rw [Bytes.ofUint, ← hvalue, ← hlength, Bytes.ofNat_toNat]
        · cases h
      · intro h
        obtain rfl := Option.some.inj h
        rw [if_pos (Bytes.length_ofUint u), Bytes.toNat_ofUint hw, Uint.ofNat?_toNat]

end Hex

namespace Numeral

open Json

variable {s : String} {cs ds : List Char} {id : JobId}

structure IdText (cs ds : List Char) : Prop where
  mark : cs = ds ∨ cs = '0' :: 'x' :: ds
  length : ds.length = 64
  digits : ∀ c ∈ ds, Hex.IsHexDigit c

theorem IdText.unmarked (h : IdText cs ds) : Hex.unmarked cs = ds := by
  rcases h.mark with rfl | rfl
  · exact unmarked_of_notMem (Hex.x_notMem h.digits)
  · rfl

theorem IdText.exists_id (h : IdText cs ds) :
    ∃ id : JobId, Hex.bytes? ds = some (Bytes.ofUint id) := by
  obtain ⟨b, hb⟩ := Hex.exists_bytes? (k := 32) h.length h.digits
  have hlength : b.length = 32 := by
    have hdigits := congrArg List.length (Hex.written_of_bytes? hb).1
    rw [Hex.length_digits, List.length_map, h.length] at hdigits
    omega
  obtain ⟨id, rfl⟩ : ∃ id : JobId, Bytes.ofUint id = b := Bytes.exists_ofUint (by decide) hlength
  exact ⟨id, hb⟩

theorem ofUint_of_bytes? (h : Hex.bytes? ds = some (Bytes.ofUint id)) :
    Hex.ofUint id = String.ofList ('0' :: 'x' :: ds.map Char.toLower) := by
  rw [Hex.ofUint, Hex.ofBytes, (Hex.written_of_bytes? h).1]

theorem jobId?_eq_some_iff :
    jobId? s = some id ↔
      ∃ ds, IdText s.toList ds ∧ Hex.bytes? ds = some (Bytes.ofUint id) := by
  rw [jobId?, Hex.toUint?_eq_some_iff (by decide), Hex.toBytes?]
  constructor
  · intro h
    obtain ⟨hwritten, hdigits⟩ := Hex.written_of_bytes? h
    have hlength := congrArg List.length hwritten
    rw [Hex.length_digits, Bytes.length_ofUint, List.length_map] at hlength
    exact ⟨_, ⟨(unmarked_cases s.toList).imp_left Eq.symm, hlength.symm, hdigits⟩, h⟩
  · rintro ⟨ds, htext, h⟩
    rwa [htext.unmarked]

theorem jobId?_ofUint (id : JobId) : jobId? (Hex.ofUint id) = some id :=
  (Hex.toUint?_eq_some_iff (by decide)).2 (Hex.toBytes?_ofBytes _)

theorem ids_read_and_shown_exactly (s : String) :
    (∀ t, (jobId? s).map Hex.ofUint = some t ↔
        ∃ ds, (s.toList = ds ∨ s.toList = '0' :: 'x' :: ds) ∧ ds.length = 64 ∧
          (∀ c ∈ ds, Hex.IsHexDigit c) ∧
          t = String.ofList ('0' :: 'x' :: ds.map Char.toLower)) ∧
      ∀ id, jobId? (Hex.ofUint id) = some id ∧ document asJobId (fullHex id).render = .ok id := by
  refine ⟨fun t => ?_, fun id => ⟨jobId?_ofUint id, document_render rfl (jobId?_ofUint id)⟩⟩
  rw [Option.map_eq_some_iff]
  constructor
  · rintro ⟨id, hread, rfl⟩
    obtain ⟨ds, ⟨hmark, hlength, hdigits⟩, h⟩ := jobId?_eq_some_iff.1 hread
    exact ⟨ds, hmark, hlength, hdigits, ofUint_of_bytes? h⟩
  · rintro ⟨ds, hmark, hlength, hdigits, rfl⟩
    have htext : IdText s.toList ds := ⟨hmark, hlength, hdigits⟩
    obtain ⟨id, h⟩ := htext.exists_id
    exact ⟨id, jobId?_eq_some_iff.2 ⟨ds, htext, h⟩, ofUint_of_bytes? h⟩

end Numeral

end BondedRelay
