import Mathlib.Data.List.Nodup
import BondedRelay.Job.Assignment
import BondedRelay.Proofs.Job.Payload

namespace BondedRelay

inductive Hashed where
  | payload (p : Payload)
  | block (number : Uint 64)
  | draw (job : JobId) (blockHash : Hash) (tweak : Uint 64)

namespace Hashed

variable {x y : Hashed}

def input : Hashed → Bytes
  | payload p => p.toBytes
  | block number => Clock.blockHashInput number
  | draw job blockHash tweak => Entropy.seedInput job blockHash tweak

theorem length_payload (p : Payload) : 228 ≤ (payload p).input.length := by
  rw [input, p.length_toBytes]
  exact Nat.le_add_right ..

theorem length_block (number : Uint 64) : (block number).input.length = 13 := by
  have htag : (Bytes.ofText "block").length = 5 := by decide +kernel
  rw [input, Clock.blockHashInput, List.length_append, Bytes.length_ofUint, htag]

theorem length_draw (job : JobId) (blockHash : Hash) (tweak : Uint 64) :
    (draw job blockHash tweak).input.length = 72 := by
  rw [input, Entropy.seedInput, List.length_append, List.length_append, Bytes.length_ofUint,
    Bytes.length_ofUint, Bytes.length_ofUint]

theorem block_ne_payload (number : Uint 64) (p : Payload) :
    (block number).input ≠ (payload p).input := by
  intro h
  have hlong := length_payload p
  rw [← h, length_block] at hlong
  omega

theorem draw_ne_payload (job : JobId) (blockHash : Hash) (tweak : Uint 64) (p : Payload) :
    (draw job blockHash tweak).input ≠ (payload p).input := by
  intro h
  have hlong := length_payload p
  rw [← h, length_draw] at hlong
  omega

theorem draw_ne_block (job : JobId) (blockHash : Hash) (tweak number : Uint 64) :
    (draw job blockHash tweak).input ≠ (block number).input := by
  intro h
  have hlength := congrArg List.length h
  rw [length_draw, length_block] at hlength
  omega

theorem block_injective {m n : Uint 64} (h : (block m).input = (block n).input) : m = n :=
  Bytes.ofUint_injective (by decide) (List.append_cancel_left h)

theorem draw_injective {job job' : JobId} {blockHash blockHash' : Hash} {tweak tweak' : Uint 64}
    (h : (draw job blockHash tweak).input = (draw job' blockHash' tweak').input) :
    job = job' ∧ blockHash = blockHash' ∧ tweak = tweak' := by
  have hwidth {w : Nat} (a b : Uint w) : (Bytes.ofUint a).length = (Bytes.ofUint b).length := by
    rw [Bytes.length_ofUint, Bytes.length_ofUint]
  obtain ⟨hjob, hrest⟩ := List.append_inj h (hwidth ..)
  obtain ⟨hblock, htweak⟩ := List.append_inj hrest (hwidth ..)
  exact ⟨Bytes.ofUint_injective (by decide) hjob, Bytes.ofUint_injective (by decide) hblock,
    Bytes.ofUint_injective (by decide) htweak⟩

theorem eq_of_input_eq (h : x.input = y.input) : x = y := by
  cases x with
  | payload p =>
      cases y with
      | payload q => exact congrArg payload (Payload.toBytes_injective h)
      | block number => exact (block_ne_payload _ _ h.symm).elim
      | draw job blockHash tweak => exact (draw_ne_payload _ _ _ _ h.symm).elim
  | block number =>
      cases y with
      | payload q => exact (block_ne_payload _ _ h).elim
      | block number' => exact congrArg block (block_injective h)
      | draw job blockHash tweak => exact (draw_ne_block _ _ _ _ h.symm).elim
  | draw job blockHash tweak =>
      cases y with
      | payload q => exact (draw_ne_payload _ _ _ _ h).elim
      | block number => exact (draw_ne_block _ _ _ _ h).elim
      | draw job' blockHash' tweak' =>
          obtain ⟨rfl, rfl, rfl⟩ := draw_injective h
          rfl

end Hashed

structure Draws (α : Type) where
  pod : α
  primary : α
  fallbacks : List α

namespace Draws

variable {α β : Type} {count k : Nat}

def toList (d : Draws α) : List α := d.pod :: d.primary :: d.fallbacks

def map (f : α → β) (d : Draws α) : Draws β := ⟨f d.pod, f d.primary, d.fallbacks.map f⟩

theorem toList_map (f : α → β) (d : Draws α) : (d.map f).toList = d.toList.map f := rfl

def tweaks (count : Nat) : Draws (Uint 64) where
  pod := Entropy.podTweak
  primary := Entropy.primaryTweak
  fallbacks := (List.range count).map Entropy.fallbackTweak

theorem map_toNat_tweaks (h : count < Uint.limit 64) :
    (tweaks count).toList.map Uint.toNat = (Uint.limit 64 - 1) :: List.range (count + 1) := by
  have hfallbacks : (tweaks count).fallbacks.map Uint.toNat = (List.range count).map Nat.succ := by
    rw [tweaks, List.map_map]
    refine List.map_congr_left fun k hk => Nat.mod_eq_of_lt ?_
    have hk := List.mem_range.1 hk
    omega
  rw [toList, List.map_cons, List.map_cons, hfallbacks, List.range_succ_eq_map]
  exact congrArg₂ List.cons Uint.toNat_top (congrArg (List.cons · _) Uint.toNat_zero)

theorem nodup_tweaks (h : count + 2 ≤ Uint.limit 64) : (tweaks count).toList.Nodup := by
  refine .of_map Uint.toNat ?_
  rw [map_toNat_tweaks (by omega), List.nodup_cons]
  refine ⟨fun hmem => ?_, List.nodup_range⟩
  have hbelow := List.mem_range.1 hmem
  omega

variable {γ : Type} [ChainContext γ]

def record (seeds : Draws Amount) (config : Protocol) (pods : PodRegistry) (chain : γ)
    (payload : Payload) : JobRecord :=
  let pod := match config.podPolicy with
    | .fixed pod => pod
    | .random => (pods.populated[Entropy.pick seeds.pod pods.populated.length]?).getD 1
  let members := pods.membersOf pod
  let place (seed : Amount) : Nat := Entropy.pick seed members.length
  { id := payload.jobId, pod,
    sourceChain := payload.sourceChain,
    primary := (members[place seeds.primary]?).getD 0,
    assignedBlock := ChainContext.block chain,
    assignedAt := ChainContext.timestamp chain,
    fallbacks :=
      if members.length = 0 then [] else seeds.fallbacks.map fun seed => .wrap (place seed),
    gasLimit := payload.gasLimit,
    gasPrice := payload.gasPrice,
    status := .pending }

def inputs (config : Protocol) (chain : γ) (payload : Payload) : Draws Bytes :=
  (tweaks config.fallbackCount.toNat).map
    (Entropy.seedInput payload.jobId (ChainContext.recentBlockHash chain))

theorem assign_eq_record (config : Protocol) (pods : PodRegistry) (chain : γ) (payload : Payload) :
    Assignment.assign config pods chain payload =
      ((inputs config chain payload).map keccak).record config pods chain payload := by
  unfold Assignment.assign Assignment.choosePod Assignment.primary Assignment.fallbacks record
  simp only [inputs, tweaks, map, List.map_map]
  cases config.podPolicy with
  | fixed pod => rfl
  | random => rfl

theorem draws_hash_apart (config : Protocol) (pods : PodRegistry) (chain : γ) (payload : Payload) :
    (∀ x y : Hashed, x.input = y.input ↔ x = y) ∧
      (∀ count : Uint 8, (tweaks count.toNat).toList.Nodup) ∧
      (inputs config chain payload).toList.Nodup ∧
      Assignment.assign config pods chain payload =
        ((inputs config chain payload).map keccak).record config pods chain payload := by
  have htweaks (count : Uint 8) : (tweaks count.toNat).toList.Nodup := by
    have hcount := count.isLt
    have hroom : Uint.limit 8 + 2 ≤ Uint.limit 64 := by decide
    exact nodup_tweaks (by omega)
  refine ⟨fun x y => ⟨Hashed.eq_of_input_eq, congrArg Hashed.input⟩, htweaks, ?_,
    assign_eq_record ..⟩
  rw [inputs, toList_map]
  exact (htweaks _).map fun _ _ hsame => (Hashed.draw_injective hsame).2.2

end Draws

end BondedRelay
