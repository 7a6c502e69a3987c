import Mathlib.Data.List.Nodup
import BondedRelay.Job.Outbox
import BondedRelay.Proofs.Coordinator.Delivered

namespace BondedRelay

theorem Uint.clamp_eq_clamp_iff {w m n : Nat} (h : m < n) :
    (clamp m : Uint w) = clamp n ↔ limit w ≤ m + 1 := by
  have hlimit := limit_pos w
  rw [Uint.ext_iff, toNat_clamp, toNat_clamp]
  omega

namespace Outbox

structure Order where
  destination : Uint 32
  target : Address
  gasLimit : Uint 64
  gasPrice : Amount
  data : Bytes
  deriving DecidableEq, Repr

variable {o : Outbox} {x y : Order} {orders : List Order} {i j : Nat}

def Order.payload (x : Order) (sourceChain : Uint 32) (nonce : Amount) : Payload :=
  { sourceChain, target := x.target, nonce, data := x.data, gasLimit := x.gasLimit,
    gasPrice := x.gasPrice }

def send (o : Outbox) (x : Order) : Outbound × Outbox :=
  o.dispatch x.destination x.target x.gasLimit x.gasPrice x.data

def sendAll : Outbox → List Order → List Outbound
  | _, [] => []
  | o, x :: rest => (o.send x).1 :: (o.send x).2.sendAll rest

def nonce (o : Outbox) (i : Nat) : Amount := .clamp (o.nextNonce.toNat + i)

theorem nonce_zero (o : Outbox) : o.nonce 0 = o.nextNonce := by
  have hnext := o.nextNonce.toNat_le
  apply Uint.ext
  rw [nonce, Uint.toNat_clamp]
  omega

theorem nonce_send (o : Outbox) (x : Order) (i : Nat) :
    (o.send x).2.nonce i = o.nonce (i + 1) := by
  have hone : (1 : Amount).toNat = 1 := by decide
  apply Uint.ext
  show min ((o.nextNonce.satAdd 1).toNat + i) _ = min (o.nextNonce.toNat + (i + 1)) _
  rw [Uint.toNat_satAdd, hone]
  omega

theorem getElem?_sendAll (o : Outbox) (orders : List Order) (i : Nat) :
    (o.sendAll orders)[i]? =
      orders[i]?.map fun x => ⟨x.destination, x.payload o.sourceChain (o.nonce i)⟩ := by
  induction orders generalizing o i with
  | nil => rfl
  | cons x rest ih =>
      cases i with
      | zero =>
          rw [nonce_zero]
          rfl
      | succ i =>
          rw [sendAll, List.getElem?_cons_succ, List.getElem?_cons_succ, ih, nonce_send]
          rfl

def payloads (o : Outbox) (orders : List Order) : List Payload :=
  (o.sendAll orders).map Outbound.payload

theorem getElem?_payloads (h : orders[i]? = some x) :
    (o.payloads orders)[i]? = some (x.payload o.sourceChain (o.nonce i)) := by
  rw [payloads, List.getElem?_map, getElem?_sendAll, h]
  rfl

theorem nonce_eq_nonce_iff (o : Outbox) (h : i < j) :
    o.nonce i = o.nonce j ↔ Uint.limit 256 ≤ o.nextNonce.toNat + i + 1 :=
  Uint.clamp_eq_clamp_iff (Nat.add_lt_add_left h _)

theorem payload_eq_payload_iff {chain : Uint 32} {n m : Amount} :
    x.payload chain n = y.payload chain m ↔
      n = m ∧ y = { x with destination := y.destination } := by
  obtain ⟨destination, target, gasLimit, gasPrice, data⟩ := x
  obtain ⟨destination', target', gasLimit', gasPrice', data'⟩ := y
  simp only [Order.payload, Payload.mk.injEq, Order.mk.injEq]
  grind

theorem map_nonce_payloads (o : Outbox) (orders : List Order) :
    (o.payloads orders).map Payload.nonce = (List.range orders.length).map o.nonce := by
  apply List.ext_getElem?
  intro i
  rw [payloads, List.map_map, List.getElem?_map, getElem?_sendAll, List.getElem?_map]
  by_cases hi : i < orders.length
  · rw [List.getElem?_eq_getElem hi, List.getElem?_range hi]
    rfl
  · rw [List.getElem?_eq_none (by omega), List.getElem?_eq_none (by simpa using hi)]
    rfl

theorem nodup_nonces_iff :
    ((o.payloads orders).map Payload.nonce).Nodup ↔
      o.nextNonce.toNat + orders.length ≤ Uint.limit 256 := by
  have hnext := o.nextNonce.isLt
  rw [map_nonce_payloads, List.nodup_map_iff_inj_on List.nodup_range]
  simp only [List.mem_range]
  constructor
  · intro h
    by_contra hlong
    -- The last two are sent when the largest number has been reached.
    have hsame := (o.nonce_eq_nonce_iff (Nat.lt_succ_self (orders.length - 2))).2 (by omega)
    have hindex := h _ (by omega) _ (by omega) hsame
    omega
  · intro h i hi j hj hsame
    rcases Nat.lt_trichotomy i j with hlt | heq | hgt
    · have hfull := (o.nonce_eq_nonce_iff hlt).1 hsame
      omega
    · exact heq
    · have hfull := (o.nonce_eq_nonce_iff hgt).1 hsame.symm
      omega

theorem nonces_apart_until_top (o : Outbox) (orders : List Order) :
    let sent := o.payloads orders
    ((sent.map Payload.nonce).Nodup ↔ o.nextNonce.toNat + orders.length ≤ Uint.limit 256) ∧
      ((sent.map Payload.nonce).Nodup → (sent.map Payload.toBytes).Nodup ∧
        (Coordinator.CollisionFree sent → (sent.map Payload.jobId).Nodup)) ∧
      ∀ i j x y, i < j → orders[i]? = some x → orders[j]? = some y →
        ∃ p q, sent[i]? = some p ∧ sent[j]? = some q ∧
          (p.nonce = q.nonce ↔ Uint.limit 256 ≤ o.nextNonce.toNat + i + 1) ∧
          (p.toBytes = q.toBytes ↔
            p.nonce = q.nonce ∧ y = { x with destination := y.destination }) ∧
          (Coordinator.CollisionFree sent → (p.jobId = q.jobId ↔ p.toBytes = q.toBytes)) := by
  intro sent
  refine ⟨nodup_nonces_iff, fun hnonces => ?_, fun i j x y hij hx hy => ?_⟩
  · have hsent : sent.Nodup := .of_map Payload.nonce hnonces
    refine ⟨hsent.map fun p q h => Payload.toBytes_injective h, fun hcollision => ?_⟩
    exact hsent.map_on fun p hp q hq h => hcollision.eq_of_jobId_eq hp hq h
  · have hp : sent[i]? = some (x.payload o.sourceChain (o.nonce i)) := getElem?_payloads hx
    have hq : sent[j]? = some (y.payload o.sourceChain (o.nonce j)) := getElem?_payloads hy
    refine ⟨_, _, hp, hq, o.nonce_eq_nonce_iff hij, ?_, fun hcollision => ?_⟩
    · constructor
      · intro h
        exact payload_eq_payload_iff.1 (Payload.toBytes_injective h)
      · intro h
        exact congrArg Payload.toBytes (payload_eq_payload_iff.2 h)
    · constructor
      · intro h
        exact hcollision _ (List.mem_of_getElem? hp) _ (List.mem_of_getElem? hq) h
      · intro h
        exact congrArg keccak h

theorem largest_nonce_sent_twice :
    let o : Outbox := ⟨5, .top⟩
    let x : Order := ⟨10, 3, 30, 12, [1]⟩
    let sent := o.payloads [x, x]
    ¬ (sent.map Payload.nonce).Nodup ∧ ¬ (sent.map Payload.toBytes).Nodup ∧
      ¬ (sent.map Payload.jobId).Nodup := by
  decide +kernel

end Outbox

end BondedRelay
