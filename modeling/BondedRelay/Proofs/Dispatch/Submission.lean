import BondedRelay.Dispatch.Submission

namespace BondedRelay

structure DispatchRequest.Repeats (q q' : DispatchRequest) : Prop where
  destination : q'.destination = q.destination
  payload : q'.payload = q.payload
  fee : q'.fee = q.fee

theorem DispatchRequest.Repeats.refl (q : DispatchRequest) : q.Repeats q := ⟨rfl, rfl, rfl⟩

theorem DispatchRequest.Repeats.trans {q q' q'' : DispatchRequest} (h : q.Repeats q')
    (h' : q'.Repeats q'') : q.Repeats q'' :=
  ⟨h'.destination.trans h.destination, h'.payload.trans h.payload, h'.fee.trans h.fee⟩

namespace Submission

variable {σ : Type} [TxSubmitter σ] {config : RetryConfig} {world world' : σ} {left : Nat}
  {request next : DispatchRequest} {e : ChainError} {s : Submission σ}

inductive Sends (config : RetryConfig) : Nat → DispatchRequest → σ → Submission σ → Prop
  | accepted {left : Nat} {request : DispatchRequest} {world world' : σ} {txid : Hash}
      (hsubmit : TxSubmitter.submit world request = (.ok txid, world')) :
      Sends config left request world ⟨.ok txid, [request], 0, world'⟩
  | refused {left : Nat} {request : DispatchRequest} {world world' : σ} {e : ChainError}
      (hsubmit : TxSubmitter.submit world request = (.error e, world'))
      (hfinal : e.isTransient = false) :
      Sends config left request world ⟨.error (.failed (.chain e)), [request], 0, world'⟩
  | exhausted {request : DispatchRequest} {world world' : σ} {e : ChainError}
      (hsubmit : TxSubmitter.submit world request = (.error e, world'))
      (htransient : e.isTransient = true) :
      Sends config 0 request world
        ⟨.error (.failed (.retriesExhausted (attempts config) e)), [request], 0, world'⟩
  | unmended {left : Nat} {request : DispatchRequest} {world world' world'' : σ}
      {e : ChainError} {halt : Halt}
      (hsubmit : TxSubmitter.submit world request = (.error e, world'))
      (htransient : e.isTransient = true)
      (hmended : mended config world' request e = (.error halt, world'')) :
      Sends config (left + 1) request world ⟨.error halt, [request], 0, world''⟩
  | again {left : Nat} {request next : DispatchRequest} {world world' world'' : σ}
      {e : ChainError} {s : Submission σ}
      (hsubmit : TxSubmitter.submit world request = (.error e, world'))
      (htransient : e.isTransient = true)
      (hmended : mended config world' request e = (.ok next, world''))
      (hrest : Sends config left next world'' s) :
      Sends config (left + 1) request world
        { s with requests := request :: s.requests, retries := s.retries + 1 }

theorem sends (config : RetryConfig) (left : Nat) (request : DispatchRequest) (world : σ) :
    Sends config left request world (sendFrom config left request world) := by
  induction left generalizing request world with
  | zero =>
      unfold sendFrom
      rcases hsubmit : TxSubmitter.submit world request with ⟨e | txid, world'⟩
      · cases hkind : e.isTransient with
        | false => simpa [hkind] using Sends.refused hsubmit hkind
        | true => simpa [hkind] using Sends.exhausted hsubmit hkind
      · exact .accepted hsubmit
  | succ left ih =>
      unfold sendFrom
      rcases hsubmit : TxSubmitter.submit world request with ⟨e | txid, world'⟩
      · cases hkind : e.isTransient with
        | false => simpa [hkind] using Sends.refused hsubmit hkind
        | true =>
            rcases hmended : mended config world' request e with ⟨halt | next, world''⟩
            · simpa [hkind, hmended] using Sends.unmended hsubmit hkind hmended
            · simpa [hkind, hmended] using Sends.again hsubmit hkind hmended (ih next world'')
      · exact .accepted hsubmit

theorem repeats_of_mended (h : mended config world request e = (.ok next, world')) :
    request.Repeats next := by
  unfold mended at h
  split at h
  · split at h
    · simp at h
    · obtain ⟨rfl, -⟩ := by simpa using h
      exact ⟨rfl, rfl, rfl⟩
  · split at h
    · simp at h
    · obtain ⟨rfl, -⟩ := by simpa using h
      exact ⟨rfl, rfl, rfl⟩

theorem Sends.repeats (h : Sends config left request world s) :
    ∀ q ∈ s.requests, request.Repeats q := by
  induction h with
  | again hsubmit htransient hmended hrest ih =>
      intro q hq
      rcases List.mem_cons.1 hq with rfl | hlater
      · exact .refl q
      · exact (repeats_of_mended hmended).trans (ih q hlater)
  | _ =>
      intro q hq
      obtain rfl := List.mem_singleton.1 hq
      exact .refl q

theorem Sends.requests_ne_nil (h : Sends config left request world s) : s.requests ≠ [] := by
  cases h <;> simp

inductive Submits (config : RetryConfig) (world : σ) (destination : Uint 32) (payload : Payload)
    (fee : Amount) : Submission σ → Prop
  | unpriced {world' : σ} {e : ChainError}
      (hprice : TxSubmitter.gasPrice world = (.error e, world')) :
      Submits config world destination payload fee ⟨.error (.failed (.chain e)), [], 0, world'⟩
  | unnumbered {world' world'' : σ} {price : Amount} {e : ChainError}
      (hprice : TxSubmitter.gasPrice world = (.ok price, world'))
      (hnonce : TxSubmitter.nextNonce world' = (.error e, world'')) :
      Submits config world destination payload fee ⟨.error (.failed (.chain e)), [], 0, world''⟩
  | sent {world' world'' : σ} {price nonce : Amount} {s : Submission σ}
      (hprice : TxSubmitter.gasPrice world = (.ok price, world'))
      (hnonce : TxSubmitter.nextNonce world' = (.ok nonce, world''))
      (hsends : Sends config (attempts config - 1) ⟨destination, payload, fee, price, nonce⟩
        world'' s) :
      Submits config world destination payload fee s

variable {destination : Uint 32} {payload : Payload} {fee : Amount}

theorem submits (config : RetryConfig) (world : σ) (destination : Uint 32) (payload : Payload)
    (fee : Amount) :
    Submits config world destination payload fee (submit config world destination payload fee) := by
  unfold submit
  rcases hprice : TxSubmitter.gasPrice world with ⟨e | price, world'⟩
  · exact .unpriced hprice
  · rcases hnonce : TxSubmitter.nextNonce world' with ⟨e | nonce, world''⟩
    · simpa [hnonce] using Submits.unnumbered hprice hnonce
    · simpa [hnonce] using Submits.sent hprice hnonce (sends ..)

theorem Submits.repeats (h : Submits config world destination payload fee s) :
    ∀ q ∈ s.requests, q.destination = destination ∧ q.payload = payload ∧ q.fee = fee := by
  intro q hq
  cases h with
  | sent hprice hnonce hsends =>
      obtain ⟨hdestination, hpayload, hfee⟩ := hsends.repeats q hq
      exact ⟨hdestination, hpayload, hfee⟩
  | _ => exact absurd hq List.not_mem_nil

theorem Submits.requests_ne_nil {txid : Hash}
    (h : Submits config world destination payload fee s) (hok : s.result = .ok txid) :
    s.requests ≠ [] := by
  cases h with
  | sent hprice hnonce hsends => exact hsends.requests_ne_nil
  | _ => simp at hok

end Submission

end BondedRelay
