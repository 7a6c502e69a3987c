import BondedRelay.Proofs.Dispatch.Submission

namespace BondedRelay

inductive TxCall where
  | gasPrice (answer : Except ChainError Amount)
  | nextNonce (answer : Except ChainError Amount)
  | submit (request : DispatchRequest) (answer : Except ChainError Hash)

namespace TxCall

def request? : TxCall → Option DispatchRequest
  | .submit request _ => some request
  | _ => none

def verdict? : TxCall → Option (Except Halt Hash)
  | .gasPrice (.error e) => some (.error (.failed (.chain e)))
  | .nextNonce (.error e) => some (.error (.failed (.chain e)))
  | .submit _ (.ok txid) => some (.ok txid)
  | .submit _ (.error e) => if e.isTransient then none else some (.error (.failed (.chain e)))
  | _ => none

def requests (calls : List TxCall) : List DispatchRequest := calls.filterMap request?

variable {calls : List TxCall}

@[simp]
theorem requests_nil : requests [] = [] := rfl

@[simp]
theorem requests_gasPrice {answer : Except ChainError Amount} :
    requests (.gasPrice answer :: calls) = requests calls := rfl

@[simp]
theorem requests_nextNonce {answer : Except ChainError Amount} :
    requests (.nextNonce answer :: calls) = requests calls := rfl

@[simp]
theorem requests_submit {request : DispatchRequest} {answer : Except ChainError Hash} :
    requests (.submit request answer :: calls) = request :: requests calls := rfl

end TxCall

structure Overheard (σ : Type) where
  world : σ
  calls : List TxCall

namespace Overheard

variable {σ : Type}

def hear {α : Type} (w : Overheard σ) (call : α → TxCall) (answer : α × σ) : α × Overheard σ :=
  (answer.1, ⟨answer.2, w.calls ++ [call answer.1]⟩)

instance [TxSubmitter σ] : TxSubmitter (Overheard σ) where
  gasPrice w := w.hear .gasPrice (TxSubmitter.gasPrice w.world)
  nextNonce w := w.hear .nextNonce (TxSubmitter.nextNonce w.world)
  submit w request := w.hear (.submit request) (TxSubmitter.submit w.world request)

variable [TxSubmitter σ] {world world' : σ} {log : List TxCall}

theorem gasPrice_eq {answer : Except ChainError Amount}
    (h : TxSubmitter.gasPrice world = (answer, world')) :
    TxSubmitter.gasPrice (⟨world, log⟩ : Overheard σ) =
      (answer, ⟨world', log ++ [.gasPrice answer]⟩) := by
  simp [TxSubmitter.gasPrice, hear, h]

theorem nextNonce_eq {answer : Except ChainError Amount}
    (h : TxSubmitter.nextNonce world = (answer, world')) :
    TxSubmitter.nextNonce (⟨world, log⟩ : Overheard σ) =
      (answer, ⟨world', log ++ [.nextNonce answer]⟩) := by
  simp [TxSubmitter.nextNonce, hear, h]

theorem submit_eq {request : DispatchRequest} {answer : Except ChainError Hash}
    (h : TxSubmitter.submit world request = (answer, world')) :
    TxSubmitter.submit (⟨world, log⟩ : Overheard σ) request =
      (answer, ⟨world', log ++ [.submit request answer]⟩) := by
  simp [TxSubmitter.submit, hear, h]

end Overheard

namespace Submission

variable {config : RetryConfig} {left : Nat} {request : DispatchRequest} {calls : List TxCall}
  {result : Except Halt Hash}

theorem raisedPrice?_eq_none_iff {price : Amount} :
    raisedPrice? config price = none ↔ Uint.limit 32 ≤ factor config := by
  rw [raisedPrice?, Option.map_eq_none_iff, Uint.ofNat?_eq_none_iff]

theorem raised_of_lt_top {price raised : Amount} (h : raisedPrice? config price = some raised) :
    price < raised ∨ price = .top ∧ raised = .top := by
  obtain ⟨bps, -, rfl⟩ := Option.map_eq_some_iff.1 h
  have hprice := price.toNat_le
  have hraised := (max (BasisPoints.apply price bps) (price.satAdd 1)).toNat_le
  have hle : min (price.toNat + 1) (Uint.limit 256 - 1) ≤
      (max (BasisPoints.apply price bps) (price.satAdd 1)).toNat := by
    rw [Uint.toNat_max, Uint.toNat_satAdd]
    exact Nat.le_max_right ..
  rw [Uint.lt_iff, Uint.ext_iff, Uint.ext_iff, Uint.toNat_top]
  omega

inductive Dialogue (config : RetryConfig) :
    Nat → DispatchRequest → List TxCall → Except Halt Hash → Prop
  | accepted {left : Nat} {request : DispatchRequest} {txid : Hash} :
      Dialogue config left request [.submit request (.ok txid)] (.ok txid)
  | refused {left : Nat} {request : DispatchRequest} {e : ChainError}
      (hfinal : e.isTransient = false) :
      Dialogue config left request [.submit request (.error e)] (.error (.failed (.chain e)))
  | exhausted {request : DispatchRequest} {e : ChainError} (htransient : e.isTransient = true) :
      Dialogue config 0 request [.submit request (.error e)]
        (.error (.failed (.retriesExhausted (attempts config) e)))
  | unnumbered {left : Nat} {request : DispatchRequest} {text : String} {e : ChainError} :
      Dialogue config (left + 1) request
        [.submit request (.error (.nonceUsed text)), .nextNonce (.error e)]
        (.error (.failed (.chain e)))
  | renumbered {left : Nat} {request : DispatchRequest} {text : String} {nonce : Amount}
      {calls : List TxCall} {result : Except Halt Hash}
      (hrest : Dialogue config left { request with nonce } calls result) :
      Dialogue config (left + 1) request
        (.submit request (.error (.nonceUsed text)) :: .nextNonce (.ok nonce) :: calls) result
  | overflowed {left : Nat} {request : DispatchRequest} {text : String}
      (hprice : raisedPrice? config request.txGasPrice = none) :
      Dialogue config (left + 1) request [.submit request (.error (.feeTooLow text))]
        (.error .panicked)
  | raised {left : Nat} {request : DispatchRequest} {text : String} {txGasPrice : Amount}
      {calls : List TxCall} {result : Except Halt Hash}
      (hprice : raisedPrice? config request.txGasPrice = some txGasPrice)
      (hrest : Dialogue config left { request with txGasPrice } calls result) :
      Dialogue config (left + 1) request
        (.submit request (.error (.feeTooLow text)) :: calls) result

section Overheard

variable {σ : Type} [TxSubmitter σ] {world : σ} {s : Submission σ}

theorem Sends.overheard (h : Sends config left request world s) (log : List TxCall) :
    ∃ calls, sendFrom config left request (⟨world, log⟩ : Overheard σ) =
        ⟨s.result, s.requests, s.retries, ⟨s.world, log ++ calls⟩⟩ ∧
      TxCall.requests calls = s.requests ∧
      Dialogue config left request calls s.result := by
  -- On how the submission goes in the world inside; what is said after a request is heard with the
  -- request itself, and the new nonce where one is read, already in the log.
  induction h generalizing log with
  | accepted hsubmit =>
      refine ⟨[.submit _ (.ok _)], ?_, rfl, .accepted⟩
      unfold sendFrom
      simp [Overheard.submit_eq hsubmit]
  | @refused left request world world' e hsubmit hfinal =>
      refine ⟨[.submit request (.error e)], ?_, rfl, .refused hfinal⟩
      unfold sendFrom
      cases left <;> simp [Overheard.submit_eq hsubmit, hfinal]
  | exhausted hsubmit htransient =>
      refine ⟨[.submit _ (.error _)], ?_, rfl, .exhausted htransient⟩
      unfold sendFrom
      simp [Overheard.submit_eq hsubmit, htransient]
  | @unmended left request world world' world'' e halt hsubmit htransient hmended =>
      cases e with
      | nonceUsed text =>
          rcases hnonce : TxSubmitter.nextNonce world' with ⟨e | nonce, renumbered⟩
          · obtain ⟨rfl, rfl⟩ := by simpa [mended, hnonce] using hmended
            refine ⟨[.submit request (.error (.nonceUsed text)), .nextNonce (.error e)], ?_, rfl,
              .unnumbered⟩
            unfold sendFrom
            simp [Overheard.submit_eq hsubmit, ChainError.isTransient, mended,
              Overheard.nextNonce_eq hnonce]
          · simp [mended, hnonce] at hmended
      | feeTooLow text =>
          rcases hprice : raisedPrice? config request.txGasPrice with _ | txGasPrice
          · obtain ⟨rfl, rfl⟩ := by simpa [mended, hprice] using hmended
            refine ⟨[.submit request (.error (.feeTooLow text))], ?_, rfl, .overflowed hprice⟩
            unfold sendFrom
            simp [Overheard.submit_eq hsubmit, ChainError.isTransient, mended, hprice]
          · simp [mended, hprice] at hmended
      | _ => simp [ChainError.isTransient] at htransient
  | @again left request next world world' world'' e s hsubmit htransient hmended hrest ih =>
      cases e with
      | nonceUsed text =>
          rcases hnonce : TxSubmitter.nextNonce world' with ⟨e | nonce, renumbered⟩
          · simp [mended, hnonce] at hmended
          · obtain ⟨rfl, rfl⟩ := by simpa [mended, hnonce] using hmended
            obtain ⟨calls, hsend, hrequests, hdialogue⟩ := ih
              (log ++ [.submit request (.error (.nonceUsed text))] ++ [.nextNonce (.ok nonce)])
            refine ⟨.submit request (.error (.nonceUsed text)) :: .nextNonce (.ok nonce) :: calls,
              ?_, by simpa using hrequests, .renumbered hdialogue⟩
            simp only [List.append_assoc, List.cons_append, List.nil_append] at hsend
            unfold sendFrom
            simp [Overheard.submit_eq hsubmit, ChainError.isTransient, mended,
              Overheard.nextNonce_eq hnonce, hsend]
      | feeTooLow text =>
          rcases hprice : raisedPrice? config request.txGasPrice with _ | txGasPrice
          · simp [mended, hprice] at hmended
          · obtain ⟨rfl, rfl⟩ := by simpa [mended, hprice] using hmended
            obtain ⟨calls, hsend, hrequests, hdialogue⟩ := ih
              (log ++ [.submit request (.error (.feeTooLow text))])
            refine ⟨.submit request (.error (.feeTooLow text)) :: calls, ?_,
              by simpa using hrequests, .raised hprice hdialogue⟩
            simp only [List.append_assoc, List.cons_append, List.nil_append] at hsend
            unfold sendFrom
            simp [Overheard.submit_eq hsubmit, ChainError.isTransient, mended, hprice, hsend]
      | _ => simp [ChainError.isTransient] at htransient

theorem Sends.counted (h : Sends config left request world s) :
    s.retries + 1 = s.requests.length := by
  induction h with
  | again hsubmit htransient hmended hrest ih => simpa using ih
  | _ => rfl

end Overheard

theorem Dialogue.opened (h : Dialogue config left request calls result) :
    ∃ answer later, calls = .submit request answer :: later := by
  cases h <;> exact ⟨_, _, rfl⟩

theorem Dialogue.length_le (h : Dialogue config left request calls result) :
    (TxCall.requests calls).length ≤ left + 1 := by
  induction h with
  | renumbered hrest ih => simpa using ih
  | raised hprice hrest ih => simpa using ih
  | _ => simp

inductive Settles (config : RetryConfig) (made allowed : Nat) :
    TxCall → Except Halt Hash → Prop
  | told {call : TxCall} {result : Except Halt Hash} (hverdict : call.verdict? = some result) :
      Settles config made allowed call result
  | exhausted {request : DispatchRequest} {e : ChainError} (hmade : made = allowed)
      (htransient : e.isTransient = true) :
      Settles config made allowed (.submit request (.error e))
        (.error (.failed (.retriesExhausted (attempts config) e)))
  | overflowed {request : DispatchRequest} {text : String} (hmade : made < allowed)
      (hlarge : Uint.limit 32 ≤ factor config) :
      Settles config made allowed (.submit request (.error (.feeTooLow text))) (.error .panicked)

theorem Settles.add {made allowed : Nat} {call : TxCall}
    (h : Settles config made allowed call result) (more : Nat) :
    Settles config (made + more) (allowed + more) call result := by
  cases h with
  | told hverdict => exact .told hverdict
  | exhausted hmade htransient => exact .exhausted (congrArg (· + more) hmade) htransient
  | overflowed hmade hlarge => exact .overflowed (Nat.add_lt_add_right hmade more) hlarge

def Ends (config : RetryConfig) (allowed : Nat) (calls : List TxCall)
    (result : Except Halt Hash) : Prop :=
  ∃ earlier last, calls = earlier ++ [last] ∧ (∀ call ∈ earlier, call.verdict? = none) ∧
    Settles config (TxCall.requests calls).length allowed last result

theorem Ends.cons {allowed : Nat} (h : Ends config allowed calls result) (call : TxCall)
    (hopen : call.verdict? = none) :
    Ends config (allowed + (TxCall.requests [call]).length) (call :: calls) result := by
  obtain ⟨earlier, last, rfl, hearlier, hlast⟩ := h
  refine ⟨call :: earlier, last, rfl, by simpa using ⟨hopen, hearlier⟩, ?_⟩
  cases call with
  | submit request answer => simpa using hlast.add 1
  | _ => simpa using hlast

theorem Ends.settles {allowed : Nat} {before : List TxCall} {call : TxCall}
    (h : Ends config allowed (before ++ [call]) result) :
    Settles config (TxCall.requests (before ++ [call])).length allowed call result := by
  obtain ⟨earlier, last, hcalls, -, hlast⟩ := h
  obtain ⟨-, rfl⟩ := List.append_singleton_inj.1 hcalls
  exact hlast

theorem Dialogue.ends (h : Dialogue config left request calls result) :
    Ends config (left + 1) calls result := by
  induction h with
  | accepted => exact ⟨[], _, rfl, by simp, .told rfl⟩
  | refused hfinal => exact ⟨[], _, rfl, by simp, .told (by simp [TxCall.verdict?, hfinal])⟩
  | exhausted htransient => exact ⟨[], _, rfl, by simp, .exhausted rfl htransient⟩
  | @unnumbered left request text e =>
      exact ⟨[.submit request (.error (.nonceUsed text))], _, rfl,
        by simp [TxCall.verdict?, ChainError.isTransient], .told rfl⟩
  | @overflowed left request text hprice =>
      refine ⟨[], _, rfl, by simp, .overflowed ?_ (raisedPrice?_eq_none_iff.1 hprice)⟩
      exact Nat.succ_lt_succ (Nat.succ_pos left)
  | renumbered hrest ih => exact (ih.cons (.nextNonce _) rfl).cons (.submit _ _) rfl
  | raised hprice hrest ih => exact ih.cons (.submit _ _) rfl

inductive Resumes (request : DispatchRequest) : ChainError → List TxCall → Prop
  | stops {e : ChainError} : Resumes request e []
  | unnumbered {text : String} {e : ChainError} :
      Resumes request (.nonceUsed text) [.nextNonce (.error e)]
  | renumbered {text : String} {nonce : Amount} {answer : Except ChainError Hash}
      {later : List TxCall} :
      Resumes request (.nonceUsed text)
        (.nextNonce (.ok nonce) :: .submit { request with nonce } answer :: later)
  | raised {text : String} {txGasPrice : Amount} {answer : Except ChainError Hash}
      {later : List TxCall}
      (hprice : request.txGasPrice < txGasPrice ∨ request.txGasPrice = .top ∧ txGasPrice = .top) :
      Resumes request (.feeTooLow text) (.submit { request with txGasPrice } answer :: later)

inductive Mends (config : RetryConfig) (request : DispatchRequest) :
    ChainError → List TxCall → Prop
  | stops {e : ChainError} : Mends config request e []
  | unnumbered {text : String} {e : ChainError} :
      Mends config request (.nonceUsed text) [.nextNonce (.error e)]
  | renumbered {text : String} {nonce : Amount} {answer : Except ChainError Hash}
      {later : List TxCall} :
      Mends config request (.nonceUsed text)
        (.nextNonce (.ok nonce) :: .submit { request with nonce } answer :: later)
  | raised {text : String} {txGasPrice : Amount} {answer : Except ChainError Hash}
      {later : List TxCall} (hprice : raisedPrice? config request.txGasPrice = some txGasPrice) :
      Mends config request (.feeTooLow text) (.submit { request with txGasPrice } answer :: later)

theorem Mends.resumes {e : ChainError} (h : Mends config request e calls) :
    Resumes request e calls := by
  cases h with
  | stops => exact .stops
  | unnumbered => exact .unnumbered
  | renumbered => exact .renumbered
  | raised hprice => exact .raised (raised_of_lt_top hprice)

theorem Mends.eq_nil_of_final {e : ChainError} (h : Mends config request e calls)
    (hfinal : e.isTransient = false) : calls = [] := by
  cases h with
  | stops => rfl
  | _ => simp [ChainError.isTransient] at hfinal

theorem Dialogue.mends (h : Dialogue config left request calls result) :
    ∀ before q e after, calls = before ++ .submit q (.error e) :: after →
      Mends config q e after := by
  -- The request in question is the one the conversation is about, or is made later.
  induction h with
  | renumbered hrest ih =>
      rintro (_ | ⟨first, _ | ⟨second, before⟩⟩) q e after hcalls
      · obtain ⟨⟨rfl, rfl⟩, rfl⟩ := by simpa using hcalls
        obtain ⟨answer, later, rfl⟩ := hrest.opened
        exact .renumbered
      · simp at hcalls
      · exact ih before q e after (by simpa using (List.cons.inj (List.cons.inj hcalls).2).2)
  | raised hprice hrest ih =>
      rintro (_ | ⟨first, before⟩) q e after hcalls
      · obtain ⟨⟨rfl, rfl⟩, rfl⟩ := by simpa using hcalls
        obtain ⟨answer, later, rfl⟩ := hrest.opened
        exact .raised hprice
      · exact ih before q e after (List.cons.inj hcalls).2
  | unnumbered =>
      rintro (_ | ⟨first, _ | ⟨second, before⟩⟩) q e after hcalls
      · obtain ⟨⟨rfl, rfl⟩, rfl⟩ := by simpa using hcalls
        exact .unnumbered
      · simp at hcalls
      · simp at hcalls
  | accepted =>
      rintro (_ | ⟨first, before⟩) q e after hcalls
      · simp at hcalls
      · simp at hcalls
  | _ =>
      rintro (_ | ⟨first, before⟩) q e after hcalls
      · obtain ⟨-, rfl⟩ := by simpa using hcalls
        exact .stops
      · simp at hcalls

section Submitted

variable {destination : Uint 32} {payload : Payload} {fee : Amount}

inductive Conversation (config : RetryConfig) (destination : Uint 32) (payload : Payload)
    (fee : Amount) : List TxCall → Except Halt Hash → Prop
  | unpriced {e : ChainError} :
      Conversation config destination payload fee [.gasPrice (.error e)]
        (.error (.failed (.chain e)))
  | unnumbered {price : Amount} {e : ChainError} :
      Conversation config destination payload fee
        [.gasPrice (.ok price), .nextNonce (.error e)] (.error (.failed (.chain e)))
  | sent {price nonce : Amount} {calls : List TxCall} {result : Except Halt Hash}
      (hdialogue : Dialogue config (attempts config - 1)
        ⟨destination, payload, fee, price, nonce⟩ calls result) :
      Conversation config destination payload fee
        (.gasPrice (.ok price) :: .nextNonce (.ok nonce) :: calls) result

inductive Opens (destination : Uint 32) (payload : Payload) (fee : Amount) : List TxCall → Prop
  | unpriced {e : ChainError} : Opens destination payload fee [.gasPrice (.error e)]
  | unnumbered {price : Amount} {e : ChainError} :
      Opens destination payload fee [.gasPrice (.ok price), .nextNonce (.error e)]
  | sent {price nonce : Amount} {answer : Except ChainError Hash} {later : List TxCall} :
      Opens destination payload fee (.gasPrice (.ok price) :: .nextNonce (.ok nonce) ::
        .submit ⟨destination, payload, fee, price, nonce⟩ answer :: later)

theorem attempts_pred_add_one (config : RetryConfig) :
    attempts config - 1 + 1 = attempts config := by
  unfold attempts
  omega

theorem Conversation.opens (h : Conversation config destination payload fee calls result) :
    Opens destination payload fee calls := by
  cases h with
  | unpriced => exact .unpriced
  | unnumbered => exact .unnumbered
  | sent hdialogue =>
      obtain ⟨answer, later, rfl⟩ := hdialogue.opened
      exact .sent

theorem Conversation.length_le (h : Conversation config destination payload fee calls result) :
    (TxCall.requests calls).length ≤ attempts config := by
  cases h with
  | sent hdialogue =>
      have hlength := hdialogue.length_le
      rw [attempts_pred_add_one] at hlength
      simpa using hlength
  | _ => simp

theorem Conversation.ends (h : Conversation config destination payload fee calls result) :
    Ends config (attempts config) calls result := by
  cases h with
  | unpriced => exact ⟨[], _, rfl, by simp, .told rfl⟩
  | @unnumbered price e =>
      exact ⟨[.gasPrice (.ok price)], _, rfl, by simp [TxCall.verdict?], .told rfl⟩
  | sent hdialogue =>
      have hends := hdialogue.ends
      rw [attempts_pred_add_one] at hends
      exact (hends.cons (.nextNonce _) rfl).cons (.gasPrice _) rfl

theorem Conversation.mends (h : Conversation config destination payload fee calls result) :
    ∀ before q e after, calls = before ++ .submit q (.error e) :: after →
      Mends config q e after := by
  intro before q e after hcalls
  cases h with
  | unpriced => rcases before with _ | ⟨first, before⟩ <;> simp at hcalls
  | unnumbered =>
      rcases before with _ | ⟨first, _ | ⟨second, before⟩⟩ <;> simp at hcalls
  | sent hdialogue =>
      rcases before with _ | ⟨first, _ | ⟨second, before⟩⟩
      · simp at hcalls
      · simp at hcalls
      · exact hdialogue.mends before q e after (List.cons.inj (List.cons.inj hcalls).2).2

theorem Conversation.resumes (h : Conversation config destination payload fee calls result) :
    ∀ before q e after, calls = before ++ .submit q (.error e) :: after → Resumes q e after :=
  fun before q e after hcalls => (h.mends before q e after hcalls).resumes

variable {σ : Type} [TxSubmitter σ] {world : σ} {s : Submission σ}

theorem Submits.overheard (h : Submits config world destination payload fee s) :
    ∃ calls, submit config (⟨world, []⟩ : Overheard σ) destination payload fee =
        ⟨s.result, s.requests, s.retries, ⟨s.world, calls⟩⟩ ∧
      TxCall.requests calls = s.requests ∧
      Conversation config destination payload fee calls s.result := by
  unfold submit
  cases h with
  | @unpriced world' e hprice =>
      exact ⟨[.gasPrice (.error e)], by simp [Overheard.gasPrice_eq hprice], rfl, .unpriced⟩
  | @unnumbered world' world'' price e hprice hnonce =>
      exact ⟨[.gasPrice (.ok price), .nextNonce (.error e)],
        by simp [Overheard.gasPrice_eq hprice, Overheard.nextNonce_eq hnonce], rfl, .unnumbered⟩
  | @sent world' world'' price nonce s hprice hnonce hsends =>
      obtain ⟨calls, hsend, hrequests, hdialogue⟩ :=
        hsends.overheard [.gasPrice (.ok price), .nextNonce (.ok nonce)]
      exact ⟨.gasPrice (.ok price) :: .nextNonce (.ok nonce) :: calls,
        by simp [Overheard.gasPrice_eq hprice, Overheard.nextNonce_eq hnonce, hsend],
        by simpa using hrequests, .sent hdialogue⟩

theorem Submits.counted (h : Submits config world destination payload fee s)
    (hsome : s.requests ≠ []) : s.retries + 1 = s.requests.length := by
  cases h with
  | sent hprice hnonce hsends => exact hsends.counted
  | _ => exact absurd rfl hsome

theorem retries_bounded (config : RetryConfig) (world : σ) (destination : Uint 32)
    (payload : Payload) (fee : Amount) :
    let s := submit config world destination payload fee
    ∃ calls, submit config (⟨world, []⟩ : Overheard σ) destination payload fee =
        ⟨s.result, s.requests, s.retries, ⟨s.world, calls⟩⟩ ∧
      TxCall.requests calls = s.requests ∧
      s.requests.length ≤ max 1 config.maxAttempts.toNat ∧
      Opens destination payload fee calls ∧
      (∀ before q e after, calls = before ++ .submit q (.error e) :: after → Resumes q e after) ∧
      Ends config (max 1 config.maxAttempts.toNat) calls s.result ∧
      (∀ q ∈ s.requests, q.destination = destination ∧ q.payload = payload ∧ q.fee = fee) ∧
      (s.requests ≠ [] → s.retries + 1 = s.requests.length) := by
  intro s
  have hsubmits : Submits config world destination payload fee s := submits ..
  obtain ⟨calls, hsubmit, hrequests, hconversation⟩ := hsubmits.overheard
  have hlength := hconversation.length_le
  rw [hrequests] at hlength
  exact ⟨calls, hsubmit, hrequests, hlength, hconversation.opens, hconversation.resumes,
    hconversation.ends, hsubmits.repeats, hsubmits.counted⟩

end Submitted

end Submission

end BondedRelay
