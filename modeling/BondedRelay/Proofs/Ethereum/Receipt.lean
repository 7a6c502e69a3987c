import Mathlib.Control.Monad.Basic
import BondedRelay.Proofs.Dispatch.Retries
import BondedRelay.Rehearsal.Node

namespace BondedRelay

namespace TxReceipt

variable {r : TxReceipt} {txid : Hash} {e : ChainError}

def Executed (r : TxReceipt) : Prop := r.status = some 1

def Disguised (r : TxReceipt) : Prop :=
  ∃ status, r.status = some status ∧ Uint.limit 32 ≤ status.toNat ∧
    status.toNat % Uint.limit 32 = 1

theorem low_eq_one_iff {n : Nat} :
    n % Uint.limit 32 = 1 ↔ n = 1 ∨ Uint.limit 32 ≤ n ∧ n % Uint.limit 32 = 1 := by
  constructor
  · intro h
    rcases Nat.lt_or_ge n (Uint.limit 32) with hsmall | hlarge
    · rw [Nat.mod_eq_of_lt hsmall] at h
      exact .inl h
    · exact .inr ⟨hlarge, h⟩
  · rintro (rfl | ⟨-, h⟩)
    · decide
    · exact h

theorem executed_or_disguised_iff :
    r.Executed ∨ r.Disguised ↔
      ∃ status, r.status = some status ∧ status.toNat % Uint.limit 32 = 1 := by
  have hone : (1 : Uint 64).toNat = 1 := by decide
  constructor
  · rintro (h | ⟨status, h, -, hlow⟩)
    · exact ⟨1, h, by rw [hone]; decide⟩
    · exact ⟨status, h, hlow⟩
  · rintro ⟨status, h, hlow⟩
    rcases low_eq_one_iff.1 hlow with hsame | hlarge
    · exact .inl (h.trans (congrArg some (Uint.ext (hsame.trans hone.symm))))
    · exact .inr ⟨status, h, hlarge⟩

theorem outcome_cases (r : TxReceipt) :
    (r.Executed ∨ r.Disguised) ∧ r.outcome = .ok r.txid ∨
      ¬ (r.Executed ∨ r.Disguised) ∧ r.outcome = .error (.notExecuted r.txid) := by
  rw [executed_or_disguised_iff, outcome]
  cases hstatus : r.status with
  | none => exact .inr ⟨by simp, rfl⟩
  | some status =>
      by_cases hlow : status.toNat % Uint.limit 32 = 1
      · exact .inl ⟨⟨status, rfl, hlow⟩, if_pos hlow⟩
      · refine .inr ⟨?_, if_neg hlow⟩
        rintro ⟨_, hsame, hlow'⟩
        obtain rfl := Option.some.inj hsame
        exact hlow hlow'

theorem outcome_eq_ok_iff : r.outcome = .ok txid ↔ r.txid = txid ∧ (r.Executed ∨ r.Disguised) := by
  rcases r.outcome_cases with ⟨h, houtcome⟩ | ⟨h, houtcome⟩
  · simp [houtcome, h]
  · simp [houtcome, h]

theorem outcome_eq_error_iff :
    r.outcome = .error e ↔ e = .notExecuted r.txid ∧ ¬ (r.Executed ∨ r.Disguised) := by
  rcases r.outcome_cases with ⟨h, houtcome⟩ | ⟨h, houtcome⟩
  · simp [houtcome, h]
  · rw [houtcome, Except.error.injEq]
    exact ⟨fun he => ⟨he.symm, h⟩, fun he => he.1.symm⟩

end TxReceipt

theorem NodeFailure.ofText_ne_notExecuted (text : String) (txid : Hash) :
    ofText text ≠ .notExecuted txid := by
  unfold ofText
  split <;> simp

namespace EthereumSubmitter

variable {ν : Type} [EthereumNode ν] {s s' : EthereumSubmitter ν} {request : DispatchRequest}
  {r : TxReceipt} {answer : Except ChainError Hash}

def Mines (s : EthereumSubmitter ν) (request : DispatchRequest) (r : TxReceipt)
    (s' : EthereumSubmitter ν) : Prop :=
  ∃ txid sent node, send s.node (s.drafted request) = (.ok txid, sent) ∧
    EthereumNode.receipt sent txid = (.ok (some r), node) ∧ s' = { s with node }

theorem submit_of_mines (h : s.Mines request r s') : s.submit request = (r.outcome, s') := by
  obtain ⟨txid, sent, node, hsend, hreceipt, rfl⟩ := h
  simp only [submit, hsend, hreceipt]

theorem submit_cases (s : EthereumSubmitter ν) (request : DispatchRequest) :
    (∃ r s', s.Mines request r s') ∨
      ∃ e s', s.submit request = (.error e, s') ∧ ∀ txid, e ≠ .notExecuted txid := by
  rcases hsend : send s.node (s.drafted request) with ⟨text | txid, sent⟩
  · refine .inr ⟨(NodeFailure.middleware text).chainError, { s with node := sent }, ?_,
      NodeFailure.ofText_ne_notExecuted text⟩
    simp only [submit, hsend]
  · rcases hreceipt : EthereumNode.receipt sent txid with ⟨text | _ | r, node⟩
    · refine .inr ⟨(NodeFailure.provider text).chainError, { s with node }, ?_,
        NodeFailure.ofText_ne_notExecuted text⟩
      simp only [submit, hsend, hreceipt]
    · refine .inr ⟨.custom (NodeFailure.dropped txid).message, { s with node }, ?_, by simp⟩
      simp only [submit, hsend, hreceipt]
    · exact .inl ⟨r, { s with node }, txid, sent, node, hsend, hreceipt, rfl⟩

theorem submit_eq_iff {txid : Hash}
    (hanswer : answer = .ok txid ∨ answer = .error (.notExecuted txid)) :
    s.submit request = (answer, s') ↔ ∃ r, s.Mines request r s' ∧ r.outcome = answer := by
  constructor
  · intro h
    rcases s.submit_cases request with ⟨r, s'', hmines⟩ | ⟨e, s'', herror, hother⟩
    · obtain ⟨houtcome, rfl⟩ := Prod.mk.inj ((submit_of_mines hmines).symm.trans h)
      exact ⟨r, hmines, houtcome⟩
    · obtain ⟨hsame, -⟩ := Prod.mk.inj (herror.symm.trans h)
      rcases hanswer with rfl | rfl
      · cases hsame
      · exact absurd (Except.error.inj hsame) (hother txid)
  · rintro ⟨r, hmines, rfl⟩
    exact submit_of_mines hmines

end EthereumSubmitter

namespace Submission

variable {σ : Type} [TxSubmitter σ] {config : RetryConfig} {world world' : σ} {left : Nat}
  {request q : DispatchRequest} {e : ChainError} {s : Submission σ} {destination : Uint 32}
  {payload : Payload} {fee : Amount} {txid : Hash} {calls before after : List TxCall}
  {result : Except Halt Hash}

theorem sendFrom_of_refused (h : TxSubmitter.submit world request = (.error e, world'))
    (hfinal : e.isTransient = false) (left : Nat) :
    sendFrom config left request world = ⟨.error (.failed (.chain e)), [request], 0, world'⟩ := by
  unfold sendFrom
  cases left with
  | zero => simp [h, hfinal]
  | succ left => simp [h, hfinal]

theorem Sends.accepted_of_ok (h : Sends config left request world s) (hok : s.result = .ok txid) :
    ∃ q ∈ s.requests, ∃ asked, TxSubmitter.submit asked q = (.ok txid, s.world) := by
  induction h with
  | @accepted left request world world' txid' hsubmit =>
      obtain rfl := Except.ok.inj hok
      exact ⟨request, List.mem_singleton_self _, world, hsubmit⟩
  | again hsubmit htransient hmended hrest ih =>
      obtain ⟨q, hq, hasked⟩ := ih hok
      exact ⟨q, List.mem_cons_of_mem _ hq, hasked⟩
  | _ => cases hok

theorem Submits.accepted_of_ok (h : Submits config world destination payload fee s)
    (hok : s.result = .ok txid) :
    ∃ q ∈ s.requests, ∃ asked, TxSubmitter.submit asked q = (.ok txid, s.world) := by
  cases h with
  | sent hprice hnonce hsends => exact hsends.accepted_of_ok hok
  | _ => cases hok

theorem Conversation.last_of_refused
    (h : Conversation config destination payload fee calls result)
    (hfinal : e.isTransient = false) (hcalls : calls = before ++ .submit q (.error e) :: after) :
    after = [] ∧ result = .error (.failed (.chain e)) := by
  obtain rfl := (h.mends before q e after hcalls).eq_nil_of_final hfinal
  subst hcalls
  refine ⟨rfl, ?_⟩
  cases h.ends.settles with
  | told hverdict => simpa [TxCall.verdict?, hfinal] using hverdict.symm
  | exhausted hmade htransient =>
      rw [hfinal] at htransient
      cases htransient
  | overflowed => cases hfinal

end Submission

namespace EthereumSubmitter

variable {ν : Type} [EthereumNode ν]

theorem dispatched_if_executed_or_disguised (submitter : EthereumSubmitter ν)
    (config : RetryConfig) (destination : Uint 32) (payload : Payload) (fee : Amount) :
    (∀ r : TxReceipt,
      (∀ txid, r.outcome = .ok txid ↔ r.txid = txid ∧ (r.Executed ∨ r.Disguised)) ∧
      ∀ e, r.outcome = .error e ↔ e = .notExecuted r.txid ∧ ¬ (r.Executed ∨ r.Disguised)) ∧
    (∀ (s s' : EthereumSubmitter ν) request txid,
      (s.submit request = (.ok txid, s') ↔
        ∃ r, s.Mines request r s' ∧ r.outcome = .ok txid) ∧
      (s.submit request = (.error (.notExecuted txid), s') ↔
        ∃ r, s.Mines request r s' ∧ r.outcome = .error (.notExecuted txid))) ∧
    (∀ (s s' : EthereumSubmitter ν) request r left, s.Mines request r s' →
      ¬ (r.Executed ∨ r.Disguised) →
      Submission.sendFrom config left request s =
        ⟨.error (.failed (.chain (.notExecuted r.txid))), [request], 0, s'⟩) ∧
    let d := Submission.submit config submitter destination payload fee
    (∀ txid, d.result = .ok txid → ∃ q ∈ d.requests, ∃ s r,
      Mines s q r d.world ∧ r.txid = txid ∧ (r.Executed ∨ r.Disguised)) ∧
    ∃ calls, Submission.submit config (⟨submitter, []⟩ : Overheard (EthereumSubmitter ν))
        destination payload fee = ⟨d.result, d.requests, d.retries, ⟨d.world, calls⟩⟩ ∧
      ∀ before q txid after, calls = before ++ .submit q (.error (.notExecuted txid)) :: after →
        after = [] ∧ d.result = .error (.failed (.chain (.notExecuted txid))) := by
  refine ⟨fun r =>
      ⟨fun txid => TxReceipt.outcome_eq_ok_iff, fun e => TxReceipt.outcome_eq_error_iff⟩,
    fun s s' request txid => ⟨submit_eq_iff (.inl rfl), submit_eq_iff (.inr rfl)⟩,
    fun s s' request r left hmines hr => ?_, fun txid hok => ?_, ?_⟩
  · have hsubmit := submit_of_mines hmines
    rw [TxReceipt.outcome_eq_error_iff.2 ⟨rfl, hr⟩] at hsubmit
    exact Submission.sendFrom_of_refused hsubmit rfl left
  · obtain ⟨q, hq, s, hsubmit⟩ := (Submission.submits config submitter destination payload
      fee).accepted_of_ok hok
    obtain ⟨r, hmines, houtcome⟩ := (submit_eq_iff (.inl rfl)).1 hsubmit
    exact ⟨q, hq, s, r, hmines, TxReceipt.outcome_eq_ok_iff.1 houtcome⟩
  · obtain ⟨calls, hsubmit, -, hconversation⟩ := (Submission.submits config submitter destination
      payload fee).overheard
    exact ⟨calls, hsubmit, fun before q txid after hcalls =>
      hconversation.last_of_refused rfl hcalls⟩

theorem unset_status_ends_submission :
    let submitter (r : TxReceipt) : EthereumSubmitter ScriptedNode :=
      ⟨⟨.ok 21000, .ok 10, .ok 3, .ok 7, some r, []⟩, 1, 2⟩
    let payload : Payload := ⟨5, 3, 4, [1], 30, 12⟩
    let request : DispatchRequest := ⟨137, payload, 1000, 10, 3⟩
    let dispatched (r : TxReceipt) := Submission.submit .standard (submitter r) 137 payload 1000
    let unset : TxReceipt := ⟨7, some 0x100000000⟩
    let mined := ((submitter unset).submit request).2
    (submitter unset).Mines request unset mined ∧ ¬ (unset.Executed ∨ unset.Disguised) ∧
      Submission.sendFrom .standard 4 request (submitter unset) =
        ⟨.error (.failed (.chain (.notExecuted 7))), [request], 0, mined⟩ ∧
      (dispatched unset).result = .error (.failed (.chain (.notExecuted 7))) ∧
      (dispatched ⟨7, some 1⟩).result = .ok 7 ∧
      ∃ q ∈ (dispatched ⟨7, some 1⟩).requests, ∃ s r,
        Mines s q r (dispatched ⟨7, some 1⟩).world ∧ r.txid = 7 ∧ (r.Executed ∨ r.Disguised) := by
  intro submitter payload request dispatched unset mined
  have hmines : (submitter unset).Mines request unset mined := ⟨7, _, _, rfl, rfl, rfl⟩
  have hunset : ¬ (unset.Executed ∨ unset.Disguised) := by
    rw [TxReceipt.executed_or_disguised_iff]
    rintro ⟨status, hstatus, hlow⟩
    obtain rfl := Option.some.inj hstatus
    revert hlow
    decide
  have hok : (dispatched ⟨7, some 1⟩).result = .ok 7 := by decide +kernel
  obtain ⟨-, -, hends, -, calls, hsubmit, hlast⟩ :=
    dispatched_if_executed_or_disguised (submitter unset) .standard 137 payload 1000
  have hcalls : calls = [.gasPrice (.ok 10), .nextNonce (.ok 3)] ++
      .submit request (.error (.notExecuted 7)) :: [] :=
    (congrArg (fun d => d.world.calls) hsubmit).symm.trans rfl
  obtain ⟨-, -, -, haccepted, -⟩ :=
    dispatched_if_executed_or_disguised (submitter ⟨7, some 1⟩) .standard 137 payload 1000
  exact ⟨hmines, hunset, hends _ _ _ _ 4 hmines hunset, (hlast _ _ _ _ hcalls).2, hok,
    haccepted 7 hok⟩

theorem disguised_receipt_counts_as_executed :
    let r : TxReceipt := ⟨7, some 0x100000001⟩
    let submitter : EthereumSubmitter ScriptedNode :=
      ⟨⟨.ok 21000, .ok 10, .ok 3, .ok 7, some r, []⟩, 1, 2⟩
    let payload : Payload := ⟨5, 3, 4, [1], 30, 12⟩
    r.status ≠ some 1 ∧ r.outcome = .ok 7 ∧
      (submitter.submit ⟨137, payload, 1000, 10, 3⟩).1 = .ok 7 ∧
      (Submission.submit .standard submitter 137 payload 1000).result = .ok 7 := by
  decide +kernel

end EthereumSubmitter

end BondedRelay
