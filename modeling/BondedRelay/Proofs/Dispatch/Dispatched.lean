import Mathlib.Control.Monad.Basic
import BondedRelay.Proofs.Dispatch.Estimate
import BondedRelay.Proofs.Dispatch.Recorded
import BondedRelay.Proofs.Ethereum.Calldata
import BondedRelay.Rehearsal.World

namespace BondedRelay

namespace Dispatch

variable {σ : Type} [DestinationClient σ] [FeeQuoter σ] {gas : GasConfig} {retry : RetryConfig}
  {destination : Uint 32} {world : σ} {draft : Payload}

def Prepares (gas : GasConfig) (destination : Uint 32) (world : σ) (draft : Payload)
    (estimate : GasEstimate) (fee : FeeEstimate) (quoted : σ) : Prop :=
  ∃ estimated, Estimate.gas gas world draft = (.ok estimate, estimated) ∧
    Estimate.fee gas estimated destination estimate = (.ok fee, quoted)

theorem Prepares.payload_eq {estimate : GasEstimate} {fee : FeeEstimate} {quoted : σ}
    (h : Prepares gas destination world draft estimate fee quoted) :
    estimate.payload = draft.withGas estimate.gasLimit estimate.gasPrice := by
  obtain ⟨estimated, hgas, -⟩ := h
  exact Estimate.gas_ok hgas

variable [TxSubmitter σ]

inductive Runs (gas : GasConfig) (retry : RetryConfig) (destination : Uint 32) (world : σ)
    (draft : Payload) : Dispatch σ → Prop
  | unestimated {world' : σ} {e : DispatchError}
      (hgas : Estimate.gas gas world draft = (.error e, world')) :
      Runs gas retry destination world draft ⟨.error (.failed e), [], 0, world'⟩
  | unquoted {estimated world' : σ} {estimate : GasEstimate} {e : DispatchError}
      (hgas : Estimate.gas gas world draft = (.ok estimate, estimated))
      (hfee : Estimate.fee gas estimated destination estimate = (.error e, world')) :
      Runs gas retry destination world draft ⟨.error (.failed e), [], 0, world'⟩
  | submitted {quoted : σ} {estimate : GasEstimate} {fee : FeeEstimate} {s : Submission σ}
      (hprepares : Prepares gas destination world draft estimate fee quoted)
      (hsubmits : Submission.Submits retry quoted destination estimate.payload fee.total s) :
      Runs gas retry destination world draft
        ⟨s.result.map fun txid => ⟨estimate.payload.jobId, estimate, fee, txid⟩, s.requests,
          s.retries, s.world⟩

theorem runs (gas : GasConfig) (retry : RetryConfig) (destination : Uint 32) (world : σ)
    (draft : Payload) :
    Runs gas retry destination world draft (run gas retry destination world draft) := by
  unfold run
  rcases hgas : Estimate.gas gas world draft with ⟨e | estimate, estimated⟩
  · exact .unestimated hgas
  · rcases hfee : Estimate.fee gas estimated destination estimate with ⟨e | fee, quoted⟩
    · simpa [hfee] using Runs.unquoted hgas hfee
    · simpa [hfee] using Runs.submitted ⟨estimated, hgas, hfee⟩ (Submission.submits ..)

theorem Runs.prepared {d : Dispatch σ} (h : Runs gas retry destination world draft d)
    {q : DispatchRequest} (hq : q ∈ d.requests) :
    ∃ estimate fee quoted, Prepares gas destination world draft estimate fee quoted ∧
      q.destination = destination ∧ q.payload = estimate.payload ∧ q.fee = fee.total := by
  cases h with
  | @submitted quoted estimate fee s hprepares hsubmits =>
      exact ⟨estimate, fee, quoted, hprepares, hsubmits.repeats q hq⟩
  | _ => exact absurd hq List.not_mem_nil

theorem Runs.received {d : Dispatch σ} {receipt : DispatchReceipt}
    (h : Runs gas retry destination world draft d) (hok : d.result = .ok receipt) :
    d.requests ≠ [] ∧ receipt.job = receipt.estimate.payload.jobId ∧
      (∃ quoted, Prepares gas destination world draft receipt.estimate receipt.fee quoted) ∧
      ∀ q ∈ d.requests, q.destination = destination ∧ q.payload = receipt.estimate.payload ∧
        q.fee = receipt.fee.total := by
  cases h with
  | @submitted quoted estimate fee s hprepares hsubmits =>
      rcases hresult : s.result with e | txid
      · simp [hresult, Except.map] at hok
      · obtain rfl : _ = receipt := by simpa [hresult, Except.map] using hok
        exact ⟨hsubmits.requests_ne_nil hresult, rfl, ⟨quoted, hprepares⟩, hsubmits.repeats⟩
  | _ => simp at hok

theorem requests_carry_receipt (gas : GasConfig) (retry : RetryConfig) (destination : Uint 32)
    (world : σ) (draft : Payload) :
    let d := run gas retry destination world draft
    let recorded := run gas retry destination (⟨world, []⟩ : Recorded σ) draft
    recorded.result = d.result ∧ recorded.world.submitted = d.requests ∧
      (∀ q ∈ d.requests, ∃ estimate fee quoted,
        Prepares gas destination world draft estimate fee quoted ∧
        q.destination = destination ∧ q.payload = estimate.payload ∧ q.fee = fee.total) ∧
      ∀ receipt, d.result = .ok receipt → d.requests ≠ [] ∧
        (∃ quoted, Prepares gas destination world draft receipt.estimate receipt.fee quoted) ∧
        receipt.estimate.payload =
          draft.withGas receipt.estimate.gasLimit receipt.estimate.gasPrice ∧
        ∀ q ∈ d.requests, q.destination = destination ∧
          q.payload = receipt.estimate.payload ∧ q.fee = receipt.fee.total ∧
          (receipt.estimate.payload.toBytes.length < 0x100000000 →
            (EthereumSubmitter.calldata q).take 4 = EthereumSubmitter.selector ∧
            ∃ bytes payload,
              EthereumSubmitter.arguments? ((EthereumSubmitter.calldata q).drop 4) =
                some (destination, bytes) ∧
              Payload.ofBytes bytes = .ok payload ∧ payload.jobId = receipt.job) := by
  intro d recorded
  have hruns : Runs gas retry destination world draft d := runs ..
  have hrecorded : recorded = ⟨d.result, d.requests, d.retries, ⟨d.world, d.requests⟩⟩ :=
    Recorded.run_eq ⟨world, []⟩ gas retry destination draft
  refine ⟨congrArg result hrecorded, congrArg (fun r => r.world.submitted) hrecorded,
    fun q hq => hruns.prepared hq, fun receipt hok => ?_⟩
  obtain ⟨hsome, hjob, ⟨quoted, hprepares⟩, hcarries⟩ := hruns.received hok
  refine ⟨hsome, ⟨quoted, hprepares⟩, hprepares.payload_eq, fun q hq => ?_⟩
  obtain ⟨hdestination, hpayload, hfee⟩ := hcarries q hq
  refine ⟨hdestination, hpayload, hfee, fun hlength => ?_⟩
  rw [← hpayload] at hlength
  have hdata := Nat.lt_of_le_of_lt q.payload.length_data_le hlength
  refine ⟨EthereumSubmitter.calldata_take q, q.payload.toBytes, q.payload, ?_,
    Payload.ofBytes_toBytes hdata, ?_⟩
  · rw [EthereumSubmitter.arguments?_calldata q hlength, hdestination]
  · rw [hjob, hpayload]

theorem raised_request_carries_job :
    let draft : Payload := ⟨5, 3, 4, [1], 0, 0⟩
    let final := draft.withGas 110000 15
    let world : ScriptedWorld := ⟨"polygon", ⟨.ok 10, []⟩, ⟨.ok (.used 100000), []⟩,
      ⟨.ok ⟨7, 3⟩, []⟩, ⟨.ok 100, []⟩, ⟨.ok 3, []⟩,
      ⟨.error (.feeTooLow "underpriced"), [.ok 1]⟩, []⟩
    let d := run .evmDefault .standard 10 world draft
    d.result = .ok ⟨final.jobId, ⟨110000, 15, final⟩, ⟨⟨7, 3⟩, 12⟩, 1⟩ ∧
      d.requests.map DispatchRequest.txGasPrice = [100, 112] ∧
      final.toBytes.length < 0x100000000 ∧
      ∀ q ∈ d.requests, q.payload = final ∧ ∃ bytes payload,
        EthereumSubmitter.arguments? ((EthereumSubmitter.calldata q).drop 4) = some (10, bytes) ∧
        Payload.ofBytes bytes = .ok payload ∧ payload.jobId = final.jobId := by
  intro draft final world d
  have hok : d.result = .ok ⟨final.jobId, ⟨110000, 15, final⟩, ⟨⟨7, 3⟩, 12⟩, 1⟩ := by
    decide +kernel
  have hlength : final.toBytes.length < 0x100000000 := by decide +kernel
  have hdispatched := (requests_carry_receipt .evmDefault .standard 10 world draft).2.2.2
  obtain ⟨-, -, -, hcarries⟩ := hdispatched _ hok
  refine ⟨hok, by decide +kernel, hlength, fun q hq => ?_⟩
  obtain ⟨-, hpayload, -, hread⟩ := hcarries q hq
  exact ⟨hpayload, (hread hlength).2⟩

end Dispatch

end BondedRelay
