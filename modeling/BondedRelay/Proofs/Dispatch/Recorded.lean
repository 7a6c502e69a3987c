import BondedRelay.Dispatch.Dispatcher
import BondedRelay.Proofs.Dispatch.Submission

namespace BondedRelay

structure Recorded (σ : Type) where
  world : σ
  submitted : List DispatchRequest

namespace Recorded

variable {σ : Type}

def asked {α : Type} (w : Recorded σ) (answer : α × σ) : α × Recorded σ :=
  (answer.1, { w with world := answer.2 })

def keep (w : Recorded σ) (requests : List DispatchRequest) : Recorded σ :=
  { w with submitted := w.submitted ++ requests }

instance [DestinationClient σ] : DestinationClient (Recorded σ) where
  chainName w := DestinationClient.chainName w.world
  gasPrice w := w.asked (DestinationClient.gasPrice w.world)
  simulate w payload allowance := w.asked (DestinationClient.simulate w.world payload allowance)

instance [FeeQuoter σ] : FeeQuoter (Recorded σ) where
  estimateFee w destination gasLimit gasPrice payload :=
    w.asked (FeeQuoter.estimateFee w.world destination gasLimit gasPrice payload)

instance [TxSubmitter σ] : TxSubmitter (Recorded σ) where
  gasPrice w := w.asked (TxSubmitter.gasPrice w.world)
  nextNonce w := w.asked (TxSubmitter.nextNonce w.world)
  submit w request := (w.keep [request]).asked (TxSubmitter.submit w.world request)

variable (w : Recorded σ)

theorem usedGas_eq [DestinationClient σ] (payload : Payload) (allowance : Uint 64) :
    Estimate.usedGas w payload allowance =
      w.asked (Estimate.usedGas w.world payload allowance) := by
  unfold Estimate.usedGas
  rcases h : DestinationClient.simulate w.world payload allowance with ⟨e | left, world⟩
  · simp [DestinationClient.simulate, h, asked]
  · by_cases hleft : left.toNat = 0
    · simp [DestinationClient.simulate, DestinationClient.chainName, h, asked, hleft]
    · simp [DestinationClient.simulate, h, asked, hleft]

theorem gas_eq [DestinationClient σ] (config : GasConfig) (draft : Payload) :
    Estimate.gas config w draft = w.asked (Estimate.gas config w.world draft) := by
  let allowance := config.simulationAllowance
  unfold Estimate.gas
  rcases hprice : DestinationClient.gasPrice w.world with ⟨e | observed, world₁⟩
  · simp [DestinationClient.gasPrice, hprice, asked]
  · let gasPrice := config.destinationPrice observed
    rcases htried : Estimate.usedGas world₁ (draft.withGas allowance gasPrice) allowance with
      ⟨e | tried, world₂⟩
    · simp [DestinationClient.gasPrice, hprice, usedGas_eq, allowance, gasPrice, htried, asked]
    · rcases hused : Estimate.usedGas world₂
        (draft.withGas (config.paddedGas tried) gasPrice) allowance with ⟨e | used, world₃⟩ <;>
        simp [DestinationClient.gasPrice, hprice, usedGas_eq, allowance, gasPrice, htried, hused,
          asked]

theorem fee_eq [FeeQuoter σ] (config : GasConfig) (destination : Uint 32) (estimate : GasEstimate) :
    Estimate.fee config w destination estimate =
      w.asked (Estimate.fee config w.world destination estimate) := by
  unfold Estimate.fee
  rcases h : FeeQuoter.estimateFee w.world destination estimate.gasLimit estimate.gasPrice
    estimate.payload with ⟨e | quote, world⟩ <;> simp [FeeQuoter.estimateFee, h, asked]

variable [TxSubmitter σ] {config : RetryConfig} {request : DispatchRequest}

theorem mended_eq (config : RetryConfig) (request : DispatchRequest) (e : ChainError) :
    Submission.mended config w request e =
      w.asked (Submission.mended config w.world request e) := by
  cases e with
  | nonceUsed text =>
      rcases h : TxSubmitter.nextNonce w.world with ⟨e | nonce, world⟩ <;>
        simp [Submission.mended, TxSubmitter.nextNonce, h, asked]
  | _ =>
      unfold Submission.mended
      cases Submission.raisedPrice? config request.txGasPrice <;> rfl

theorem submit_eq (request : DispatchRequest) :
    TxSubmitter.submit w request =
      (w.keep [request]).asked (TxSubmitter.submit w.world request) := rfl

theorem sendFrom_eq {left : Nat} {world : σ} {s : Submission σ}
    (h : Submission.Sends config left request world s) (log : List DispatchRequest) :
    Submission.sendFrom config left request (⟨world, log⟩ : Recorded σ) =
      ⟨s.result, s.requests, s.retries, ⟨s.world, log ++ s.requests⟩⟩ := by
  -- On how the submission goes in the world inside: every answer is the same, one request is kept.
  induction h generalizing log with
  | accepted hsubmit =>
      unfold Submission.sendFrom
      simp [submit_eq, hsubmit, asked, keep]
  | @refused left request world world' e hsubmit hfinal =>
      unfold Submission.sendFrom
      cases left <;> simp [submit_eq, hsubmit, asked, keep, hfinal]
  | exhausted hsubmit htransient =>
      unfold Submission.sendFrom
      simp [submit_eq, hsubmit, asked, keep, htransient]
  | unmended hsubmit htransient hmended =>
      unfold Submission.sendFrom
      simp [submit_eq, hsubmit, asked, keep, htransient, mended_eq, hmended]
  | again hsubmit htransient hmended hrest ih =>
      unfold Submission.sendFrom
      simp [submit_eq, hsubmit, asked, keep, htransient, mended_eq, hmended, ih]

theorem submission_eq (config : RetryConfig) (destination : Uint 32) (payload : Payload)
    (fee : Amount) :
    Submission.submit config w destination payload fee =
      let s := Submission.submit config w.world destination payload fee
      ⟨s.result, s.requests, s.retries, { w with world := s.world }.keep s.requests⟩ := by
  unfold Submission.submit
  rcases hprice : TxSubmitter.gasPrice w.world with ⟨e | price, world₁⟩
  · simp [TxSubmitter.gasPrice, hprice, asked, keep]
  · rcases hnonce : TxSubmitter.nextNonce world₁ with ⟨e | nonce, world₂⟩
    · simp [TxSubmitter.gasPrice, TxSubmitter.nextNonce, hprice, hnonce, asked, keep]
    · simp [TxSubmitter.gasPrice, TxSubmitter.nextNonce, hprice, hnonce, asked, keep,
        sendFrom_eq (Submission.sends ..)]

theorem run_eq [DestinationClient σ] [FeeQuoter σ] (gas : GasConfig) (retry : RetryConfig)
    (destination : Uint 32) (draft : Payload) :
    Dispatch.run gas retry destination w draft =
      let d := Dispatch.run gas retry destination w.world draft
      ⟨d.result, d.requests, d.retries, { w with world := d.world }.keep d.requests⟩ := by
  unfold Dispatch.run
  rcases hgas : Estimate.gas gas w.world draft with ⟨e | estimate, world₁⟩
  · simp [gas_eq, hgas, asked, keep]
  · rcases hfee : Estimate.fee gas world₁ destination estimate with ⟨e | fee, world₂⟩
    · simp [gas_eq, hgas, fee_eq, hfee, asked, keep]
    · simp [gas_eq, hgas, fee_eq, hfee, asked, keep, submission_eq]

end Recorded

end BondedRelay
