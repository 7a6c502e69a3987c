import BondedRelay.Dispatch.Estimate
import BondedRelay.Dispatch.Submission

namespace BondedRelay

structure DispatchReceipt where
  job : JobId
  estimate : GasEstimate
  fee : FeeEstimate
  txid : Hash
  deriving DecidableEq, Repr

structure Dispatch (σ : Type) where
  result : Except Halt DispatchReceipt
  requests : List DispatchRequest
  retries : Nat
  world : σ

namespace Dispatch

variable {σ : Type} [DestinationClient σ] [FeeQuoter σ] [TxSubmitter σ]

def run (gas : GasConfig) (retry : RetryConfig) (destination : Uint 32) (world : σ)
    (draft : Payload) : Dispatch σ :=
  match Estimate.gas gas world draft with
  | (.error e, world) => ⟨.error (.failed e), [], 0, world⟩
  | (.ok estimate, world) =>
      match Estimate.fee gas world destination estimate with
      | (.error e, world) => ⟨.error (.failed e), [], 0, world⟩
      | (.ok fee, world) =>
          let s := Submission.submit retry world destination estimate.payload fee.total
          ⟨s.result.map fun txid => ⟨estimate.payload.jobId, estimate, fee, txid⟩, s.requests,
            s.retries, s.world⟩

end Dispatch

end BondedRelay
