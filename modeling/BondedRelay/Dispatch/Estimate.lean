import BondedRelay.Config.Gas
import BondedRelay.Dispatch.Client

namespace BondedRelay

structure GasEstimate where
  gasLimit : Uint 64
  gasPrice : Amount
  payload : Payload
  deriving DecidableEq, Repr

structure FeeEstimate where
  quote : FeeQuote
  total : Amount
  deriving DecidableEq, Repr

namespace Estimate

variable {σ : Type}

def usedGas [DestinationClient σ] (world : σ) (payload : Payload) (allowance : Uint 64) :
    Except DispatchError (Uint 64) × σ :=
  match DestinationClient.simulate world payload allowance with
  | (.error e, world) => (.error (.chain e), world)
  | (.ok left, world) =>
      if left.toNat = 0 then
        (.error (.allowanceExhausted (DestinationClient.chainName world) allowance), world)
      else (.ok (allowance.satSub left), world)

def gas [DestinationClient σ] (config : GasConfig) (world : σ) (draft : Payload) :
    Except DispatchError GasEstimate × σ :=
  let allowance := config.simulationAllowance
  match DestinationClient.gasPrice world with
  | (.error e, world) => (.error (.chain e), world)
  | (.ok observed, world) =>
      let gasPrice := config.destinationPrice observed
      match usedGas world (draft.withGas allowance gasPrice) allowance with
      | (.error e, world) => (.error e, world)
      | (.ok tried, world) =>
          match usedGas world (draft.withGas (config.paddedGas tried) gasPrice) allowance with
          | (.error e, world) => (.error e, world)
          | (.ok used, world) =>
              let gasLimit := config.paddedGas used
              (.ok ⟨gasLimit, gasPrice, draft.withGas gasLimit gasPrice⟩, world)

def fee [FeeQuoter σ] (config : GasConfig) (world : σ) (destination : Uint 32)
    (estimate : GasEstimate) : Except DispatchError FeeEstimate × σ :=
  match FeeQuoter.estimateFee world destination estimate.gasLimit estimate.gasPrice
      estimate.payload with
  | (.error e, world) => (.error (.chain e), world)
  | (.ok quote, world) => (.ok ⟨quote, config.feeWithMargin quote.total⟩, world)

end Estimate

end BondedRelay
