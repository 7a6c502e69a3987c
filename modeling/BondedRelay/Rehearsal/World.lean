import BondedRelay.Dispatch.Dispatcher
import BondedRelay.Rehearsal.Script

namespace BondedRelay

inductive WorldCall where
  | destinationGasPrice
  | simulate (payload : Payload) (allowance : Uint 64)
  | estimateFee (destination : Uint 32) (gasLimit : Uint 64) (gasPrice : Amount) (payload : Payload)
  | sourceGasPrice
  | nextNonce
  | submit (request : DispatchRequest)
  deriving DecidableEq, Repr

inductive ScriptedGas where
  | left (gas : Uint 64)
  | used (gas : Uint 64)
  deriving DecidableEq, Repr

def ScriptedGas.leftOf (allowance : Uint 64) : ScriptedGas → Uint 64
  | .left gas => gas
  | .used gas => allowance.satSub gas

structure ScriptedWorld where
  name : String
  destinationGasPrices : Script (Except ChainError Amount)
  simulations : Script (Except ChainError ScriptedGas)
  fees : Script (Except ChainError FeeQuote)
  sourceGasPrices : Script (Except ChainError Amount)
  nonces : Script (Except ChainError Amount)
  submissions : Script (Except ChainError Hash)
  calls : List WorldCall

namespace ScriptedWorld

def note (w : ScriptedWorld) (call : WorldCall) : ScriptedWorld :=
  { w with calls := call :: w.calls }

instance : DestinationClient ScriptedWorld where
  chainName w := w.name
  gasPrice w :=
    let (answer, destinationGasPrices) := w.destinationGasPrices.take
    (answer, { w with destinationGasPrices }.note .destinationGasPrice)
  simulate w payload allowance :=
    let (answer, simulations) := w.simulations.take
    (answer.map (ScriptedGas.leftOf allowance),
      { w with simulations }.note (.simulate payload allowance))

instance : FeeQuoter ScriptedWorld where
  estimateFee w destination gasLimit gasPrice payload :=
    let (answer, fees) := w.fees.take
    (answer, { w with fees }.note (.estimateFee destination gasLimit gasPrice payload))

instance : TxSubmitter ScriptedWorld where
  gasPrice w :=
    let (answer, sourceGasPrices) := w.sourceGasPrices.take
    (answer, { w with sourceGasPrices }.note .sourceGasPrice)
  nextNonce w :=
    let (answer, nonces) := w.nonces.take
    (answer, { w with nonces }.note .nextNonce)
  submit w request :=
    let (answer, submissions) := w.submissions.take
    (answer, { w with submissions }.note (.submit request))

end ScriptedWorld

end BondedRelay
