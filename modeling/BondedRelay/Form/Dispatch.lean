import BondedRelay.Form.Report
import BondedRelay.Rehearsal.Node
import BondedRelay.Rehearsal.World

namespace BondedRelay.Report

open Json

def chainErrorKind : ChainError → String
  | .provider _ => "Provider"
  | .feeTooLow _ => "FeeTooLow"
  | .nonceUsed _ => "NonceUsed"
  | .simulationReverted _ => "SimulationReverted"
  | .notExecuted _ => "NotExecuted"
  | .custom _ => "Custom"

def ofChainError (e : ChainError) : Report :=
  failure (chainErrorKind e) e.message ++ [("transient", .bool e.isTransient)]

def ofChainResult {α : Type} (f : α → Json) : Except ChainError α → Report
  | .ok a => ok (f a)
  | .error e => ofChainError e

def ofDispatchError (e : DispatchError) : Report :=
  match e with
  | .chain e => ofChainError e
  | .allowanceExhausted .. => failure "AllowanceExhausted" e.message
  | .retriesExhausted attempts last =>
      failure "RetriesExhausted" e.message ++
        [("attempts", ofNat attempts), ("last", .object (ofChainError last))]

def ofDispatchResult {α : Type} (f : α → Json) : Except DispatchError α → Report
  | .ok a => ok (f a)
  | .error e => ofDispatchError e

def ofHalted {α : Type} (f : α → Json) (report : Report → Report) : Except Halt α → Report
  | .ok a => report (ok (f a))
  | .error (.failed e) => report (ofDispatchError e)
  | .error .panicked => [("error", .string "panic")]

def ofGasEstimate (e : GasEstimate) : Json :=
  .object
    [("gasLimit", ofUint e.gasLimit), ("gasPrice", decimal e.gasPrice),
      ("payload", encode e.payload), ("jobId", fullHex e.payload.jobId)]

def ofFeeEstimate (e : FeeEstimate) : Json :=
  .object
    [("service", decimal e.quote.service), ("transport", decimal e.quote.transport),
      ("quoted", decimal e.quote.total), ("total", decimal e.total)]

def ofDispatchReceipt (r : DispatchReceipt) : Json :=
  .object
    [("jobId", fullHex r.job), ("estimate", ofGasEstimate r.estimate), ("fee", ofFeeEstimate r.fee),
      ("txid", fullHex r.txid)]

def ofWorldCall : WorldCall → Json
  | .destinationGasPrice => .array [.string "destGasPrice"]
  | .simulate payload allowance =>
      .array
        [.string "simulate", fullHex payload.jobId, ofUint payload.gasLimit,
          decimal payload.gasPrice, ofUint allowance]
  | .estimateFee destination gasLimit gasPrice payload =>
      .array
        [.string "estimateFee", ofUint destination, ofUint gasLimit, decimal gasPrice,
          fullHex payload.jobId]
  | .sourceGasPrice => .array [.string "sourceGasPrice"]
  | .nextNonce => .array [.string "nextNonce"]
  | .submit r =>
      .array
        [.string "submit", ofUint r.destination, fullHex r.payload.jobId, decimal r.fee,
          decimal r.txGasPrice, decimal r.nonce]

def ofTransaction (tx : Transaction) : Json :=
  let optional (name : String) (value : Option Amount) : Report :=
    (value.map fun n => (name, amount n)).toList
  .object
    ([("type", .string "0x00"), ("from", fullHex tx.sender), ("to", fullHex tx.target),
      ("data", .string (Hex.ofBytes tx.data))] ++
      optional "gas" tx.gas ++ optional "gasPrice" tx.gasPrice ++ optional "value" tx.value ++
      optional "nonce" tx.nonce)

def ofNodeCall : NodeCall → Json
  | .estimateGas tx => .array [.string "eth_estimateGas", .array [ofTransaction tx]]
  | .gasPrice => .array [.string "eth_gasPrice", .array []]
  | .transactionCount account =>
      .array [.string "eth_getTransactionCount", .array [fullHex account, .string "pending"]]
  | .sendTransaction tx => .array [.string "eth_sendTransaction", .array [ofTransaction tx]]

end BondedRelay.Report
