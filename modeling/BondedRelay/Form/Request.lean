import BondedRelay.Clock
import BondedRelay.Config.Settings
import BondedRelay.Dispatch.Client
import BondedRelay.Form.Config
import BondedRelay.Job.Record
import BondedRelay.Json.Access

namespace BondedRelay.Request

def payload (j : Json) : Payload :=
  ⟨j.int "sourceChain", j.addr "target", j.num "nonce", j.data "data", j.int "gasLimit",
    j.num "gasPrice"⟩

def jobId (j : Json) : JobId :=
  if j.has "payload" then (payload (j.field "payload")).jobId else j.hash "id"

def params (j : Json) : ExecutionParams := ⟨j.int "gasLeft", j.num "gasPrice"⟩

def podPolicy : Json → PodPolicy
  | .object [("fixed", n)] => .fixed n.asInt
  | _ => .random

def afterFallbacks : Json → AfterFallbacks
  | .string "stalled" => .stalled
  | _ => .anyBonded

def protocol (j : Json) : Protocol :=
  let d := Protocol.standard
  { windowDuration := j.orElse "windowDuration" d.windowDuration Json.asInt
    fallbackCount := j.orElse "fallbackCount" d.fallbackCount Json.asInt
    podPolicy := j.orElse "podPolicy" d.podPolicy podPolicy
    bondUnit := j.orElse "bondUnit" d.bondUnit Json.asNum
    operatorThreshold := j.orElse "operatorThreshold" d.operatorThreshold Json.asInt
    thresholdStepBps := j.orElse "thresholdStepBps" d.thresholdStepBps Json.asInt
    spikeToleranceBps := j.orElse "spikeToleranceBps" d.spikeToleranceBps Json.asInt
    afterFallbacks := j.orElse "afterFallbacks" d.afterFallbacks afterFallbacks }

def status : Json → JobStatus
  | .string "completed" => .completed
  | .object [("failedTerminal", .string reason)] => .failedTerminal reason
  | _ => .pending

def record (j : Json) : JobRecord :=
  { id := jobId j
    sourceChain := j.orElse "sourceChain" 1 Json.asInt
    pod := j.orElse "pod" 1 Json.asInt
    primary := j.addr "primary"
    assignedBlock := j.orElse "assignedBlock" 1 Json.asInt
    assignedAt := j.int "assignedAt"
    fallbacks := (j.items "fallbacks").map Json.asInt
    gasLimit := j.orElse "gasLimit" 1 Json.asInt
    gasPrice := j.orElse "gasPrice" 1 Json.asNum
    status := j.orElse "status" .pending status }

def clock (j : Json) : Clock :=
  j.orElse "clock" Clock.standard fun c =>
    Clock.create (c.int "block") (c.int "timestamp") (c.int "blockTime")

def gas : Json → GasConfig
  | .string name => (GasConfig.named? name).getD .evmDefault
  | j =>
      { simulationAllowance := j.int "simulationAllowance"
        gasMarginBps := j.int "gasMarginBps"
        priceMultiplierBps := j.int "priceMultiplierBps"
        feeMarginBps := j.int "feeMarginBps"
        minGasPrice := j.opt "minGasPrice" Json.asNum }

def retry (j : Json) : RetryConfig :=
  ⟨j.int "maxAttempts", j.int "backoffMs", j.int "priceBumpBps"⟩

def operator (j : Json) : OperatorConfig :=
  { operator := j.addr "operator"
    interval := j.orElse "interval" 1 Json.asInt
    executeAsFallback := j.orElse "executeAsFallback" true Json.asFlag
    pods := j.opt "pods" fun v => OperatorConfig.podSet (v.asItems.map Json.asInt) }

def environment : Json → Environment
  | .object fields => fields.map fun (name, v) => (name, v.asText)
  | _ => []

def quote (j : Json) : FeeQuote := ⟨j.num "service", j.num "transport"⟩

def dispatch (j : Json) : DispatchRequest :=
  ⟨j.int "destination", payload (j.field "payload"), j.num "fee", j.num "txGasPrice",
    j.num "nonce"⟩

def receipt (j : Json) : TxReceipt := ⟨j.hash "txid", j.opt "status" Json.asInt⟩

end BondedRelay.Request
