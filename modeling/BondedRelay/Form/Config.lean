import BondedRelay.Config.Configuration
import BondedRelay.Json.Lenient

namespace BondedRelay

open Json

namespace PodPolicy

def toJson : PodPolicy → Json
  | .fixed pod => .object [("fixed", ofUint pod)]
  | .random => .string "random"

def ofJson? (v : Json) : Option PodPolicy :=
  match variant? v with
  | some ("fixed", some pod) => (asUint 32 pod).map .fixed
  | some ("random", payload) => if isBare payload then some .random else none
  | _ => none

instance : JsonForm PodPolicy := ⟨toJson, ofJson?⟩

end PodPolicy

namespace AfterFallbacks

def toJson : AfterFallbacks → Json
  | .anyBonded => .string "anyBonded"
  | .stalled => .string "stalled"

def ofJson? (v : Json) : Option AfterFallbacks :=
  match variant? v with
  | some ("anyBonded", payload) => if isBare payload then some .anyBonded else none
  | some ("stalled", payload) => if isBare payload then some .stalled else none
  | _ => none

instance : JsonForm AfterFallbacks := ⟨toJson, ofJson?⟩

end AfterFallbacks

namespace Protocol

def fieldNames : List String :=
  ["windowDuration", "fallbackCount", "podPolicy", "bondUnit", "operatorThreshold",
    "thresholdStepBps", "spikeToleranceBps", "afterFallbacks"]

def toJson (p : Protocol) : Json :=
  .object
    [("windowDuration", ofUint p.windowDuration), ("fallbackCount", ofUint p.fallbackCount),
      ("podPolicy", encode p.podPolicy), ("bondUnit", amount p.bondUnit),
      ("operatorThreshold", ofUint p.operatorThreshold),
      ("thresholdStepBps", ofUint p.thresholdStepBps),
      ("spikeToleranceBps", ofUint p.spikeToleranceBps),
      ("afterFallbacks", encode p.afterFallbacks)]

def ofJson? (v : Json) : Option Protocol :=
  match record? fieldNames v with
  | some [duration, count, policy, unit, threshold, step, tolerance, after] => do
      let windowDuration ← required (asLenient 64) duration
      let fallbackCount ← required (asLenient 8) count
      let podPolicy ← withDefault (.fixed 1) decode policy
      let bondUnit ← required asLenientAmount unit
      let operatorThreshold ← required (asLenient 32) threshold
      let thresholdStepBps ← required (asLenient 32) step
      let spikeToleranceBps ← withDefault 0 (asLenient 32) tolerance
      let afterFallbacks ← withDefault .anyBonded decode after
      return ⟨windowDuration, fallbackCount, podPolicy, bondUnit, operatorThreshold,
        thresholdStepBps, spikeToleranceBps, afterFallbacks⟩
  | _ => none

instance : JsonForm Protocol := ⟨toJson, ofJson?⟩

end Protocol

namespace GasConfig

def fieldNames : List String :=
  ["simulationAllowance", "gasMarginBps", "priceMultiplierBps", "feeMarginBps", "minGasPrice"]

def toJson (g : GasConfig) : Json :=
  .object
    ([("simulationAllowance", ofUint g.simulationAllowance),
      ("gasMarginBps", ofUint g.gasMarginBps),
      ("priceMultiplierBps", ofUint g.priceMultiplierBps),
      ("feeMarginBps", ofUint g.feeMarginBps)] ++
      (match g.minGasPrice with
      | some floor => [("minGasPrice", amount floor)]
      | none => []))

def ofJson? (v : Json) : Option GasConfig :=
  match record? fieldNames v with
  | some [allowance, gas, price, fee, floor] => do
      let simulationAllowance ← required (asLenient 64) allowance
      let gasMarginBps ← required (asLenient 32) gas
      let priceMultiplierBps ← required (asLenient 32) price
      let feeMarginBps ← required (asLenient 32) fee
      let minGasPrice ← withDefault none asLenientAmount? floor
      return { simulationAllowance, gasMarginBps, priceMultiplierBps, feeMarginBps, minGasPrice }
  | _ => none

instance : JsonForm GasConfig := ⟨toJson, ofJson?⟩

def named? (name : String) : Option GasConfig :=
  if name = "evmDefault" then some evmDefault
  else if name = "polygonDefault" then some polygonDefault
  else none

def ofEntry? : Json → Option GasConfig
  | .string name => named? name
  | .object fields => ofJson? (.object fields)
  | _ => none

def entriesOfJson? : List (String × Json) → Option (List (String × GasConfig))
  | [] => some []
  | (name, v) :: rest =>
      match ofEntry? v, entriesOfJson? rest with
      | some g, some entries => some ((name, g) :: entries)
      | _, _ => none

def mapOfJson? : Json → Option (Table String GasConfig)
  | .object fields => (entriesOfJson? fields).map .ofList
  | _ => none

def mapToJson (t : Table String GasConfig) : Json :=
  .object (t.entries.map fun e => (e.1, encode e.2))

end GasConfig

namespace RetryConfig

def fieldNames : List String := ["maxAttempts", "backoffMs", "priceBumpBps"]

def toJson (r : RetryConfig) : Json :=
  .object
    [("maxAttempts", ofUint r.maxAttempts), ("backoffMs", ofUint r.backoffMs),
      ("priceBumpBps", ofUint r.priceBumpBps)]

def ofJson? (v : Json) : Option RetryConfig :=
  match record? fieldNames v with
  | some [attempts, backoff, bump] => do
      let maxAttempts ← required (asLenient 32) attempts
      let backoffMs ← required (asLenient 64) backoff
      let priceBumpBps ← required (asLenient 32) bump
      return { maxAttempts, backoffMs, priceBumpBps }
  | _ => none

instance : JsonForm RetryConfig := ⟨toJson, ofJson?⟩

end RetryConfig

def bareName? (v : Json) : Option String :=
  match variant? v with
  | some (name, payload) => if isBare payload then some name else none
  | none => none

namespace LogConfig

def fieldNames : List String := ["fmt", "level"]

def toJson (l : LogConfig) : Json :=
  .object [("fmt", .string l.style.name), ("level", .string l.level.name)]

def ofJson? (v : Json) : Option LogConfig :=
  match record? fieldNames v with
  | some [style, level] => do
      let style ← withDefault .full (fun v => (bareName? v).map LogStyle.ofName) style
      let level ← withDefault .info (fun v => (bareName? v).map LogLevel.ofName) level
      return { style, level }
  | _ => none

instance : JsonForm LogConfig := ⟨toJson, ofJson?⟩

end LogConfig

namespace OperatorConfig

def fieldNames : List String := ["operator", "interval", "executeAsFallback", "pods"]

def podsToJson : Option (List (Uint 32)) → Json
  | some pods => .array (pods.map ofUint)
  | none => .null

def toJson (o : OperatorConfig) : Json :=
  .object
    [("operator", fullHex o.operator), ("interval", ofUint o.interval),
      ("executeAsFallback", .bool o.executeAsFallback), ("pods", podsToJson o.pods)]

def ofJson? (v : Json) : Option OperatorConfig :=
  match record? fieldNames v with
  | some [operator, interval, asFallback, pods] => do
      let operator ← required (asFullHex 160) operator
      let interval ← required (asLenient 64) interval
      let executeAsFallback ← withDefault true asBool asFallback
      let pods ← withDefault none (nullable (asList (asUint 32))) pods
      return { operator, interval, executeAsFallback, pods := pods.map podSet }
  | _ => none

instance : JsonForm OperatorConfig := ⟨toJson, ofJson?⟩

end OperatorConfig

namespace Configuration

def fieldNames : List String :=
  ["version", "environment", "protocol", "gas", "retry", "logging", "metrics", "operator"]

def toJson (c : Configuration) : Json :=
  .object
    ([("version", ofUint c.version), ("environment", .string c.environment),
      ("protocol", encode c.protocol), ("gas", GasConfig.mapToJson c.gas),
      ("retry", encode c.retry), ("logging", encode c.logging),
      ("metrics", match c.metrics with
        | some port => ofUint port
        | none => .null)] ++
      (match c.operator with
      | some o => [("operator", encode o)]
      | none => []))

def ofJson? (v : Json) : Option Configuration :=
  match record? fieldNames v with
  | some [version, environment, protocol, gas, retry, logging, metrics, operator] => do
      let version ← required (asUint 64) version
      let environment ← required asString environment
      let protocol ← withDefault .standard decode protocol
      let gas ← withDefault .empty GasConfig.mapOfJson? gas
      let retry ← withDefault .standard decode retry
      let logging ← withDefault .standard decode logging
      let metrics ← withDefault none (nullable (asUint 16)) metrics
      let operator ← withDefault none (nullable decode) operator
      return { version, environment, protocol, gas, retry, logging, metrics, operator }
  | _ => none

instance : JsonForm Configuration := ⟨toJson, ofJson?⟩

end Configuration

end BondedRelay
