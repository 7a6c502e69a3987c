import BondedRelay.Job.Payload
import BondedRelay.Job.Record
import BondedRelay.Json.Fields

namespace BondedRelay

open Json

namespace Payload

def fieldNames : List String :=
  ["sourceChain", "target", "nonce", "data", "gasLimit", "gasPrice"]

def toJson (p : Payload) : Json :=
  .object
    [("sourceChain", ofUint p.sourceChain), ("target", fullHex p.target),
      ("nonce", amount p.nonce), ("data", .string (Hex.ofBytes p.data)),
      ("gasLimit", ofUint p.gasLimit), ("gasPrice", amount p.gasPrice)]

def ofJson? (v : Json) : Option Payload :=
  match record? fieldNames v with
  | some [chain, target, nonce, data, limit, price] => do
      let sourceChain ← required (asUint 32) chain
      let target ← required (asFullHex 160) target
      let nonce ← required asAmount nonce
      let data ← required asBytes data
      let gasLimit ← required (asUint 64) limit
      let gasPrice ← required asAmount price
      return { sourceChain, target, nonce, data, gasLimit, gasPrice }
  | _ => none

instance : JsonForm Payload := ⟨toJson, ofJson?⟩

end Payload

def asJobId : Json → Option JobId
  | .string s => Numeral.jobId? s
  | _ => none

namespace JobStatus

def toJson : JobStatus → Json
  | .pending => .string "pending"
  | .completed => .string "completed"
  | .failedTerminal reason =>
      .object [("failedTerminal", .object [("reason", .string reason)])]

def ofJson? (v : Json) : Option JobStatus :=
  match variant? v with
  | some ("pending", payload) => if isBare payload then some .pending else none
  | some ("completed", payload) => if isBare payload then some .completed else none
  | some ("failedTerminal", some payload) =>
      match record? ["reason"] payload with
      | some [reason] => (required asString reason).map .failedTerminal
      | _ => none
  | _ => none

instance : JsonForm JobStatus := ⟨toJson, ofJson?⟩

end JobStatus

namespace JobRecord

def fieldNames : List String :=
  ["id", "sourceChain", "pod", "primary", "assignedBlock", "assignedAt", "fallbacks", "gasLimit",
    "gasPrice", "status"]

def toJson (r : JobRecord) : Json :=
  .object
    [("id", fullHex r.id), ("sourceChain", ofUint r.sourceChain), ("pod", ofUint r.pod),
      ("primary", fullHex r.primary), ("assignedBlock", ofUint r.assignedBlock),
      ("assignedAt", ofUint r.assignedAt), ("fallbacks", .array (r.fallbacks.map ofUint)),
      ("gasLimit", ofUint r.gasLimit), ("gasPrice", amount r.gasPrice),
      ("status", encode r.status)]

def ofJson? (v : Json) : Option JobRecord :=
  match record? fieldNames v with
  | some [id, chain, pod, primary, block, time, fallbacks, limit, price, status] => do
      let id ← required asJobId id
      let sourceChain ← required (asUint 32) chain
      let pod ← required (asUint 32) pod
      let primary ← required (asFullHex 160) primary
      let assignedBlock ← required (asUint 64) block
      let assignedAt ← required (asUint 64) time
      let fallbacks ← required (asList (asUint 32)) fallbacks
      let gasLimit ← required (asUint 64) limit
      let gasPrice ← required asAmount price
      let status ← required decode status
      return ⟨id, sourceChain, pod, primary, assignedBlock, assignedAt, fallbacks, gasLimit,
        gasPrice, status⟩
  | _ => none

instance : JsonForm JobRecord := ⟨toJson, ofJson?⟩

end JobRecord

namespace JobDetails

def fieldNames : List String :=
  ["id", "pod", "primary", "startTime", "windowDuration", "fallbacks", "gasLimit", "gasPrice",
    "status"]

def toJson (d : JobDetails) : Json :=
  .object
    [("id", fullHex d.id), ("pod", ofUint d.pod), ("primary", fullHex d.primary),
      ("startTime", ofUint d.startTime), ("windowDuration", ofUint d.windowDuration),
      ("fallbacks", .array (d.fallbacks.map ofUint)), ("gasLimit", ofUint d.gasLimit),
      ("gasPrice", amount d.gasPrice), ("status", encode d.status)]

def ofJson? (v : Json) : Option JobDetails :=
  match record? fieldNames v with
  | some [id, pod, primary, start, duration, fallbacks, limit, price, status] => do
      let id ← required asJobId id
      let pod ← required (asUint 32) pod
      let primary ← required (asFullHex 160) primary
      let startTime ← required (asUint 64) start
      let windowDuration ← required (asUint 64) duration
      let fallbacks ← required (asList (asUint 32)) fallbacks
      let gasLimit ← required (asUint 64) limit
      let gasPrice ← required asAmount price
      let status ← required decode status
      return { id, pod, primary, startTime, windowDuration, fallbacks, gasLimit, gasPrice, status }
  | _ => none

instance : JsonForm JobDetails := ⟨toJson, ofJson?⟩

end JobDetails

namespace OperatorKind

def toJson : OperatorKind → Json
  | .account => .string "account"
  | .delegated owner => .object [("delegated", .object [("owner", fullHex owner)])]

def ofJson? (v : Json) : Option OperatorKind :=
  match variant? v with
  | some ("account", payload) => if isBare payload then some .account else none
  | some ("delegated", some payload) =>
      match record? ["owner"] payload with
      | some [owner] => (required (asFullHex 160) owner).map .delegated
      | _ => none
  | _ => none

instance : JsonForm OperatorKind := ⟨toJson, ofJson?⟩

end OperatorKind

namespace BondRecord

def toJson (r : BondRecord) : Json :=
  .object [("amount", Json.amount r.amount), ("pod", ofUint r.pod), ("kind", encode r.kind)]

def ofJson? (v : Json) : Option BondRecord :=
  match record? ["amount", "pod", "kind"] v with
  | some [held, pod, kind] => do
      let amount ← required asAmount held
      let pod ← required (asUint 32) pod
      let kind ← required decode kind
      return { amount, pod, kind }
  | _ => none

instance : JsonForm BondRecord := ⟨toJson, ofJson?⟩

end BondRecord

namespace BondRequirement

def toJson (r : BondRequirement) : Json :=
  .object [("base", amount r.base), ("current", amount r.current)]

def ofJson? (v : Json) : Option BondRequirement :=
  match record? ["base", "current"] v with
  | some [base, current] => do
      let base ← required asAmount base
      let current ← required asAmount current
      return { base, current }
  | _ => none

instance : JsonForm BondRequirement := ⟨toJson, ofJson?⟩

end BondRequirement

end BondedRelay
