import BondedRelay.Event
import BondedRelay.Feed
import BondedRelay.Form.Job
import BondedRelay.Job.Window
import BondedRelay.Rejection

namespace BondedRelay

abbrev Report := List (String × Json)

namespace Report

open Json

def decimal {w : Nat} (n : Uint w) : Json := .string (toString n.toNat)

def ok (v : Json) : Report := [("ok", v)]

def error (kind : String) : Report := [("error", .string kind)]

def failure (kind message : String) : Report :=
  [("error", .string kind), ("message", .string message)]

def ofOption {α : Type} (f : α → Json) : Option α → Json
  | some a => f a
  | none => .null

def ofList {α : Type} (f : α → Json) (l : List α) : Json := .array (l.map f)

def payloadErrorKind : PayloadError → String
  | .tooShort _ => "Payload.TooShort"
  | .unknownSelector _ => "Payload.UnknownSelector"
  | .emptyBody => "Payload.Abi"
  | .malformedBody => "Payload.Abi"
  | .outOfRange _ => "Payload.OutOfRange"

def tokenErrorKind : TokenError → String
  | .insufficientBalance .. => "Token.InsufficientBalance"
  | .insufficientAllowance .. => "Token.InsufficientAllowance"
  | .custom _ => "Token.Custom"

def rejectionKind : Rejection → String
  | .invalidJob _ => "InvalidJob"
  | .duplicateJob _ => "DuplicateJob"
  | .operatorHasTime .. => "OperatorHasTime"
  | .invalidFallback .. => "InvalidFallback"
  | .fallbacksExhausted _ => "FallbacksExhausted"
  | .gasSpike .. => "GasSpike"
  | .notEnoughGas .. => "NotEnoughGas"
  | .bondBelowMinimum .. => "BondBelowMinimum"
  | .operatorIsBonded _ => "OperatorIsBonded"
  | .notBonded _ => "NotBonded"
  | .notOwner .. => "NotOwner"
  | .podDoesNotExist _ => "PodDoesNotExist"
  | .invalidBeneficiary _ => "InvalidBeneficiary"
  | .untrustedSource .. => "UntrustedSource"
  | .sourceChainMismatch .. => "SourceChainMismatch"
  | .payload e => payloadErrorKind e
  | .token e => tokenErrorKind e

def hintName : RetryHint → String
  | .later => "Later"
  | .never => "Never"
  | .differentCaller => "DifferentCaller"

def ofPayloadError (e : PayloadError) : Report := failure (payloadErrorKind e) e.message

def ofTokenError (e : TokenError) : Report := failure (tokenErrorKind e) e.message

def ofRejection (r : Rejection) : Report :=
  failure (rejectionKind r) r.message ++
    [("code", .string r.code), ("hint", .string (hintName r.hint))]

def ofResult {α : Type} (f : α → Json) : Except Rejection α → Report
  | .ok a => ok (f a)
  | .error r => ofRejection r

def ofTransfer : Except TokenError Unit → Report
  | .ok _ => ok .null
  | .error e => ofTokenError e

def ofPhase (p : WindowPhase) : Json :=
  let name : Json := match p with
    | .unassigned => .string "Open"
    | .primary => .string "Primary"
    | .fallback k => .object [("fallback", ofNat k)]
    | .exhausted => .string "Exhausted"
  .object [("phase", name), ("escalated", .bool p.isEscalated)]

def ofBeneficiary : Beneficiary → Json
  | .bond a => .object [("bond", fullHex a)]
  | .account a => .object [("account", fullHex a)]

def ofSlash (s : SlashReceipt) : Json :=
  .object
    [("operator", fullHex s.operator), ("slashed", decimal s.slashed),
      ("remaining", decimal s.remaining), ("refunded", decimal s.refunded),
      ("demoted", .bool s.demoted), ("beneficiary", ofBeneficiary s.beneficiary)]

def ofOutcome : ExecutionOutcome → Json
  | .completed => .string "completed"
  | .reverted reason => .object [("reverted", .string reason)]

def ofReceipt (r : ExecutionReceipt) : Json :=
  .object
    [("job", fullHex r.job), ("executor", fullHex r.executor), ("outcome", ofOutcome r.outcome),
      ("slash", ofOption ofSlash r.slash)]

def ofEvent : Event → Json
  | .jobAvailable details payload =>
      .object
        [("event", .string "JobAvailable"), ("details", encode details),
          ("payload", .string (Hex.ofBytes payload))]
  | .jobCompleted job executor =>
      .object
        [("event", .string "JobCompleted"), ("job", fullHex job), ("executor", fullHex executor)]
  | .jobFailed job executor reason =>
      .object
        [("event", .string "JobFailed"), ("job", fullHex job), ("executor", fullHex executor),
          ("reason", .string reason)]
  | .operatorSlashed receipt =>
      .object [("event", .string "OperatorSlashed"), ("slash", ofSlash receipt)]
  | .operatorBonded operator pod amount =>
      .object
        [("event", .string "OperatorBonded"), ("operator", fullHex operator), ("pod", ofUint pod),
          ("amount", decimal amount)]
  | .operatorUnbonded operator amount =>
      .object
        [("event", .string "OperatorUnbonded"), ("operator", fullHex operator),
          ("amount", decimal amount)]

def shown : Nat := 20

def entries (name countName : String) (all : List Json) : Report :=
  if all.isEmpty then []
  else if shown < all.length then [(countName, ofNat all.length)]
  else [(name, .array all)]

def ofUnread (u : Unread Event) : Report :=
  let missed : List Json := if u.missed = 0 then [] else [.object [("lagged", ofNat u.missed)]]
  entries "events" "eventCount" (missed ++ u.items.map ofEvent)

end Report

end BondedRelay
