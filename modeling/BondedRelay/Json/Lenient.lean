import BondedRelay.Json.Fields
import BondedRelay.Text.Quoted

namespace BondedRelay.Json

inductive Unexpected where
  | string (s : String)
  | integer (n : Int)
  | boolean (b : Bool)
  | null
  | sequence
  | map
  | float
  | unreadable
  deriving DecidableEq, Repr

inductive NumberError where
  | value (found : Unexpected) (expected : String)
  | type (found : Unexpected) (expected : String)
  deriving DecidableEq, Repr

def Unexpected.text : Unexpected → String
  | .string s => "string " ++ Text.quoted s
  | .integer n => "integer \x60" ++ toString n ++ "\x60"
  | .boolean true => "boolean \x60true\x60"
  | .boolean false => "boolean \x60false\x60"
  | .null => "null"
  | .sequence => "sequence"
  | .map => "map"
  | .float => "floating point"
  | .unreadable => "unreadable value"

def NumberError.message : NumberError → String
  | .value found expected => "invalid value: " ++ found.text ++ ", expected " ++ expected
  | .type found expected => "invalid type: " ++ found.text ++ ", expected " ++ expected

def NumberError.found : NumberError → Unexpected
  | .value found _ => found
  | .type found _ => found

def numberWith {α : Type} (expected : String) (ofNat : Nat → Option α) (ofText : String → Option α)
    (v : Json) : Except NumberError α :=
  match v with
  | .nat n =>
      match ofNat n.toNat with
      | some a => .ok a
      | none => .error (.value (.integer n.toNat) expected)
  | .string s =>
      match ofText s with
      | some a => .ok a
      | none => .error (.value (.string s) expected)
  | .negative n => .error (.type (.integer (-n)) expected)
  | .float _ => .error (.type .float expected)
  | .bool b => .error (.type (.boolean b) expected)
  | .null => .error (.type .null expected)
  | .array _ => .error (.type .sequence expected)
  | .object _ => .error (.type .map expected)
  | .unreadable => .error (.type .unreadable expected)

def expectedNumber : String :=
  "a non-negative integer, a decimal string, or a 0x-prefixed hex string"

def expectedAmount : String :=
  "an integer, a decimal string, or a 0x-prepended hexadecimal string"

def lenientUint (w : Nat) : Json → Except NumberError (Uint w) :=
  numberWith expectedNumber Uint.ofNat? (Numeral.lenient? w)

def lenientAmount : Json → Except NumberError Amount :=
  numberWith expectedAmount Uint.ofNat? Numeral.amount?

def lenientAmount? : Json → Except NumberError (Option Amount)
  | .null => .ok none
  | v => (lenientAmount v).map some

def asLenient (w : Nat) (v : Json) : Option (Uint w) := (lenientUint w v).toOption

def asLenientAmount (v : Json) : Option Amount := (lenientAmount v).toOption

def asLenientAmount? (v : Json) : Option (Option Amount) := (lenientAmount? v).toOption

end BondedRelay.Json
