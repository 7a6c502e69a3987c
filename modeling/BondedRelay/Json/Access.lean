import BondedRelay.Hex
import BondedRelay.Json.Value
import BondedRelay.Numeral

namespace BondedRelay.Json

def field (j : Json) (name : String) : Json :=
  match j with
  | .object fields => (fields.lookup name).getD .null
  | _ => .null

def has (j : Json) (name : String) : Bool :=
  match j.field name with
  | .null => false
  | _ => true

def asText : Json → String
  | .string s => s
  | _ => ""

def asSize : Json → Nat
  | .nat n => n.toNat
  | _ => 0

def asInt {w : Nat} (j : Json) : Uint w := .wrap j.asSize

def asNum : Json → Amount
  | .string s => (Numeral.amount? s).getD 0
  | j => j.asInt

def asHash {w : Nat} (j : Json) : Uint w := (Hex.toUint? w j.asText).getD 0

def asAddr (j : Json) : Address := j.asHash

def asFlag : Json → Bool
  | .bool b => b
  | _ => false

def asItems : Json → List Json
  | .array items => items
  | _ => []

def text (j : Json) (name : String) : String := (j.field name).asText

def size (j : Json) (name : String) : Nat := (j.field name).asSize

def int {w : Nat} (j : Json) (name : String) : Uint w := (j.field name).asInt

def num (j : Json) (name : String) : Amount := (j.field name).asNum

def hash {w : Nat} (j : Json) (name : String) : Uint w := (j.field name).asHash

def addr (j : Json) (name : String) : Address := j.hash name

def flag (j : Json) (name : String) : Bool := (j.field name).asFlag

def items (j : Json) (name : String) : List Json := (j.field name).asItems

def data (j : Json) (name : String) : Bytes := (Hex.toBytes? (j.text name)).getD []

def opt {α : Type} (j : Json) (name : String) (read : Json → α) : Option α :=
  if j.has name then some (read (j.field name)) else none

def orElse {α : Type} (j : Json) (name : String) (default : α) (read : Json → α) : α :=
  (j.opt name read).getD default

end BondedRelay.Json
