import BondedRelay.Hex
import BondedRelay.Json.Value
import BondedRelay.Numeral

namespace BondedRelay

class JsonForm (α : Type) where
  encode : α → Json
  decode : Json → Option α

namespace Json

export JsonForm (encode decode)

def valuesNamed (name : String) (fields : List (String × Json)) : List Json :=
  fields.filterMap fun f => if f.1 = name then some f.2 else none

def record? (names : List String) : Json → Option (List (Option Json))
  | .object fields =>
      names.mapM fun name =>
        match valuesNamed name fields with
        | [] => some none
        | [v] => some (some v)
        | _ => none
  | .array items =>
      if items.length ≤ names.length then
        some (items.map some ++ List.replicate (names.length - items.length) none)
      else none
  | _ => none

def required {α : Type} (read : Json → Option α) : Option Json → Option α
  | some v => read v
  | none => none

def withDefault {α : Type} (default : α) (read : Json → Option α) : Option Json → Option α
  | some v => read v
  | none => some default

def nullable {α : Type} (read : Json → Option α) : Json → Option (Option α)
  | .null => some none
  | v => (read v).map some

def variant? : Json → Option (String × Option Json)
  | .string name => some (name, none)
  | .object [(name, v)] => some (name, some v)
  | _ => none

def isBare : Option Json → Bool
  | none => true
  | some .null => true
  | _ => false

def asString : Json → Option String
  | .string s => some s
  | _ => none

def asBool : Json → Option Bool
  | .bool b => some b
  | _ => none

def asUint (w : Nat) : Json → Option (Uint w)
  | .nat n => Uint.ofNat? n.toNat
  | _ => none

def asList {α : Type} (read : Json → Option α) : Json → Option (List α)
  | .array items => items.mapM read
  | _ => none

def asFullHex (w : Nat) : Json → Option (Uint w)
  | .string s => Hex.toSpacedUint? w s
  | _ => none

def asAmount : Json → Option Amount
  | .string s => Hex.toSpacedAmount? s
  | _ => none

def asBytes : Json → Option Bytes
  | .string s => Hex.toBytes? s
  | _ => none

def fullHex {w : Nat} (n : Uint w) : Json := .string (Hex.ofUint n)

def amount (n : Amount) : Json := .string (Hex.ofNat n.toNat)

end Json

end BondedRelay
