import BondedRelay.Uint

namespace BondedRelay

inductive Json where
  | null
  | bool (b : Bool)
  | nat (n : Uint 64)
  | negative (magnitude : Nat)
  | float (literal : String)
  | string (s : String)
  | array (items : List Json)
  | object (fields : List (String × Json))
  | unreadable
  deriving Repr

namespace Json

def ofNat (n : Nat) : Json := .nat (.clamp n)

def ofUint {w : Nat} (n : Uint w) : Json := ofNat n.toNat

mutual

def isReadable : Nat → Json → Bool
  | _, .unreadable => false
  | 0, .array _ => false
  | 0, .object _ => false
  | depth + 1, .array items => areReadable depth items
  | depth + 1, .object fields => haveReadable depth fields
  | _, _ => true

def areReadable (depth : Nat) : List Json → Bool
  | [] => true
  | v :: rest => v.isReadable depth && areReadable depth rest

def haveReadable (depth : Nat) : List (String × Json) → Bool
  | [] => true
  | (_, v) :: rest => v.isReadable depth && haveReadable depth rest

end

end Json

end BondedRelay
