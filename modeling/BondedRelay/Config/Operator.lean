import BondedRelay.Hex

namespace BondedRelay

structure OperatorConfig where
  operator : Address
  interval : Uint 64
  executeAsFallback : Bool
  pods : Option (List (Uint 32))
  deriving DecidableEq, Repr

namespace OperatorConfig

def podSet (pods : List (Uint 32)) : List (Uint 32) :=
  (pods.mergeSort fun a b => a.toNat ≤ b.toNat).eraseDups

def wantsPod (c : OperatorConfig) (pod : Uint 32) : Bool :=
  match c.pods with
  | some pods => pods.contains pod
  | none => true

def podsText (c : OperatorConfig) : String :=
  match c.pods with
  | some pods => "Some(\x7b" ++ ", ".intercalate (pods.map fun p => toString p.toNat) ++ "\x7d)"
  | none => "None"

end OperatorConfig

end BondedRelay
