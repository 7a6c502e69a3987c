import BondedRelay.Json.Reader

namespace BondedRelay.Json

inductive Refusal where
  | malformed
  | mismatched
  deriving DecidableEq, Repr

def document {α : Type} (read : Json → Option α) (text : String) : Except Refusal α :=
  match (read? text).bind read with
  | some a => .ok a
  | none => .error (if (parse? text).isSome then .mismatched else .malformed)

end BondedRelay.Json
