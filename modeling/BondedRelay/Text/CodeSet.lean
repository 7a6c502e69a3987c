import BondedRelay.Hex
import BondedRelay.Text.Parts

namespace BondedRelay.Text

def numberOf (digits : List Char) : Nat :=
  digits.foldl (fun n c => 16 * n + (Hex.digit? c).getD 0) 0

def codeOf (digits : List Char) : Char := Char.ofNat (numberOf digits)

structure CodeSet where
  ranges : List (Nat × Nat)
  deriving DecidableEq, Repr

namespace CodeSet

def ofText (s : String) : CodeSet :=
  ⟨(words s).filterMap fun word =>
    match parts '-' word with
    | [code] => some (numberOf code, numberOf code)
    | [first, last] => some (numberOf first, numberOf last)
    | _ => none⟩

def contains (codes : CodeSet) (c : Char) : Bool :=
  codes.ranges.any fun r => r.1 ≤ c.toNat && c.toNat ≤ r.2

end CodeSet

end BondedRelay.Text
