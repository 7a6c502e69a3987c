import BondedRelay.Hex
import BondedRelay.Text.Blank

namespace BondedRelay.Numeral

def decimalDigit? (c : Char) : Option Nat :=
  if '0' ≤ c ∧ c ≤ '9' then some (c.toNat - '0'.toNat) else none

def readFrom (digit? : Char → Option Nat) (radix : Nat) : Nat → List Char → Option Nat
  | acc, [] => some acc
  | acc, c :: cs =>
      match digit? c with
      | some d => readFrom digit? radix (acc * radix + d) cs
      | none => none

def decimal? (cs : List Char) : Option Nat := readFrom decimalDigit? 10 0 cs

def hexadecimal? (cs : List Char) : Option Nat := readFrom Hex.digit? 16 0 cs

def signed? (read : List Char → Option Nat) (cs : List Char) : Option Nat :=
  let ds := match cs with
    | '+' :: rest => rest
    | _ => cs
  if ds.isEmpty then none else read ds

def amount? (s : String) : Option Amount :=
  match s.toList with
  | '0' :: 'x' :: rest =>
      let ds := Hex.unmarked rest
      if ds.length ≤ 64 then (hexadecimal? ds).bind Uint.ofNat? else none
  | cs => (decimal? cs).bind Uint.ofNat?

def lenient? (w : Nat) (s : String) : Option (Uint w) :=
  let marked (rest : List Char) : Option Nat :=
    if rest.isEmpty then some 0 else signed? hexadecimal? rest
  let n := match Text.trimmed s.toList with
    | '0' :: 'x' :: rest => marked rest
    | '0' :: 'X' :: rest => marked rest
    | cs => signed? decimal? cs
  n.bind Uint.ofNat?

def amountMessage (s : String) : String := "Unable to parse U256 from string: " ++ s

def jobId? (s : String) : Option JobId := Hex.toUint? 256 s

def jobIdMessage (s : String) : String :=
  "Expected a 0x-prefixed 32-byte hex job id, got: " ++ s

end BondedRelay.Numeral
