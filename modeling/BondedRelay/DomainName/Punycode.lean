namespace BondedRelay.DomainName.Punycode

def base : Nat := 36

def digit? (c : Char) : Option Nat :=
  if 'a' ≤ c ∧ c ≤ 'z' then some (c.toNat - 'a'.toNat)
  else if '0' ≤ c ∧ c ≤ '9' then some (c.toNat - '0'.toNat + 26)
  else if 'A' ≤ c ∧ c ≤ 'Z' then some (c.toNat - 'A'.toNat)
  else none

def limit : Nat := 0x100000000

def threshold (place bias : Nat) : Nat :=
  if place ≤ bias then 1 else if bias + 26 ≤ place then 26 else place - bias

def shrink (place distance : Nat) : Nat × Nat :=
  if 455 < distance then shrink (place + base) (distance / 35) else (place, distance)
termination_by distance
decreasing_by omega

def adapted (isFirst : Bool) (distance count : Nat) : Nat :=
  let distance := if isFirst then distance / 700 else distance / 2
  let (place, distance) := shrink 0 (distance + distance / count)
  place + base * distance / (distance + 38)

structure Decoder where
  label : List Char
  code : Nat
  start : Nat
  bias : Nat
  number : Nat
  weight : Nat
  place : Nat
  deriving Repr

namespace Decoder

def ready (label : List Char) (code start bias : Nat) : Decoder :=
  ⟨label, code, start, bias, start, 1, base⟩

def insert? (d : Decoder) : Option Decoder :=
  let count := d.label.length + 1
  let code := d.code + d.number / count
  let i := d.number % count
  if code.isValidChar then
    let bias := adapted (d.start = 0) (d.number - d.start) count
    some (.ready (d.label.insertIdx i (Char.ofNat code)) code (i + 1) bias)
  else none

def step? (d : Decoder) (c : Char) : Option Decoder :=
  match digit? c with
  | none => none
  | some digit =>
      let number := d.number + digit * d.weight
      let threshold := threshold d.place d.bias
      let weight := d.weight * (base - threshold)
      if limit ≤ number then none
      else if digit < threshold then { d with number }.insert?
      else if limit ≤ weight then none
      else some { d with number, weight, place := d.place + base }

end Decoder

def halves (cs : List Char) : List Char × List Char :=
  let digits := (cs.reverse.takeWhile (· ≠ '-')).reverse
  let ascii := cs.take (cs.length - digits.length - 1)
  if ascii.isEmpty then ([], cs) else (ascii, digits)

def decode? (cs : List Char) : Option (List Char) :=
  let (ascii, digits) := halves cs
  match digits.foldlM Decoder.step? (.ready ascii 0x80 0 72) with
  | some d => if d.place = base then some d.label else none
  | none => none

end BondedRelay.DomainName.Punycode
