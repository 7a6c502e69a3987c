import BondedRelay.DomainName.Mapping
import BondedRelay.DomainName.Punycode
import BondedRelay.Text.Direction
import BondedRelay.Text.Joining

namespace BondedRelay.DomainName

open Text

def asciiMark : List Char := ['x', 'n', '-', '-']

def maxDigits : Nat := 2000

def maxLabel : Nat := 1000

def isAscii (c : Char) : Bool := c.toNat < 0x80

def labelOfForm? (form : List Char) : Option (List Char) :=
  if form.isEmpty ∨ form.getLast? = some '-' ∨ maxDigits < form.length ∨ !form.all isAscii then none
  else
    (Punycode.decode? form).filter fun label =>
      label.all (fun c => isKept c && c ≠ '.') && canonical label = label

def label? (written : List Char) : Option (List Char) :=
  if asciiMark.isPrefixOf written then labelOfForm? (written.drop asciiMark.length)
  else some written

def nonJoiner : Char := '\u200c'

def joiner : Char := '\u200d'

def joinersFit (before : List Char) : List Char → Bool
  | [] => true
  | c :: rest =>
      let isBehindVirama := before.head?.any isVirama
      let partsLetters :=
        (before.dropWhile isTransparent).head?.any joinsBehind &&
          (rest.dropWhile isTransparent).head?.any joinsBefore
      (!(c = joiner || c = nonJoiner) || isBehindVirama || (c = nonJoiner && partsLetters)) &&
        joinersFit (c :: before) rest

def isLabel (label : List Char) : Bool :=
  !label.head?.any isMark && joinersFit [] label &&
    (label.all isAscii || label.length ≤ maxLabel)

def turns (cs : List Char) : Bool :=
  cs.any fun c => direction c = .rightToLeft || direction c = .arabicDigit

def isDirected (label : List Char) : Bool :=
  let directions := label.map direction
  let last := (directions.reverse.find? (· ≠ .overlay)).getD .neutral
  match directions with
  | [] => true
  | .leftToRight :: rest =>
      rest.all (fun d => d ≠ .rightToLeft && d ≠ .arabicDigit) &&
        (last = .leftToRight || last = .europeanDigit)
  | .rightToLeft :: rest =>
      rest.all (· ≠ .leftToRight) && last ≠ .neutral &&
        !(rest.contains .europeanDigit && rest.contains .arabicDigit)
  | _ => false

end BondedRelay.DomainName
