import BondedRelay.Hex
import BondedRelay.Json.Value
import BondedRelay.Magnitude
import BondedRelay.Numeral
import BondedRelay.Text.Blank

namespace BondedRelay.Json

def skipBlanks (cs : List Char) : List Char := cs.dropWhile Text.isPlainBlank

def shortEscape? : Char → Option Char
  | '"' => some '"'
  | '\\' => some '\\'
  | '/' => some '/'
  | 'b' => some '\x08'
  | 'f' => some '\x0c'
  | 'n' => some '\n'
  | 'r' => some '\r'
  | 't' => some '\t'
  | _ => none

def unit? (a b c d : Char) : Option Nat :=
  match Hex.digit? a, Hex.digit? b, Hex.digit? c, Hex.digit? d with
  | some a, some b, some c, some d => some (((a * 16 + b) * 16 + c) * 16 + d)
  | _, _, _, _ => none

def isHighSurrogate (n : Nat) : Bool := 0xd800 ≤ n && n ≤ 0xdbff

def isLowSurrogate (n : Nat) : Bool := 0xdc00 ≤ n && n ≤ 0xdfff

def readString (acc : Option (List Char)) : List Char → Option (Option String × List Char)
  | [] => none
  | '"' :: rest => some (acc.map fun cs => String.ofList cs.reverse, rest)
  | '\\' :: 'u' :: a :: b :: c :: d :: rest =>
      match unit? a b c d with
      | none => none
      | some n =>
          if isHighSurrogate n then
            match rest with
            | '\\' :: 'u' :: a :: b :: c :: d :: more =>
                match unit? a b c d with
                | none => none
                | some low =>
                    if isLowSurrogate low then
                      let n := 0x10000 + (n - 0xd800) * 0x400 + (low - 0xdc00)
                      readString (acc.map (Char.ofNat n :: ·)) more
                    else readString none ('\\' :: 'u' :: a :: b :: c :: d :: more)
            | rest => readString none rest
          else if isLowSurrogate n then readString none rest
          else readString (acc.map (Char.ofNat n :: ·)) rest
  | '\\' :: e :: rest =>
      match shortEscape? e with
      | some c => readString (acc.map (c :: ·)) rest
      | none => none
  | c :: rest => if c = '\\' ∨ c.toNat < 0x20 then none else readString (acc.map (c :: ·)) rest

def isDigit (c : Char) : Bool := (Numeral.decimalDigit? c).isSome

structure NumberText where
  minus : Bool
  whole : List Char
  fraction : List Char
  exponent : Option (Bool × List Char)

def readFraction : List Char → Option (List Char × List Char)
  | '.' :: rest =>
      let ds := rest.takeWhile isDigit
      if ds.isEmpty then none else some (ds, rest.dropWhile isDigit)
  | cs => some ([], cs)

def readExponent : List Char → Option (Option (Bool × List Char) × List Char)
  | [] => some (none, [])
  | c :: rest =>
      if c = 'e' ∨ c = 'E' then
        let (below, rest) := match rest with
          | '-' :: rest => (true, rest)
          | '+' :: rest => (false, rest)
          | _ => (false, rest)
        let ds := rest.takeWhile isDigit
        if ds.isEmpty then none else some (some (below, ds), rest.dropWhile isDigit)
      else some (none, c :: rest)

def readNumber (minus : Bool) (cs : List Char) : Option (NumberText × List Char) :=
  let whole := cs.takeWhile isDigit
  match whole with
  | [] => none
  | '0' :: _ :: _ => none
  | _ =>
      match readFraction (cs.dropWhile isDigit) with
      | none => none
      | some (fraction, rest) =>
          match readExponent rest with
          | none => none
          | some (exponent, rest) => some (⟨minus, whole, fraction, exponent⟩, rest)

namespace NumberText

def natOf (ds : List Char) : Nat := (Numeral.decimal? ds).getD 0

def shift (t : NumberText) : Int :=
  match t.exponent with
  | some (true, ds) => -(natOf ds : Int)
  | some (false, ds) => natOf ds
  | none => 0

def gather (significand : Nat) : List Char → Nat × List Char
  | [] => (significand, [])
  | d :: ds =>
      let more := 10 * significand + natOf [d]
      if more < Uint.limit 64 then gather more ds else (significand, d :: ds)

def scaled (t : NumberText) : Nat × Int :=
  let (whole, dropped) := gather 0 t.whole
  let (significand, ignored) := gather whole t.fraction
  (significand, dropped.length - (t.fraction.length - ignored.length : Nat) + t.shift)

def isTooLarge (t : NumberText) : Bool :=
  match t.scaled with
  | (0, _) => false
  | (_, .negSucc _) => false
  | (significand, .ofNat power) =>
      308 < power ||
        Magnitude.tooLarge ≤ Magnitude.nearest significand * Magnitude.nearest (Nat.pow 10 power)

def literal (t : NumberText) : String :=
  let sign := if t.minus then ['-'] else []
  let fraction := if t.fraction.isEmpty then [] else '.' :: t.fraction
  let exponent := match t.exponent with
    | some (true, ds) => 'e' :: '-' :: ds
    | some (false, ds) => 'e' :: ds
    | none => []
  String.ofList (sign ++ t.whole ++ fraction ++ exponent)

def value (t : NumberText) : Json :=
  let n := natOf t.whole
  if t.isTooLarge then .unreadable
  else if !t.fraction.isEmpty || t.exponent.isSome then .float t.literal
  else if t.minus then
    if 1 ≤ n ∧ n ≤ 0x8000000000000000 then .negative n else .float t.literal
  else
    match Uint.ofNat? n with
    | some n => .nat n
    | none => .float t.literal

end NumberText

def readLiteral (literal : String) (v : Json) (cs : List Char) : Option (Json × List Char) :=
  let ls := literal.toList
  if ls.isPrefixOf cs then some (v, cs.drop ls.length) else none

def ofString : Option String → Json
  | some s => .string s
  | none => .unreadable

def ofFields (fields : List (Option String × Json)) : Json :=
  match fields.mapM fun f => f.1.map fun name => (name, f.2) with
  | some named => .object named
  | none => .unreadable

mutual

def readValue : Nat → List Char → Option (Json × List Char)
  | 0, _ => none
  | fuel + 1, cs =>
      match skipBlanks cs with
      | [] => none
      | c :: rest =>
          if c = '"' then (readString (some []) rest).map fun (s, rest) => (ofString s, rest)
          else if c = '[' then
            match skipBlanks rest with
            | ']' :: rest => some (.array [], rest)
            | rest => (readItems fuel rest).map fun (vs, rest) => (.array vs, rest)
          else if c = '\x7b' then
            match skipBlanks rest with
            | '\x7d' :: rest => some (.object [], rest)
            | rest => (readFields fuel rest).map fun (fs, rest) => (ofFields fs, rest)
          else if c = 'n' then readLiteral "null" .null (c :: rest)
          else if c = 't' then readLiteral "true" (.bool true) (c :: rest)
          else if c = 'f' then readLiteral "false" (.bool false) (c :: rest)
          else
            let read := if c = '-' then readNumber true rest else readNumber false (c :: rest)
            read.map fun (t, rest) => (t.value, rest)

def readItems : Nat → List Char → Option (List Json × List Char)
  | 0, _ => none
  | fuel + 1, cs =>
      match readValue fuel cs with
      | none => none
      | some (v, rest) =>
          match skipBlanks rest with
          | ']' :: rest => some ([v], rest)
          | ',' :: rest => (readItems fuel rest).map fun (vs, rest) => (v :: vs, rest)
          | _ => none

def readFields : Nat → List Char → Option (List (Option String × Json) × List Char)
  | 0, _ => none
  | fuel + 1, cs =>
      match skipBlanks cs with
      | '"' :: rest =>
          match readString (some []) rest with
          | none => none
          | some (name, rest) =>
              match skipBlanks rest with
              | ':' :: rest =>
                  match readValue fuel rest with
                  | none => none
                  | some (v, rest) =>
                      match skipBlanks rest with
                      | '\x7d' :: rest => some ([(name, v)], rest)
                      | ',' :: rest =>
                          (readFields fuel rest).map fun (fs, rest) => ((name, v) :: fs, rest)
                      | _ => none
              | _ => none
      | _ => none

end

def read? (s : String) : Option Json :=
  let cs := s.toList
  match readValue (2 * cs.length + 2) cs with
  | some (v, rest) => if (skipBlanks rest).isEmpty then some v else none
  | none => none

def maxDepth : Nat := 127

def parse? (s : String) : Option Json := (read? s).filter (isReadable maxDepth)

end BondedRelay.Json
