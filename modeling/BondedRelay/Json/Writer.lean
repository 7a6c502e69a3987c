import BondedRelay.Hex
import BondedRelay.Json.Value

namespace BondedRelay.Json

def escaped (c : Char) : List Char :=
  match c with
  | '"' => ['\\', '"']
  | '\\' => ['\\', '\\']
  | '\x08' => ['\\', 'b']
  | '\x0c' => ['\\', 'f']
  | '\n' => ['\\', 'n']
  | '\r' => ['\\', 'r']
  | '\t' => ['\\', 't']
  | _ =>
      if c.toNat < 0x20 then
        ['\\', 'u', '0', '0', Hex.digitChar (c.toNat / 16), Hex.digitChar (c.toNat % 16)]
      else [c]

def writeString (s : String) : List Char := '"' :: (s.toList.flatMap escaped ++ ['"'])

mutual

def write : Json → List Char
  | .null => "null".toList
  | .bool true => "true".toList
  | .bool false => "false".toList
  | .nat n => Nat.toDigits 10 n.toNat
  | .negative n => '-' :: Nat.toDigits 10 n
  | .float literal => literal.toList
  | .string s => writeString s
  | .array items => '[' :: (writeItems items ++ [']'])
  | .object fields => '\x7b' :: (writeFields fields ++ ['\x7d'])
  | .unreadable => "null".toList

def writeItems : List Json → List Char
  | [] => []
  | [v] => write v
  | v :: rest => write v ++ (',' :: writeItems rest)

def writeFields : List (String × Json) → List Char
  | [] => []
  | [(name, v)] => writeString name ++ (':' :: write v)
  | (name, v) :: rest => writeString name ++ (':' :: (write v ++ (',' :: writeFields rest)))

end

def render (v : Json) : String := String.ofList (write v)

end BondedRelay.Json
