import BondedRelay.Bytes
import BondedRelay.DomainName.Name
import BondedRelay.Hex
import BondedRelay.Text.Parts

namespace BondedRelay.Url

open Text (parts)

def cleaned (s : String) : List Char :=
  let isEdge (c : Char) : Bool := c.toNat ≤ 0x20
  let inner := ((s.toList.dropWhile isEdge).reverse.dropWhile isEdge).reverse
  inner.filter fun c => !(c = '\t' || c = '\n' || c = '\r')

def isSchemeChar (c : Char) : Bool := c.isAlphanum || c = '+' || c = '-' || c = '.'

def schemeFrom : List Char → Option (List Char × List Char)
  | [] => none
  | c :: rest =>
      if c = ':' then some ([], rest)
      else if isSchemeChar c then (schemeFrom rest).map fun (s, more) => (c.toLower :: s, more)
      else none

def scheme? (cs : List Char) : Option (String × List Char) :=
  match cs with
  | c :: _ =>
      if c.isAlpha then (schemeFrom cs).map fun (s, rest) => (String.ofList s, rest) else none
  | [] => none

def webSchemes : List String := ["http", "https", "ws", "wss", "ftp"]

def forbidden : List Char :=
  [' ', '#', '/', ':', '<', '>', '?', '@', '[', '\\', ']', '^', '|']

def isForbidden (c : Char) : Bool := c.toNat < 0x20 || c.toNat = 0x7f || forbidden.contains c

def value (base : Nat) (ds : List Char) : Option Nat :=
  ds.foldlM (fun acc c =>
    match Hex.digit? c with
    | some d => if d < base then some (base * acc + d) else none
    | none => none) 0

def addressPart? : List Char → Option Nat
  | [] => none
  | '0' :: 'x' :: ds => value 16 ds
  | '0' :: 'X' :: ds => value 16 ds
  | '0' :: d :: ds => value 8 (d :: ds)
  | ds => value 10 ds

def properLabels (labels : List (List Char)) : List (List Char) :=
  match labels.getLast? with
  | some [] => labels.dropLast
  | _ => labels

def endsInNumber (labels : List (List Char)) : Bool :=
  match (properLabels labels).getLast? with
  | some last => (!last.isEmpty && last.all Char.isDigit) || (addressPart? last).isSome
  | none => false

def isAddress4 (labels : List (List Char)) : Bool :=
  match (properLabels labels).mapM addressPart? with
  | none => false
  | some ns =>
      match ns.reverse with
      | last :: others =>
          ns.length ≤ 4 && others.all (· ≤ 255) && last >>> (8 * (5 - ns.length)) = 0
      | [] => false

def isByte (ds : List Char) : Bool :=
  match value 10 ds with
  | some n => !ds.isEmpty && n ≤ 255 && (ds.length = 1 || ds.head? ≠ some '0')
  | none => false

def isStrictAddress4 (cs : List Char) : Bool :=
  let ps := parts '.' cs
  ps.length = 4 && ps.all isByte

def groups (shortened : Bool) (count : Nat) : Nat → List Char → Bool
  | _, [] => shortened || count = 8
  | 0, _ => false
  | fuel + 1, c :: cs =>
      if count = 8 then false
      else if c = ':' then !shortened && groups true (count + 1) fuel cs
      else
        let run := ((c :: cs).take 4).takeWhile fun d => (Hex.digit? d).isSome
        match (c :: cs).drop run.length with
        | [] => groups shortened (count + 1) fuel []
        | ':' :: more => !more.isEmpty && groups shortened (count + 1) fuel more
        | '.' :: _ =>
            !run.isEmpty && count ≤ 6 && isStrictAddress4 (c :: cs) && (shortened || count = 6)
        | _ => false

def isAddress6 (cs : List Char) : Bool :=
  match cs with
  | ':' :: ':' :: rest => groups true 1 (cs.length + 1) rest
  | ':' :: _ => false
  | [] => false
  | [_] => false
  | _ => groups false 0 (cs.length + 1) cs

def percentDecoded : Bytes → Bytes
  | 0x25 :: a :: b :: rest =>
      match Hex.digit? (Char.ofNat a.toNat), Hex.digit? (Char.ofNat b.toNat) with
      | some high, some low => UInt8.ofNat (16 * high + low) :: percentDecoded rest
      | _, _ => 0x25 :: percentDecoded (a :: b :: rest)
  | c :: rest => c :: percentDecoded rest
  | [] => []

def isDomain (host : List Char) : Bool :=
  let bytes := percentDecoded (Bytes.ofText (String.ofList host))
  match (String.fromUTF8? ⟨bytes.toArray⟩).bind fun s => DomainName.labels? s.toList with
  | none => false
  | some labels =>
      labels ≠ [[]] && labels.all (·.all fun c => !(isForbidden c || c = '%')) &&
        (!endsInNumber labels || isAddress4 labels)

def bracketed? : List Char → Option (List Char)
  | '[' :: rest => if rest.getLast? = some ']' then some rest.dropLast else some []
  | _ => none

def isWebHost (host : List Char) : Bool :=
  match bracketed? host with
  | some inside => isAddress6 inside
  | none => isDomain host

def isPlainHost (host : List Char) : Bool :=
  match bracketed? host with
  | some inside => isAddress6 inside
  | none => host.all fun c => !(forbidden.contains c || c.toNat = 0)

def endsAuthority (web : Bool) (c : Char) : Bool :=
  c = '/' || c = '?' || c = '#' || (web && c = '\\')

def hostLength (inBrackets : Bool) : List Char → Nat
  | [] => 0
  | c :: rest =>
      if c = ':' && !inBrackets then 0
      else
        let inBrackets := if c = '[' then true else if c = ']' then false else inBrackets
        hostLength inBrackets rest + 1

def userAndRest (authority : List Char) : Option (List Char) × List Char :=
  match (parts '@' authority).reverse with
  | rest :: user :: more =>
      (some (['@'].intercalate (user :: more).reverse), rest)
  | _ => (none, authority)

def isPort (ds : List Char) : Bool :=
  match value 10 (ds.takeWhile (· ≠ '\\')) with
  | some n => n ≤ 65535
  | none => false

def isAuthority (web : Bool) (cs : List Char) : Bool :=
  let authority := cs.takeWhile fun c => !endsAuthority web c
  let (user, rest) := userAndRest authority
  let size := hostLength false rest
  let host := rest.take size
  let port := rest.drop size
  let hasUser := match user with
    | some u => !(u.isEmpty || u = [':'])
    | none => false
  let hostMissing :=
    host.isEmpty &&
      (web || !port.isEmpty || hasUser || (user = some [] && authority.length < cs.length))
  !hostMissing && (if web then isWebHost host else isPlainHost host) && isPort (port.drop 1)

def isFile (cs : List Char) : Bool :=
  let isSlash (c : Char) : Bool := c = '/' || c = '\\'
  match cs with
  | a :: b :: rest =>
      if isSlash a && isSlash b then
        let host := rest.takeWhile fun c => !endsAuthority true c
        let isDrive := match host with
          | [letter, mark] => letter.isAlpha && (mark = ':' || mark = '|')
          | _ => false
        host.isEmpty || isDrive || isWebHost host
      else true
  | _ => true

def isUrl (s : String) : Bool :=
  match scheme? (cleaned s) with
  | none => false
  | some (scheme, rest) =>
      if webSchemes.contains scheme then
        isAuthority true (rest.dropWhile fun c => c = '/' || c = '\\')
      else if scheme = "file" then isFile rest
      else
        match rest with
        | '/' :: '/' :: more => isAuthority false more
        | _ => true

end BondedRelay.Url
