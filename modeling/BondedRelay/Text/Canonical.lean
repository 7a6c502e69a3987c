import BondedRelay.Text.CombiningClass
import BondedRelay.Text.Composite

namespace BondedRelay.Text

def decomposed : Nat → Char → List Char
  | 0, c => [c]
  | fuel + 1, c =>
      match pair? c with
      | some (first, second) => decomposed fuel first ++ [second]
      | none => [c]

def maxSteps : Nat := 4

def place (c : Char) : List Char → List Char
  | [] => [c]
  | d :: before =>
      if 0 < combiningClass c ∧ combiningClass c < combiningClass d then d :: place c before
      else c :: d :: before

def ordered (cs : List Char) : List Char := (cs.foldl (fun before c => place c before) []).reverse

def composedFrom (start : Char) (kept : List Char) : List Char → List Char
  | [] => start :: kept.reverse
  | c :: rest =>
      let isFree := match kept with
        | [] => true
        | last :: _ => combiningClass last < combiningClass c
      match if isFree then composite? start c else none with
      | some whole => composedFrom whole kept rest
      | none =>
          if combiningClass c = 0 then start :: (kept.reverse ++ composedFrom c [] rest)
          else composedFrom start (c :: kept) rest

def composed : List Char → List Char
  | [] => []
  | c :: rest => composedFrom c [] rest

def canonical (cs : List Char) : List Char := composed (ordered (cs.flatMap (decomposed maxSteps)))

end BondedRelay.Text
