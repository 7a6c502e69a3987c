import BondedRelay.DomainName.Label
import BondedRelay.Text.Parts

namespace BondedRelay.DomainName

open Text

def labels? (text : List Char) : Option (List (List Char)) :=
  match mapText? text with
  | none => none
  | some mapped =>
      match (parts '.' mapped).mapM label? with
      | none => none
      | some labels =>
          if labels.all isLabel && (!labels.any turns || labels.all isDirected) then some labels
          else none

end BondedRelay.DomainName
