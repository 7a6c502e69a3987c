namespace BondedRelay

structure CounterFamily where
  name : String
  help : String
  labels : List String
  deriving DecidableEq, Repr

namespace CounterFamily

def prefixed (name : String) : String := "courier_" ++ name

def isNameStart (c : Char) : Bool := c.isAlpha || c = '_' || c = ':'

def isNamePart (c : Char) : Bool := isNameStart c || c.isDigit

def isName (s : String) : Bool :=
  match s.toList with
  | c :: rest => isNameStart c && rest.all isNamePart
  | [] => false

def isLabel (s : String) : Bool := isName s && !s.toList.contains ':'

inductive Fault where
  | emptyHelp
  | invalidName
  | invalidLabel
  | repeatedLabel
  | nameTaken
  deriving DecidableEq, Repr

def create (name help : String) (labels : List String) : Except Fault CounterFamily :=
  if help.isEmpty then .error .emptyHelp
  else if name.isEmpty || !isName (prefixed name) then .error .invalidName
  else if !labels.all isLabel then .error .invalidLabel
  else if !decide labels.Nodup then .error .repeatedLabel
  else .ok ⟨prefixed name, help, labels⟩

end CounterFamily

end BondedRelay
