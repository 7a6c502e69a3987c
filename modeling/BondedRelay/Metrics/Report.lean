import BondedRelay.Magnitude
import BondedRelay.Metrics.Registry

namespace BondedRelay.Registry

def version : String := "0.1.0"

def escaped (quotes : Bool) (s : String) : String :=
  String.ofList (s.toList.flatMap fun c =>
    if c = '\\' then ['\\', '\\']
    else if c = '\n' then ['\\', 'n']
    else if quotes && c = '"' then ['\\', '"']
    else [c])

def labelled (f : CounterFamily) (values : List String) : List (String × String) :=
  (f.labels.zip values ++ [("VERSION", version)]).mergeSort fun a b => !(b.1 < a.1)

def valuesLE : List String → List String → Bool
  | [], _ => true
  | _ :: _, [] => false
  | a :: as, b :: bs => a < b || (a = b && valuesLE as bs)

def labelText (l : String × String) : String := l.1 ++ "=\"" ++ escaped true l.2 ++ "\""

def sampleText (name : String) (labels : List (String × String)) (value : Uint 64) : String :=
  name ++ "\x7b" ++ ",".intercalate (labels.map labelText) ++ "\x7d " ++
    Magnitude.text value.toNat ++ "\n"

def samplesOf (r : Registry) (f : CounterFamily) : List (List (String × String) × Uint 64) :=
  let own := r.samples.entries.filter fun e => e.1.family = f.name
  (own.map fun e => (labelled f e.1.values, e.2)).mergeSort fun a b =>
    valuesLE (a.1.map Prod.snd) (b.1.map Prod.snd)

def familyText (r : Registry) (f : CounterFamily) : String :=
  match r.samplesOf f with
  | [] => ""
  | samples =>
      "# HELP " ++ f.name ++ " " ++ escaped false f.help ++ "\n" ++
        "# TYPE " ++ f.name ++ " counter\n" ++
        String.join (samples.map fun e => sampleText f.name e.1 e.2)

def report (r : Registry) : String :=
  String.join ((r.families.mergeSort fun a b => !(b.name < a.name)).map r.familyText)

def sampleLines (r : Registry) : List String :=
  (r.report.splitOn "\n").filter fun line => !line.isEmpty && !line.startsWith "#"

end BondedRelay.Registry
