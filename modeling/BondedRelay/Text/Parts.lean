namespace BondedRelay.Text

def parts (separator : Char) (cs : List Char) : List (List Char) :=
  cs.foldr
    (fun c ps =>
      match ps with
      | p :: rest => if c = separator then [] :: p :: rest else (c :: p) :: rest
      | [] => [[c]])
    [[]]

def words (s : String) : List (List Char) :=
  let cs := s.toList.map fun c => if c = '\n' then ' ' else c
  (parts ' ' cs).filter fun w => !w.isEmpty

end BondedRelay.Text
