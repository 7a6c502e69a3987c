namespace BondedRelay.Magnitude

def precision : Nat := 53

def spacing (n : Nat) : Nat := 1 <<< (n.log2 + 1 - precision)

def nearest (n : Nat) : Nat :=
  let unit := spacing n
  let kept := n / unit
  let rest := n % unit
  let rounded := if unit < 2 * rest || (2 * rest = unit && kept % 2 = 1) then kept + 1 else kept
  rounded * unit

def tooLarge : Nat := (1 <<< 1024) - (1 <<< 970)

def readsAs (v candidate : Nat) : Bool :=
  let unit := spacing v
  let reach := if candidate < v && v = 1 <<< v.log2 then unit else 2 * unit
  let distance := 4 * ((candidate - v) + (v - candidate))
  distance < reach || (distance = reach && v / unit % 2 = 0)

def shortest (v : Nat) : Nat → Nat
  | 0 => v
  | zeros + 1 =>
      let unit := Nat.pow 10 (zeros + 1)
      let below := v / unit * unit
      let above := below + unit
      if readsAs v above && (!readsAs v below || above - v ≤ v - below) then above
      else if readsAs v below then below
      else shortest v zeros

def text (n : Nat) : String :=
  if n < 1 <<< precision then toString n
  else
    let v := nearest n
    toString (shortest v (v.log2 + 1))

end BondedRelay.Magnitude
