import BondedRelay.Bytes

namespace BondedRelay

namespace Keccak

structure Plane where
  x0 : UInt64
  x1 : UInt64
  x2 : UInt64
  x3 : UInt64
  x4 : UInt64
  deriving DecidableEq, Repr

namespace Plane

def zero : Plane := ⟨0, 0, 0, 0, 0⟩

def xor (p q : Plane) : Plane :=
  ⟨p.x0 ^^^ q.x0, p.x1 ^^^ q.x1, p.x2 ^^^ q.x2, p.x3 ^^^ q.x3, p.x4 ^^^ q.x4⟩

end Plane

structure State where
  y0 : Plane
  y1 : Plane
  y2 : Plane
  y3 : Plane
  y4 : Plane
  deriving DecidableEq, Repr

def State.zero : State := ⟨.zero, .zero, .zero, .zero, .zero⟩

def rotate (a : UInt64) (n : UInt64) : UInt64 := (a <<< n) ||| (a >>> (64 - n))

def theta (s : State) : State :=
  let c := (((s.y0.xor s.y1).xor s.y2).xor s.y3).xor s.y4
  let d : Plane :=
    ⟨c.x4 ^^^ rotate c.x1 1, c.x0 ^^^ rotate c.x2 1, c.x1 ^^^ rotate c.x3 1,
      c.x2 ^^^ rotate c.x4 1, c.x3 ^^^ rotate c.x0 1⟩
  ⟨s.y0.xor d, s.y1.xor d, s.y2.xor d, s.y3.xor d, s.y4.xor d⟩

def rhoPi (s : State) : State :=
  ⟨⟨s.y0.x0, rotate s.y1.x1 44, rotate s.y2.x2 43, rotate s.y3.x3 21, rotate s.y4.x4 14⟩,
    ⟨rotate s.y0.x3 28, rotate s.y1.x4 20, rotate s.y2.x0 3, rotate s.y3.x1 45, rotate s.y4.x2 61⟩,
    ⟨rotate s.y0.x1 1, rotate s.y1.x2 6, rotate s.y2.x3 25, rotate s.y3.x4 8, rotate s.y4.x0 18⟩,
    ⟨rotate s.y0.x4 27, rotate s.y1.x0 36, rotate s.y2.x1 10, rotate s.y3.x2 15, rotate s.y4.x3 56⟩,
    ⟨rotate s.y0.x2 62, rotate s.y1.x3 55, rotate s.y2.x4 39, rotate s.y3.x0 41, rotate s.y4.x1 2⟩⟩

def Plane.chi (p : Plane) : Plane :=
  ⟨p.x0 ^^^ (~~~p.x1 &&& p.x2), p.x1 ^^^ (~~~p.x2 &&& p.x3), p.x2 ^^^ (~~~p.x3 &&& p.x4),
    p.x3 ^^^ (~~~p.x4 &&& p.x0), p.x4 ^^^ (~~~p.x0 &&& p.x1)⟩

def round (s : State) (constant : UInt64) : State :=
  let t := rhoPi (theta s)
  let p := t.y0.chi
  ⟨{ p with x0 := p.x0 ^^^ constant }, t.y1.chi, t.y2.chi, t.y3.chi, t.y4.chi⟩

def roundConstants : List UInt64 :=
  [0x0000000000000001, 0x0000000000008082, 0x800000000000808a, 0x8000000080008000,
    0x000000000000808b, 0x0000000080000001, 0x8000000080008081, 0x8000000000008009,
    0x000000000000008a, 0x0000000000000088, 0x0000000080008009, 0x000000008000000a,
    0x000000008000808b, 0x800000000000008b, 0x8000000000008089, 0x8000000000008003,
    0x8000000000008002, 0x8000000000000080, 0x000000000000800a, 0x800000008000000a,
    0x8000000080008081, 0x8000000000008080, 0x0000000080000001, 0x8000000080008008]

def permute (s : State) : State := roundConstants.foldl round s

def takeLane : Bytes → UInt64 × Bytes
  | a :: b :: c :: d :: e :: f :: g :: h :: rest =>
      (a.toUInt64 ||| (b.toUInt64 <<< 8) ||| (c.toUInt64 <<< 16) ||| (d.toUInt64 <<< 24) |||
        (e.toUInt64 <<< 32) ||| (f.toUInt64 <<< 40) ||| (g.toUInt64 <<< 48) |||
        (h.toUInt64 <<< 56), rest)
  | _ => (0, [])

def takePlane (b : Bytes) : Plane × Bytes :=
  let (x0, b) := takeLane b
  let (x1, b) := takeLane b
  let (x2, b) := takeLane b
  let (x3, b) := takeLane b
  let (x4, b) := takeLane b
  (⟨x0, x1, x2, x3, x4⟩, b)

def absorbBlock (s : State) (b : Bytes) : State × Bytes :=
  let (p0, b) := takePlane b
  let (p1, b) := takePlane b
  let (p2, b) := takePlane b
  let (x0, b) := takeLane b
  let (x1, b) := takeLane b
  (permute ⟨s.y0.xor p0, s.y1.xor p1, s.y2.xor p2, s.y3.xor ⟨x0, x1, 0, 0, 0⟩, s.y4⟩, b)

def rate : Nat := 136

def absorb : Nat → State → Bytes → State
  | 0, s, _ => s
  | k + 1, s, b =>
      let (t, rest) := absorbBlock s b
      absorb k t rest

def padding (n : Nat) : Bytes :=
  let free := rate - n % rate
  if free = 1 then [0x81] else 0x01 :: (List.replicate (free - 2) 0x00 ++ [0x80])

def laneBytes (a : UInt64) : Bytes :=
  [a.toUInt8, (a >>> 8).toUInt8, (a >>> 16).toUInt8, (a >>> 24).toUInt8, (a >>> 32).toUInt8,
    (a >>> 40).toUInt8, (a >>> 48).toUInt8, (a >>> 56).toUInt8]

def digestBytes (message : Bytes) : Bytes :=
  let s := absorb (message.length / rate + 1) .zero (message ++ padding message.length)
  laneBytes s.y0.x0 ++ (laneBytes s.y0.x1 ++ (laneBytes s.y0.x2 ++ laneBytes s.y0.x3))

end Keccak

def keccak (message : Bytes) : Hash := Uint.wrap (Keccak.digestBytes message).toNat

end BondedRelay
