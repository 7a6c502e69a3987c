import BondedRelay.Keccak

namespace BondedRelay.Entropy

def primaryTweak : Uint 64 := 0

def podTweak : Uint 64 := .top

def fallbackTweak (k : Nat) : Uint 64 := .wrap (k + 1)

def seedInput (job : JobId) (blockHash : Hash) (tweak : Uint 64) : Bytes :=
  Bytes.ofUint job ++ (Bytes.ofUint blockHash ++ Bytes.ofUint tweak)

def seed (job : JobId) (blockHash : Hash) (tweak : Uint 64) : Amount :=
  keccak (seedInput job blockHash tweak)

def pick (seed : Amount) (length : Nat) : Nat := seed.toNat % length

theorem pick_lt (seed : Amount) {length : Nat} (h : 0 < length) : pick seed length < length :=
  Nat.mod_lt _ h

end BondedRelay.Entropy
