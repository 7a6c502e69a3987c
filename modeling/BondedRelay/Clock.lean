import BondedRelay.Keccak

namespace BondedRelay

class ChainContext (γ : Type) where
  block : γ → Uint 64
  timestamp : γ → Uint 64
  recentBlockHash : γ → Hash

structure Clock where
  block : Uint 64
  timestamp : Uint 64
  blockTime : Uint 64
  deriving DecidableEq, Repr

namespace Clock

def create (block timestamp blockTime : Uint 64) : Clock := ⟨block, timestamp, max blockTime 1⟩

def standard : Clock := create 1 1600000000 12

def advance (c : Clock) (seconds : Uint 64) : Clock :=
  { c with
    timestamp := c.timestamp.satAdd seconds,
    block := c.block.satAdd (seconds.divNat c.blockTime.toNat) }

def mine (c : Clock) : Clock := c.advance c.blockTime

def blockHashInput (number : Uint 64) : Bytes :=
  Bytes.ofText "block" ++ Bytes.ofUint number

def blockHash (number : Uint 64) : Hash := keccak (blockHashInput number)

def recentBlockHash (c : Clock) : Hash := blockHash (c.block.satSub 1)

instance : ChainContext Clock := ⟨block, timestamp, recentBlockHash⟩

end Clock

end BondedRelay
