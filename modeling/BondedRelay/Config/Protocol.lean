import BondedRelay.Uint

namespace BondedRelay

inductive PodPolicy where
  | fixed (pod : Uint 32)
  | random
  deriving DecidableEq, Repr

inductive AfterFallbacks where
  | anyBonded
  | stalled
  deriving DecidableEq, Repr

structure Protocol where
  windowDuration : Uint 64
  fallbackCount : Uint 8
  podPolicy : PodPolicy
  bondUnit : Amount
  operatorThreshold : Uint 32
  thresholdStepBps : Uint 32
  spikeToleranceBps : Uint 32
  afterFallbacks : AfterFallbacks
  deriving DecidableEq, Repr

namespace Protocol

def standard : Protocol where
  windowDuration := 60
  fallbackCount := 5
  podPolicy := .fixed 1
  bondUnit := 100000000000000000000
  operatorThreshold := 1000
  thresholdStepBps := 100
  spikeToleranceBps := 0
  afterFallbacks := .anyBonded

inductive Fault where
  | windowDuration
  | fallbackCount (count : Uint 8)
  | bondUnit
  | podIndex
  deriving DecidableEq, Repr

def Fault.message : Fault → String
  | .windowDuration => "windowDuration must be non-zero"
  | .fallbackCount n =>
      "fallbackCount must be between 1 and 32, got " ++ toString n.toNat
  | .bondUnit => "bondUnit must be non-zero"
  | .podIndex => "Pod indices start at 1"

def maxFallbacks : Nat := 32

def fault? (p : Protocol) : Option Fault :=
  if p.windowDuration.toNat = 0 then some .windowDuration
  else if p.fallbackCount.toNat = 0 ∨ maxFallbacks < p.fallbackCount.toNat then
    some (.fallbackCount p.fallbackCount)
  else if p.bondUnit.toNat = 0 then some .bondUnit
  else if p.podPolicy = .fixed 0 then some .podIndex
  else none

end Protocol

end BondedRelay
