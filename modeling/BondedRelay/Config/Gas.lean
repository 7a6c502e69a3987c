import BondedRelay.BasisPoints

namespace BondedRelay

structure GasConfig where
  simulationAllowance : Uint 64
  gasMarginBps : Uint 32
  priceMultiplierBps : Uint 32
  feeMarginBps : Uint 32
  minGasPrice : Option Amount
  deriving DecidableEq, Repr

namespace GasConfig

def evmDefault : GasConfig where
  simulationAllowance := 10000000
  gasMarginBps := 11000
  priceMultiplierBps := 15000
  feeMarginBps := 12500
  minGasPrice := none

def polygonDefault : GasConfig :=
  { evmDefault with minGasPrice := some 30000000000 }

def paddedGas (c : GasConfig) (used : Uint 64) : Uint 64 :=
  .clamp (used.toNat * c.gasMarginBps.toNat / BasisPoints.denominator)

def destinationPrice (c : GasConfig) (observed : Amount) : Amount :=
  let scaled := BasisPoints.apply observed c.priceMultiplierBps
  match c.minGasPrice with
  | some floor => max scaled floor
  | none => scaled

def feeWithMargin (c : GasConfig) (quoted : Amount) : Amount :=
  BasisPoints.apply quoted c.feeMarginBps

inductive Fault where
  | noAllowance
  | shrinks (margin : String) (bps : Uint 32)
  deriving DecidableEq, Repr

def Fault.message (chain : String) : Fault → String
  | .noAllowance => "Gas config for " ++ chain ++ " has a zero simulation allowance"
  | .shrinks margin bps =>
      "Gas config for " ++ chain ++ " has " ++ margin ++ " of " ++ toString bps.toNat ++
        ", which would shrink the estimate"

def fault? (c : GasConfig) : Option Fault :=
  if c.simulationAllowance.toNat = 0 then some .noAllowance
  else if c.gasMarginBps.toNat < BasisPoints.denominator then
    some (.shrinks "gasMarginBps" c.gasMarginBps)
  else if c.priceMultiplierBps.toNat < BasisPoints.denominator then
    some (.shrinks "priceMultiplierBps" c.priceMultiplierBps)
  else if c.feeMarginBps.toNat < BasisPoints.denominator then
    some (.shrinks "feeMarginBps" c.feeMarginBps)
  else none

end GasConfig

end BondedRelay
