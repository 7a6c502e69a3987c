import BondedRelay.Config.Gas
import BondedRelay.Config.Logging
import BondedRelay.Config.Operator
import BondedRelay.Config.Protocol
import BondedRelay.Config.Retry
import BondedRelay.Table

namespace BondedRelay

structure Configuration where
  version : Uint 64
  environment : String
  protocol : Protocol
  gas : Table String GasConfig
  retry : RetryConfig
  logging : LogConfig
  metrics : Option (Uint 16)
  operator : Option OperatorConfig
  deriving DecidableEq, Repr

namespace Configuration

def empty : Configuration where
  version := 0
  environment := ""
  protocol := .standard
  gas := .empty
  retry := .standard
  logging := .standard
  metrics := none
  operator := none

def gasOf (c : Configuration) (chain : String) : GasConfig :=
  c.gas.getD chain .evmDefault

def setGas (c : Configuration) (chain : String) (g : GasConfig) : Configuration :=
  { c with gas := c.gas.set chain g }

inductive Fault where
  | protocol (fault : Protocol.Fault)
  | retry
  | gas (chain : String) (fault : GasConfig.Fault)
  | operatorInterval
  | operatorAddress
  deriving DecidableEq, Repr

def Fault.message : Fault → String
  | .protocol fault => fault.message
  | .retry => RetryConfig.noAttemptMessage
  | .gas chain fault => fault.message chain
  | .operatorInterval => "Operator interval must be non-zero"
  | .operatorAddress => "Operator address must not be the zero address"

def operatorFault? (o : OperatorConfig) : Option Fault :=
  if o.interval.toNat = 0 then some .operatorInterval
  else if o.operator = 0 then some .operatorAddress
  else none

def fault? (c : Configuration) : Option Fault :=
  match c.protocol.fault? with
  | some f => some (.protocol f)
  | none =>
      if !c.retry.isValid then some .retry
      else
        match c.gas.entries.findSome? fun (chain, g) => g.fault?.map (Fault.gas chain) with
        | some f => some f
        | none => c.operator.bind operatorFault?

def avalancheGas : GasConfig := { GasConfig.evmDefault with minGasPrice := some 25000000000 }

def development : Configuration where
  version := 1
  environment := "development"
  protocol := .standard
  gas := .ofList [("goerli", .evmDefault), ("mumbai", .polygonDefault), ("fuji", avalancheGas)]
  retry := .standard
  logging := ⟨.pretty, .debug⟩
  metrics := some 9090
  operator := none

def production : Configuration where
  version := 1
  environment := "production"
  protocol := .standard
  gas := .ofList
    [("ethereum", .evmDefault), ("polygon", .polygonDefault), ("avalanche", avalancheGas)]
  retry := { RetryConfig.standard with backoffMs := 1000 }
  logging := ⟨.json, .info⟩
  metrics := some 9090
  operator := none

def builtin? (name : String) : Option Configuration :=
  if name = "development" then some development
  else if name = "production" then some production
  else none

def unknownBuiltinMessage (name : String) : String := "Unknown builtin config: " ++ name

end Configuration

end BondedRelay
