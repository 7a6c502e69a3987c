import BondedRelay.Dispatch.ChainError
import BondedRelay.Job.Payload

namespace BondedRelay

structure FeeQuote where
  service : Amount
  transport : Amount
  deriving DecidableEq, Repr

def FeeQuote.total (q : FeeQuote) : Amount := q.service.satAdd q.transport

structure DispatchRequest where
  destination : Uint 32
  payload : Payload
  fee : Amount
  txGasPrice : Amount
  nonce : Amount
  deriving DecidableEq, Repr

structure TxReceipt where
  txid : Hash
  status : Option (Uint 64)
  deriving DecidableEq, Repr

def TxReceipt.outcome (r : TxReceipt) : Except ChainError Hash :=
  match r.status with
  | some status =>
      if status.toNat % 0x100000000 = 1 then .ok r.txid else .error (.notExecuted r.txid)
  | none => .error (.notExecuted r.txid)

class DestinationClient (σ : Type) where
  chainName : σ → String
  gasPrice : σ → Except ChainError Amount × σ
  simulate : σ → Payload → Uint 64 → Except ChainError (Uint 64) × σ

class FeeQuoter (σ : Type) where
  estimateFee : σ → Uint 32 → Uint 64 → Amount → Payload → Except ChainError FeeQuote × σ

class TxSubmitter (σ : Type) where
  gasPrice : σ → Except ChainError Amount × σ
  nextNonce : σ → Except ChainError Amount × σ
  submit : σ → DispatchRequest → Except ChainError Hash × σ

inductive DispatchError where
  | chain (error : ChainError)
  | allowanceExhausted (chain : String) (allowance : Uint 64)
  | retriesExhausted (attempts : Nat) (last : ChainError)
  deriving DecidableEq, Repr

def DispatchError.message : DispatchError → String
  | .chain e => e.message
  | .allowanceExhausted name allowance =>
      "Simulation on " ++ name ++ " exhausted its gas allowance of " ++ toString allowance.toNat
  | .retriesExhausted attempts last =>
      "Gave up after " ++ toString attempts ++ " attempts, last error: " ++ last.message

end BondedRelay
