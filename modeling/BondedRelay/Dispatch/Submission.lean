import BondedRelay.BasisPoints
import BondedRelay.Config.Retry
import BondedRelay.Dispatch.Client

namespace BondedRelay

inductive Halt where
  | failed (error : DispatchError)
  | panicked
  deriving DecidableEq, Repr

structure Submission (σ : Type) where
  result : Except Halt Hash
  requests : List DispatchRequest
  retries : Nat
  world : σ

namespace Submission

variable {σ : Type}

def factor (config : RetryConfig) : Nat := BasisPoints.denominator + config.priceBumpBps.toNat

-- No price if the factor does not fit in the width of a share, which is a panic and not an error.
def raisedPrice? (config : RetryConfig) (price : Amount) : Option Amount :=
  (Uint.ofNat? (factor config)).map fun bps => max (BasisPoints.apply price bps) (price.satAdd 1)

def attempts (config : RetryConfig) : Nat := max 1 config.maxAttempts.toNat

variable [TxSubmitter σ]

def mended (config : RetryConfig) (world : σ) (request : DispatchRequest) :
    ChainError → Except Halt DispatchRequest × σ
  | .nonceUsed _ =>
      match TxSubmitter.nextNonce world with
      | (.error e, world) => (.error (.failed (.chain e)), world)
      | (.ok nonce, world) => (.ok { request with nonce }, world)
  | _ =>
      match raisedPrice? config request.txGasPrice with
      | none => (.error .panicked, world)
      | some txGasPrice => (.ok { request with txGasPrice }, world)

def sendFrom (config : RetryConfig) : Nat → DispatchRequest → σ → Submission σ
  | left, request, world =>
      match left, TxSubmitter.submit world request with
      | _, (.ok txid, world) => ⟨.ok txid, [request], 0, world⟩
      | 0, (.error e, world) =>
          let failure : DispatchError :=
            if e.isTransient then .retriesExhausted (attempts config) e else .chain e
          ⟨.error (.failed failure), [request], 0, world⟩
      | left + 1, (.error e, world) =>
          if e.isTransient then
            match mended config world request e with
            | (.error halt, world) => ⟨.error halt, [request], 0, world⟩
            | (.ok next, world) =>
                let rest := sendFrom config left next world
                { rest with requests := request :: rest.requests, retries := rest.retries + 1 }
          else ⟨.error (.failed (.chain e)), [request], 0, world⟩

def submit (config : RetryConfig) (world : σ) (destination : Uint 32) (payload : Payload)
    (fee : Amount) : Submission σ :=
  match TxSubmitter.gasPrice world with
  | (.error e, world) => ⟨.error (.failed (.chain e)), [], 0, world⟩
  | (.ok txGasPrice, world) =>
      match TxSubmitter.nextNonce world with
      | (.error e, world) => ⟨.error (.failed (.chain e)), [], 0, world⟩
      | (.ok nonce, world) =>
          sendFrom config (attempts config - 1) ⟨destination, payload, fee, txGasPrice, nonce⟩ world

end Submission

end BondedRelay
