import BondedRelay.Job.Payload

namespace BondedRelay

structure Outbox where
  sourceChain : Uint 32
  nextNonce : Amount
  deriving DecidableEq, Repr

structure Outbound where
  destination : Uint 32
  payload : Payload
  deriving DecidableEq, Repr

namespace Outbox

def dispatch (o : Outbox) (destination : Uint 32) (target : Address) (gasLimit : Uint 64)
    (gasPrice : Amount) (data : Bytes) : Outbound × Outbox :=
  let payload : Payload :=
    { sourceChain := o.sourceChain, target, nonce := o.nextNonce, data, gasLimit, gasPrice }
  ({ destination, payload }, { o with nextNonce := o.nextNonce.satAdd 1 })

end Outbox

end BondedRelay
