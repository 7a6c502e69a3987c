import BondedRelay.Coordinator

namespace BondedRelay

class JobDesk (κ : Type) where
  feed : κ → Feed Event
  timestamp : κ → Uint 64
  check : κ → Address → JobId → ExecutionParams → Except Rejection WindowPhase × κ
  execute : κ → Address → Bytes → ExecutionParams → Except Rejection ExecutionReceipt × κ

instance {τ ε : Type} [UtilityToken τ] [JobEffect ε] : JobDesk (Coordinator τ ε) where
  feed c := c.feed
  timestamp c := c.clock.timestamp
  check c caller id params := (c.check caller id params, c)
  execute c caller payload params := c.executeBytes caller payload params

end BondedRelay
