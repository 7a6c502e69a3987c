import BondedRelay.Uint

namespace BondedRelay

structure RetryConfig where
  maxAttempts : Uint 32
  backoffMs : Uint 64
  priceBumpBps : Uint 32
  deriving DecidableEq, Repr

namespace RetryConfig

def standard : RetryConfig where
  maxAttempts := 5
  backoffMs := 500
  priceBumpBps := 1250

def noAttemptMessage : String := "maxAttempts must be at least 1"

def isValid (c : RetryConfig) : Bool := 0 < c.maxAttempts.toNat

end RetryConfig

end BondedRelay
