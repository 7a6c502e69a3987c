import BondedRelay.Clock
import BondedRelay.Job.Entropy
import BondedRelay.Job.Record
import BondedRelay.Pod.Registry

namespace BondedRelay.Assignment

def choosePod (policy : PodPolicy) (pods : PodRegistry) (job : JobId) (blockHash : Hash) :
    Uint 32 :=
  match policy with
  | .fixed pod => pod
  | .random =>
      let populated := pods.populated
      let drawn := Entropy.pick (Entropy.seed job blockHash Entropy.podTweak) populated.length
      (populated[drawn]?).getD 1

def primary (members : List Address) (job : JobId) (blockHash : Hash) : Address :=
  let drawn := Entropy.pick (Entropy.seed job blockHash Entropy.primaryTweak) members.length
  (members[drawn]?).getD 0

def fallbacks (count members : Nat) (job : JobId) (blockHash : Hash) : List (Uint 32) :=
  if members = 0 then []
  else
    (List.range count).map fun k =>
      .wrap (Entropy.pick (Entropy.seed job blockHash (Entropy.fallbackTweak k)) members)

def assign {γ : Type} [ChainContext γ] (config : Protocol) (pods : PodRegistry) (chain : γ)
    (payload : Payload) : JobRecord :=
  let id := payload.jobId
  let blockHash := ChainContext.recentBlockHash chain
  let pod := choosePod config.podPolicy pods id blockHash
  let members := pods.membersOf pod
  { id, pod,
    sourceChain := payload.sourceChain,
    primary := primary members id blockHash,
    assignedBlock := ChainContext.block chain,
    assignedAt := ChainContext.timestamp chain,
    fallbacks := fallbacks config.fallbackCount.toNat members.length id blockHash,
    gasLimit := payload.gasLimit,
    gasPrice := payload.gasPrice,
    status := .pending }

end BondedRelay.Assignment
