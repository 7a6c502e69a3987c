import BondedRelay.Bond.Ledger
import BondedRelay.Job.Effect
import BondedRelay.Job.Store
import BondedRelay.Job.Window

namespace BondedRelay

structure Workplace (τ ε : Type) where
  jobs : JobStore
  ledger : Ledger τ
  effect : ε
  -- Every invocation of the effect, the latest first.
  invocations : List Invocation
  deriving DecidableEq, Repr

namespace Execution

variable {τ ε : Type}

def check (config : Protocol) (ledger : Ledger τ) (r : JobRecord) (caller : Address)
    (now : Uint 64) (params : ExecutionParams) : Except Rejection WindowPhase :=
  match Window.authorize config ledger.pods ledger.isBonded r caller now with
  | .error e => .error e
  | .ok phase =>
      let allowed := BasisPoints.ceiling r.gasPrice config.spikeToleranceBps
      if allowed < params.gasPrice then .error (.gasSpike allowed params.gasPrice)
      else if params.gasLeft < r.gasLimit then .error (.notEnoughGas r.gasLimit params.gasLeft)
      else .ok phase

variable [UtilityToken τ] [JobEffect ε]

def penalize (ledger : Ledger τ) (r : JobRecord) (caller : Address) (phase : WindowPhase) :
    Except Rejection (Option SlashReceipt) × Ledger τ :=
  if phase.isEscalated && caller ≠ r.primary && ledger.isBonded r.primary then
    match ledger.pods.requirement r.pod with
    | .error e => (.error e, ledger)
    | .ok required =>
        let beneficiary : Beneficiary :=
          if ledger.isBonded caller then .bond caller else .account caller
        match ledger.slash r.primary required.base beneficiary with
        | (.error e, ledger) => (.error e, ledger)
        | (.ok receipt, ledger) => (.ok (some receipt), ledger)
  else (.ok none, ledger)

def execute (config : Protocol) (w : Workplace τ ε) (caller : Address) (payload : Payload)
    (now : Uint 64) (params : ExecutionParams) :
    Except Rejection ExecutionReceipt × Workplace τ ε :=
  let id := payload.jobId
  match w.jobs.pending id with
  | .error e => (.error e, w)
  | .ok r =>
      match check config w.ledger r caller now params with
      | .error e => (.error e, w)
      | .ok phase =>
          match penalize w.ledger r caller phase with
          | (.error e, ledger) => (.error e, { w with ledger })
          | (.ok slash, ledger) =>
              let i : Invocation := ⟨payload, caller, r.gasLimit⟩
              let (reverted, effect) := JobEffect.apply w.effect i
              let invocations := i :: w.invocations
              let outcome : ExecutionOutcome := match reverted with
                | none => .completed
                | some reason => .reverted reason
              match w.jobs.finish id outcome.status with
              | .error e => (.error e, { w with ledger, effect, invocations })
              | .ok jobs =>
                  (.ok ⟨id, caller, outcome, slash⟩, { jobs, ledger, effect, invocations })

end Execution

end BondedRelay
