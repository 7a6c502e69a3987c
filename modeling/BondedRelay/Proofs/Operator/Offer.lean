import BondedRelay.Proofs.BasisPoints
import BondedRelay.Proofs.Operator.Order

namespace BondedRelay

open BasisPoints

def Rejection.concernsGas : Rejection → Bool
  | .gasSpike .. => true
  | .notEnoughGas .. => true
  | _ => false

theorem Rejection.hint_of_concernsGas {e : Rejection} (h : e.concernsGas = true) :
    e.hint = .later := by
  cases e with
  | gasSpike allowed offered => rfl
  | notEnoughGas required provided => rfl
  | _ => cases h

def JobRecord.embedded (r : JobRecord) : ExecutionParams := ⟨r.gasLimit, r.gasPrice⟩

def ExecutionParams.generous : ExecutionParams := ⟨.top, 0⟩

theorem Window.concernsGas_of_authorize_error {config : Protocol} {pods : PodRegistry}
    {isBonded : Address → Bool} {r : JobRecord} {caller : Address} {now : Uint 64} {e : Rejection}
    (h : authorize config pods isBonded r caller now = .error e) : e.concernsGas = false := by
  unfold authorize at h
  grind [Rejection.concernsGas]

namespace Execution

variable {τ ε : Type} {config : Protocol} {l : Ledger τ} {r : JobRecord} {caller : Address}
  {now : Uint 64} {e : Rejection} {phase : WindowPhase}

theorem check_generous :
    check config l r caller now .generous =
      Window.authorize config l.pods l.isBonded r caller now := by
  unfold check
  cases Window.authorize config l.pods l.isBonded r caller now with
  | error e => rfl
  | ok phase =>
      have hprice : ¬ ceiling r.gasPrice config.spikeToleranceBps < 0 :=
        Nat.not_lt_of_le (Nat.zero_le _)
      have hgas : ¬ .top < r.gasLimit := by
        rw [Uint.lt_iff, Uint.toNat_top]
        exact Nat.not_lt_of_le r.gasLimit.toNat_le
      exact (if_neg hprice).trans (if_neg hgas)

theorem check_embedded (config : Protocol) (l : Ledger τ) (r : JobRecord) (caller : Address)
    (now : Uint 64) :
    check config l r caller now r.embedded =
      match Window.authorize config l.pods l.isBonded r caller now with
      | .error e => .error e
      | .ok phase =>
          if Scalable r.gasPrice then .ok phase
          else .error (.gasSpike (ceiling r.gasPrice config.spikeToleranceBps) r.gasPrice) := by
  unfold check
  cases Window.authorize config l.pods l.isBonded r caller now with
  | error e => rfl
  | ok phase =>
      have hgas : ¬ r.gasLimit < r.gasLimit := Nat.lt_irrefl _
      have hprice := le_ceiling_iff r.gasPrice config.spikeToleranceBps
      rw [Uint.le_iff, ← Nat.not_lt, ← Uint.lt_iff] at hprice
      dsimp only
      by_cases hscalable : Scalable r.gasPrice
      · rw [if_pos hscalable]
        exact (if_neg (hprice.2 hscalable)).trans (if_neg hgas)
      · rw [if_neg hscalable]
        exact if_pos (Decidable.not_not.1 (mt hprice.1 hscalable))

theorem check_embedded_of_scalable (h : Scalable r.gasPrice) :
    check config l r caller now r.embedded =
      Window.authorize config l.pods l.isBonded r caller now := by
  rw [check_embedded]
  cases Window.authorize config l.pods l.isBonded r caller now with
  | error e => rfl
  | ok phase => exact if_pos h

theorem check_embedded_concernsGas_iff :
    check config l r caller now r.embedded = .error e ∧ e.concernsGas = true ↔
      ¬ Scalable r.gasPrice ∧
      e = .gasSpike (ceiling r.gasPrice config.spikeToleranceBps) r.gasPrice ∧
      ∃ phase, Window.authorize config l.pods l.isBonded r caller now = .ok phase := by
  rw [check_embedded]
  rcases hauthorized : Window.authorize config l.pods l.isBonded r caller now with e' | phase
  · simp only [Except.error.injEq, reduceCtorEq, exists_false, and_false, iff_false, not_and]
    rintro rfl
    simp [Window.concernsGas_of_authorize_error hauthorized]
  · by_cases hscalable : Scalable r.gasPrice
    · simp [hscalable]
    · simp only [hscalable, if_false, Except.error.injEq, not_false_eq_true, true_and,
        Except.ok.injEq, exists_eq', and_true]
      constructor
      · exact fun h => h.1.symm
      · rintro rfl
        exact ⟨rfl, rfl⟩

end Execution

namespace Coordinator

variable {τ ε : Type} {c : Coordinator τ ε} {id : JobId} {caller : Address} {r : JobRecord}

theorem check_embedded_concernsGas_iff {e : Rejection} (hfound : c.jobs.get? id = some r) :
    c.check caller id r.embedded = .error e ∧ e.concernsGas = true ↔
      ¬ Scalable r.gasPrice ∧
      e = .gasSpike (ceiling r.gasPrice c.config.spikeToleranceBps) r.gasPrice ∧
      ∃ phase, c.check caller id .generous = .ok phase := by
  by_cases hpending : r.status = .pending
  · rw [check_of_pending hfound hpending, check_of_pending hfound hpending,
      Execution.check_generous, Execution.check_embedded_concernsGas_iff]
  · rw [check_of_not_pending hfound hpending, check_of_not_pending hfound hpending]
    simp only [Except.error.injEq, reduceCtorEq, exists_false, and_false, iff_false, not_and]
    rintro rfl
    simp [Rejection.concernsGas]

end Coordinator

namespace Operator

open Coordinator

variable {τ ε : Type} [UtilityToken τ] [JobEffect ε] {c : Coordinator τ ε} {config : OperatorConfig}
  {id : JobId} {job : KnownJob} {o : Operator} {e : Rejection}

inductive RefusedGas (config : OperatorConfig) (c : Coordinator τ ε) (id : JobId) (job : KnownJob) :
    Rejection → Prop
  | checked {e : Rejection} (hcheck : c.check config.operator id job.params = .error e)
      (hgas : e.concernsGas = true) : RefusedGas config c id job e
  | executed {phase : WindowPhase} {e : Rejection} {c' : Coordinator τ ε}
      (hcheck : c.check config.operator id job.params = .ok phase)
      (hexecute : c.executeBytes config.operator job.payload job.params = (.error e, c'))
      (hgas : e.concernsGas = true) : RefusedGas config c id job e

theorem refusedGas_iff_check (hseated : c.Seated) (hreads : job.Reads id) :
    RefusedGas config c id job e ↔
      c.check config.operator id job.params = .error e ∧ e.concernsGas = true := by
  constructor
  · intro h
    cases h with
    | checked hcheck hgas => exact ⟨hcheck, hgas⟩
    | executed hcheck hexecute hgas =>
        rcases hread : Payload.ofBytes job.payload with error | payload
        · rw [executeBytes, hread] at hexecute
          obtain ⟨rfl, -⟩ : .payload error = e ∧ _ := by simpa using hexecute
          cases hgas
        · rw [executeBytes_of_read hread] at hexecute
          rw [← hreads payload hread] at hcheck
          obtain ⟨error, rfl⟩ := token_of_execute_error hseated hcheck hexecute
          cases hgas
  · rintro ⟨hcheck, hgas⟩
    exact .checked hcheck hgas

theorem attempt_rests (hcheck : c.check o.config.operator id job.params = .error e)
    (hgas : e.concernsGas = true) :
    (attempt c o id job).1 = .rest ∧ (attempt c o id job).2.1 = c := by
  obtain ⟨hattempts, -⟩ := attempts c o id job
  generalize (attempt c o id job).1 = flow, (attempt c o id job).2.1 = c' at hattempts ⊢
  cases hattempts with
  | refused hcheck' hflow =>
      obtain rfl := Except.error.inj (hcheck.symm.trans hcheck')
      rw [hflow, verdict, Rejection.hint_of_concernsGas hgas]
      exact ⟨rfl, rfl⟩
  | passed hcheck' => cases hcheck.symm.trans hcheck'
  | failed hcheck' => cases hcheck.symm.trans hcheck'
  | executed hcheck' => cases hcheck.symm.trans hcheck'

end Operator

namespace Watch

open Coordinator Operator

variable {τ ε : Type} [UtilityToken τ] [JobEffect ε]

theorem refusedGas_iff {w : Watch τ ε} {operator : OperatorConfig} {id : JobId} {job : KnownJob}
    {e : Rejection} (hs : w.Sound) (hreads : job.Reads id)
    (hknown : w.drained.find? id = some job) (moves : List (Move τ ε)) :
    RefusedGas operator (w.coordinator.run moves) id job e ↔
      ¬ Scalable job.details.gasPrice ∧
      e = .gasSpike (ceiling job.details.gasPrice w.coordinator.config.spikeToleranceBps)
        job.details.gasPrice ∧
      ∃ phase, (w.coordinator.run moves).check operator.operator id .generous = .ok phase := by
  obtain ⟨r, payload, hknows⟩ := hs.knows hknown
  obtain ⟨r', hlater, hfields, -⟩ := follows_run moves hknows.found
  have hembedded : job.params = r'.embedded := by
    rw [hfields, KnownJob.params, hknows.details_eq]
    rfl
  have hprice : job.details.gasPrice = r'.gasPrice := congrArg ExecutionParams.gasPrice hembedded
  rw [refusedGas_iff_check (hs.seated.run moves) hreads, hembedded,
    check_embedded_concernsGas_iff hlater, hprice, config_run]

theorem embedded_gas_refused_iff_unscalable :
    (∀ price tolerance, price ≤ ceiling price tolerance ↔ Scalable price) ∧
      (∀ (config : Protocol) (l : Ledger τ) (r : JobRecord) (caller : Address) (now : Uint 64)
        (e : Rejection),
        let authorized := Window.authorize config l.pods l.isBonded r caller now
        (Scalable r.gasPrice → Execution.check config l r caller now r.embedded = authorized) ∧
          (authorized = .error e → e.concernsGas = false) ∧
          (Execution.check config l r caller now r.embedded = .error e ∧ e.concernsGas = true ↔
            ¬ Scalable r.gasPrice ∧
            e = .gasSpike (ceiling r.gasPrice config.spikeToleranceBps) r.gasPrice ∧
            ∃ phase, authorized = .ok phase)) ∧
      ∀ (chainId : Uint 32) (config : Protocol) (address : Address) (token : τ) (clock : Clock)
        (effect : ε) (owners : Table Address Address) (earlier : List (Move τ ε))
        (operator : OperatorConfig) (chain : Uint 32) (metrics : Metrics) (w : Watch τ ε)
        (id : JobId) (job : KnownJob),
        Relation.ReflTransGen Turn (subscribed
          ((create chainId config address token clock effect owners).run earlier) operator chain
            metrics) w →
        w.Countable → w.drained.find? id = some job → ∀ moves e,
          let c := w.coordinator.run moves
          (RefusedGas operator c id job e ↔
            ¬ Scalable job.details.gasPrice ∧
            e = .gasSpike (ceiling job.details.gasPrice config.spikeToleranceBps)
              job.details.gasPrice ∧
            ∃ phase, c.check operator.operator id .generous = .ok phase) ∧
          (RefusedGas operator c id job e → ∀ o : Operator, o.config = operator →
            (attempt c o id job).1 = .rest ∧ (attempt c o id job).2.1 = c) := by
  refine ⟨le_ceiling_iff, fun config l r caller now e =>
    ⟨Execution.check_embedded_of_scalable, Window.concernsGas_of_authorize_error,
      Execution.check_embedded_concernsGas_iff⟩, ?_⟩
  intro chainId config address token clock effect owners earlier operator chain metrics w id job
    hwatched hcountable hknown moves e c
  obtain ⟨hs, hconfig, -⟩ := sound hwatched
  have hreads : job.Reads id := hs.reads_of_countable hcountable id job hknown
  refine ⟨hconfig ▸ refusedGas_iff hs hreads hknown moves, fun hrefused o ho => ?_⟩
  subst ho
  obtain ⟨hcheck, hgas⟩ := (refusedGas_iff_check (hs.seated.run moves) hreads).1 hrefused
  exact attempt_rests hcheck hgas

theorem largest_scalable_price_accepted :
    let config : Protocol := { Protocol.standard with fallbackCount := 1, bondUnit := 100 }
    let token := (MemoryToken.empty.mint 1 100).approve 1 7 100
    let price : Amount := Uint.top.divNat denominator
    let job : Payload := ⟨5, 3, 0, [], 30, price⟩
    let start := create 1 config 7 token .standard (RecordingEffect.create []) .empty
    let c := start.run [.call (.bond 1 1 100 1), .source 5 6, .call (.deliver job 5 6)]
    let o := (subscribed start ⟨1, 1, true, none⟩ 1 (.create "operator" none)).operator
    ∃ known, (drained ⟨c, o⟩).find? job.jobId = some known ∧ known.params = ⟨30, price⟩ ∧
      c.check 1 job.jobId known.params = .ok .primary ∧
      ∀ moves e, ¬ RefusedGas o.config (c.run moves) job.jobId known e := by
  intro config token price job start c o
  obtain ⟨hparams, hcheck, hscalable, hbytes⟩ :
      ((drained ⟨c, o⟩).find? job.jobId).map KnownJob.params = some ⟨30, price⟩ ∧
      c.check 1 job.jobId ⟨30, price⟩ = .ok .primary ∧ Scalable price ∧
      ∀ event ∈ c.feed.sent, event.bytes.length < Uint.limit 64 := by
    decide +kernel
  have hwatched : Relation.ReflTransGen Turn (subscribed (start.run []) ⟨1, 1, true, none⟩ 1
      (.create "operator" none)) ⟨c, o⟩ := turns_of_moves (subscribed start _ _ _) _
  have hcountable : Countable ⟨c, o⟩ := fun details payload hmem =>
    Nat.lt_of_le_of_lt payload.length_data_le (hbytes _ hmem)
  obtain ⟨known, hknown, hknownParams⟩ := Option.map_eq_some_iff.1 hparams
  refine ⟨known, hknown, hknownParams, hknownParams ▸ hcheck, fun moves e hrefused => ?_⟩
  obtain ⟨hlarge, -⟩ := (embedded_gas_refused_iff_unscalable.2.2 1 config 7 token .standard
    (RecordingEffect.create []) .empty [] ⟨1, 1, true, none⟩ 1 (.create "operator" none) ⟨c, o⟩
    job.jobId known hwatched hcountable hknown moves e).1.1 hrefused
  have hprice : known.details.gasPrice = price := congrArg ExecutionParams.gasPrice hknownParams
  exact hlarge (hprice ▸ hscalable)

theorem top_price_refused_to_primary :
    let config : Protocol := { Protocol.standard with fallbackCount := 1, bondUnit := 100 }
    let token := (MemoryToken.empty.mint 1 100).approve 1 7 100
    let job : Payload := ⟨5, 3, 0, [], 30, .top⟩
    let start := create 1 config 7 token .standard (RecordingEffect.create []) .empty
    let c := start.run [.call (.bond 1 1 100 1), .source 5 6, .call (.deliver job 5 6)]
    let later := c.run [.clock (Clock.standard.advance 120)]
    let o := (subscribed start ⟨1, 1, true, none⟩ 1 (.create "operator" none)).operator
    let spike : Rejection := .gasSpike (ceiling .top 0) .top
    ceiling .top 0 < .top ∧ c.check 1 job.jobId ⟨30, .top⟩ = .error spike ∧
      (tick c o).1 = .ok .rest ∧ (tick later o).1 = .ok .rest ∧
      later.check 1 job.jobId ⟨30, .top⟩ = .error spike ∧ (tick later o).2.2.tracked = 1 := by
  decide +kernel

end Watch

end BondedRelay
