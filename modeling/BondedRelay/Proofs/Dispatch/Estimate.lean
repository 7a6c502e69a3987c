import Mathlib.Control.Monad.Basic
import BondedRelay.Dispatch.Estimate
import BondedRelay.Proofs.Config.Gas
import BondedRelay.Rehearsal.World

namespace BondedRelay

inductive GasCall where
  | gasPrice (answer : Except ChainError Amount)
  | simulate (payload : Payload) (allowance : Uint 64) (answer : Except ChainError (Uint 64))
  deriving DecidableEq, Repr

def GasCall.allowance? : GasCall → Option (Uint 64)
  | .gasPrice _ => none
  | .simulate _ allowance _ => some allowance

structure Traced (σ : Type) where
  world : σ
  calls : List GasCall

namespace Traced

variable {σ : Type}

def trace {α : Type} (w : Traced σ) (call : α → GasCall) (answer : α × σ) : α × Traced σ :=
  (answer.1, ⟨answer.2, w.calls ++ [call answer.1]⟩)

instance [DestinationClient σ] : DestinationClient (Traced σ) where
  chainName w := DestinationClient.chainName w.world
  gasPrice w := w.trace .gasPrice (DestinationClient.gasPrice w.world)
  simulate w payload allowance :=
    w.trace (.simulate payload allowance) (DestinationClient.simulate w.world payload allowance)

variable [DestinationClient σ] {world world' : σ}

theorem gasPrice_eq (calls : List GasCall) {answer : Except ChainError Amount}
    (h : DestinationClient.gasPrice world = (answer, world')) :
    DestinationClient.gasPrice (⟨world, calls⟩ : Traced σ) =
      (answer, ⟨world', calls ++ [.gasPrice answer]⟩) := by
  simp [DestinationClient.gasPrice, trace, h]

theorem simulate_eq (calls : List GasCall) {payload : Payload} {allowance : Uint 64}
    {answer : Except ChainError (Uint 64)}
    (h : DestinationClient.simulate world payload allowance = (answer, world')) :
    DestinationClient.simulate (⟨world, calls⟩ : Traced σ) payload allowance =
      (answer, ⟨world', calls ++ [.simulate payload allowance answer]⟩) := by
  simp [DestinationClient.simulate, trace, h]

end Traced

namespace Estimate

inductive Stops (chain : String) (allowance : Uint 64) :
    Except ChainError (Uint 64) → DispatchError → Prop
  | failed {e : ChainError} : Stops chain allowance (.error e) (.chain e)
  | exhausted : Stops chain allowance (.ok 0) (.allowanceExhausted chain allowance)

theorem stops_ok_iff {chain : String} {allowance left : Uint 64} {e : DispatchError} :
    Stops chain allowance (.ok left) e ↔ left = 0 ∧ e = .allowanceExhausted chain allowance := by
  constructor
  · rintro ⟨⟩
    exact ⟨rfl, rfl⟩
  · rintro ⟨rfl, rfl⟩
    exact .exhausted

theorem stops_or_left (chain : String) (allowance : Uint 64)
    (answer : Except ChainError (Uint 64)) :
    (∃ e, Stops chain allowance answer e) ∨ ∃ left, left ≠ 0 ∧ answer = .ok left := by
  rcases answer with e | left
  · exact .inl ⟨_, .failed⟩
  · by_cases hleft : left = 0
    · subst hleft
      exact .inl ⟨_, .exhausted⟩
    · exact .inr ⟨left, hleft, rfl⟩

def trial (config : GasConfig) (draft : Payload) (observed : Amount) : Payload :=
  draft.withGas config.simulationAllowance (config.destinationPrice observed)

def refined (config : GasConfig) (draft : Payload) (observed : Amount) (left : Uint 64) : Payload :=
  draft.withGas (config.paddedGas (config.simulationAllowance.satSub left))
    (config.destinationPrice observed)

inductive Converses (config : GasConfig) (draft : Payload) (chain : String) :
    List GasCall → Except DispatchError GasEstimate → Prop
  | unpriced {e : ChainError} :
      Converses config draft chain [.gasPrice (.error e)] (.error (.chain e))
  | untried {observed : Amount} {answer : Except ChainError (Uint 64)} {e : DispatchError}
      (hstops : Stops chain config.simulationAllowance answer e) :
      Converses config draft chain
        [.gasPrice (.ok observed),
          .simulate (trial config draft observed) config.simulationAllowance answer]
        (.error e)
  | unrefined {observed : Amount} {left : Uint 64} {answer : Except ChainError (Uint 64)}
      {e : DispatchError} (hleft : left ≠ 0)
      (hstops : Stops chain config.simulationAllowance answer e) :
      Converses config draft chain
        [.gasPrice (.ok observed),
          .simulate (trial config draft observed) config.simulationAllowance (.ok left),
          .simulate (refined config draft observed left) config.simulationAllowance answer]
        (.error e)
  | estimated {observed : Amount} {left left' : Uint 64} (hleft : left ≠ 0) (hleft' : left' ≠ 0) :
      Converses config draft chain
        [.gasPrice (.ok observed),
          .simulate (trial config draft observed) config.simulationAllowance (.ok left),
          .simulate (refined config draft observed left) config.simulationAllowance (.ok left')]
        (.ok ⟨config.paddedGas (config.simulationAllowance.satSub left'),
          config.destinationPrice observed, refined config draft observed left'⟩)

namespace Converses

variable {config : GasConfig} {draft : Payload} {chain : String} {calls : List GasCall}
  {result : Except DispatchError GasEstimate}

theorem length_simulated_le (h : Converses config draft chain calls result) :
    (calls.filterMap GasCall.allowance?).length ≤ 2 := by
  cases h <;> simp [List.filterMap_cons, GasCall.allowance?]

theorem allowance_eq (h : Converses config draft chain calls result) {allowance : Uint 64}
    (hsimulated : allowance ∈ calls.filterMap GasCall.allowance?) :
    allowance = config.simulationAllowance := by
  cases h <;> simp_all [GasCall.allowance?]

theorem ok_iff (h : Converses config draft chain calls result) {estimate : GasEstimate} :
    result = .ok estimate ↔ ∃ observed left left', left ≠ 0 ∧ left' ≠ 0 ∧
      calls = [.gasPrice (.ok observed),
        .simulate (trial config draft observed) config.simulationAllowance (.ok left),
        .simulate (refined config draft observed left) config.simulationAllowance (.ok left')] ∧
      estimate = ⟨config.paddedGas (config.simulationAllowance.satSub left'),
        config.destinationPrice observed, refined config draft observed left'⟩ := by
  constructor
  · rintro rfl
    cases h with
    | estimated hleft hleft' => exact ⟨_, _, _, hleft, hleft', rfl, rfl⟩
  · rintro ⟨observed, left, left', hleft, hleft', rfl, rfl⟩
    cases h with
    | unrefined _ hstops => exact absurd (stops_ok_iff.1 hstops).1 hleft'
    | estimated => rfl

theorem ends_when_exhausted (h : Converses config draft chain calls result)
    {before after : List GasCall} {payload : Payload} {allowance : Uint 64}
    (hcalls : calls = before ++ .simulate payload allowance (.ok 0) :: after) :
    after = [] ∧
      result = .error (.allowanceExhausted chain config.simulationAllowance) := by
  -- No more than two calls come before it, and one that left some gas is not it.
  rcases before with _ | ⟨_, _ | ⟨_, _ | ⟨_, before⟩⟩⟩ <;> cases h <;> simp_all [stops_ok_iff]

end Converses

section

variable {σ : Type} [DestinationClient σ] {config : GasConfig} {draft payload : Payload}
  {world world₁ world₂ world₃ : σ} {observed : Amount} {allowance left left' : Uint 64}
  {answer : Except ChainError (Uint 64)} {e : DispatchError}

theorem usedGas_of_stops
    (hsimulate : DestinationClient.simulate world payload allowance = (answer, world₁))
    (hstops : Stops (DestinationClient.chainName world₁) allowance answer e) :
    usedGas world payload allowance = (.error e, world₁) := by
  cases hstops <;> simp [usedGas, hsimulate]

theorem usedGas_of_left
    (hsimulate : DestinationClient.simulate world payload allowance = (.ok left, world₁))
    (hleft : left ≠ 0) :
    usedGas world payload allowance = (.ok (allowance.satSub left), world₁) := by
  have hpos : left.toNat ≠ 0 := fun hzero => hleft (Uint.ext (hzero.trans Uint.toNat_zero.symm))
  simp [usedGas, hsimulate, hpos]

theorem gas_unpriced {e : ChainError}
    (hprice : DestinationClient.gasPrice world = (.error e, world₁)) :
    gas config world draft = (.error (.chain e), world₁) := by
  simp [gas, hprice]

theorem gas_untried (hprice : DestinationClient.gasPrice world = (.ok observed, world₁))
    (htrial : DestinationClient.simulate world₁ (trial config draft observed)
      config.simulationAllowance = (answer, world₂))
    (hstops : Stops (DestinationClient.chainName world₂) config.simulationAllowance answer e) :
    gas config world draft = (.error e, world₂) := by
  have hused := usedGas_of_stops htrial hstops
  unfold trial at hused
  simp [gas, hprice, hused]

theorem gas_unrefined (hprice : DestinationClient.gasPrice world = (.ok observed, world₁))
    (htrial : DestinationClient.simulate world₁ (trial config draft observed)
      config.simulationAllowance = (.ok left, world₂)) (hleft : left ≠ 0)
    (hrefined : DestinationClient.simulate world₂ (refined config draft observed left)
      config.simulationAllowance = (answer, world₃))
    (hstops : Stops (DestinationClient.chainName world₃) config.simulationAllowance answer e) :
    gas config world draft = (.error e, world₃) := by
  have htried := usedGas_of_left htrial hleft
  have hused := usedGas_of_stops hrefined hstops
  unfold trial at htried
  unfold refined at hused
  simp [gas, hprice, htried, hused]

theorem gas_estimated (hprice : DestinationClient.gasPrice world = (.ok observed, world₁))
    (htrial : DestinationClient.simulate world₁ (trial config draft observed)
      config.simulationAllowance = (.ok left, world₂)) (hleft : left ≠ 0)
    (hrefined : DestinationClient.simulate world₂ (refined config draft observed left)
      config.simulationAllowance = (.ok left', world₃)) (hleft' : left' ≠ 0) :
    gas config world draft = (.ok ⟨config.paddedGas (config.simulationAllowance.satSub left'),
      config.destinationPrice observed, refined config draft observed left'⟩, world₃) := by
  have htried := usedGas_of_left htrial hleft
  have hused := usedGas_of_left hrefined hleft'
  unfold trial at htried
  unfold refined at hused
  simp [gas, hprice, htried, hused, refined]

theorem gas_traced (config : GasConfig) (world : σ) (draft : Payload) :
    let estimated := gas config world draft
    ∃ calls, gas config (⟨world, []⟩ : Traced σ) draft = (estimated.1, ⟨estimated.2, calls⟩) ∧
      Converses config draft (DestinationClient.chainName estimated.2) calls estimated.1 := by
  intro estimated
  rcases hprice : DestinationClient.gasPrice world with ⟨e | observed, world₁⟩
  · have hgas : estimated = (.error (.chain e), world₁) := gas_unpriced hprice
    rw [hgas]
    exact ⟨_, gas_unpriced (Traced.gasPrice_eq [] hprice), .unpriced⟩
  rcases htrial : DestinationClient.simulate world₁ (trial config draft observed)
    config.simulationAllowance with ⟨answer, world₂⟩
  have hpriced := Traced.gasPrice_eq [] hprice
  rcases stops_or_left (DestinationClient.chainName world₂) config.simulationAllowance answer with
    ⟨e, hstops⟩ | ⟨left, hleft, rfl⟩
  · have hgas : estimated = (.error e, world₂) := gas_untried hprice htrial hstops
    rw [hgas]
    exact ⟨_, gas_untried hpriced (Traced.simulate_eq _ htrial) hstops, .untried hstops⟩
  rcases hrefined : DestinationClient.simulate world₂ (refined config draft observed left)
    config.simulationAllowance with ⟨answer, world₃⟩
  rcases stops_or_left (DestinationClient.chainName world₃) config.simulationAllowance answer with
    ⟨e, hstops⟩ | ⟨left', hleft', rfl⟩
  · have hgas : estimated = (.error e, world₃) := gas_unrefined hprice htrial hleft hrefined hstops
    rw [hgas]
    exact ⟨_, gas_unrefined hpriced (Traced.simulate_eq _ htrial) hleft
      (Traced.simulate_eq _ hrefined) hstops, .unrefined hleft hstops⟩
  · have hgas : estimated = _ := gas_estimated hprice htrial hleft hrefined hleft'
    rw [hgas]
    exact ⟨_, gas_estimated hpriced (Traced.simulate_eq _ htrial) hleft
      (Traced.simulate_eq _ hrefined) hleft', .estimated hleft hleft'⟩

theorem gas_ok {estimate : GasEstimate} (h : gas config world draft = (.ok estimate, world₁)) :
    estimate.payload = draft.withGas estimate.gasLimit estimate.gasPrice := by
  obtain ⟨calls, -, hconverses⟩ := gas_traced config world draft
  rw [h] at hconverses
  obtain ⟨observed, left, left', -, -, -, rfl⟩ := hconverses.ok_iff.1 rfl
  rfl

theorem payload_simulated_twice (config : GasConfig) (haccepted : config.fault? = none) (world : σ)
    (draft : Payload) :
    let estimated := gas config world draft
    let traced := gas config (⟨world, []⟩ : Traced σ) draft
    let calls := traced.2.calls
    let chain := DestinationClient.chainName estimated.2
    let allowance := config.simulationAllowance
    traced = (estimated.1, ⟨estimated.2, calls⟩) ∧
      Converses config draft chain calls estimated.1 ∧
      (calls.filterMap GasCall.allowance?).length ≤ 2 ∧
      (∀ simulated ∈ calls.filterMap GasCall.allowance?, simulated = allowance) ∧
      (∀ estimate, estimated.1 = .ok estimate ↔ ∃ observed left left', left ≠ 0 ∧ left' ≠ 0 ∧
        let price := config.destinationPrice observed
        let gasLimit := config.paddedGas (allowance.satSub left)
        let gasLimit' := config.paddedGas (allowance.satSub left')
        calls = [.gasPrice (.ok observed),
            .simulate (draft.withGas allowance price) allowance (.ok left),
            .simulate (draft.withGas gasLimit price) allowance (.ok left')] ∧
          allowance.satSub left' ≤ gasLimit' ∧
          estimate = ⟨gasLimit', price, draft.withGas gasLimit' price⟩) ∧
      ∀ before after payload, calls = before ++ .simulate payload allowance (.ok 0) :: after →
        after = [] ∧ estimated.1 = .error (.allowanceExhausted chain allowance) := by
  intro estimated traced calls chain allowance
  obtain ⟨asked, htraced, hconverses⟩ := gas_traced config world draft
  have htraced : traced = (estimated.1, ⟨estimated.2, asked⟩) := htraced
  have hcalls : calls = asked := congrArg (fun t => t.2.calls) htraced
  rw [hcalls]
  have hmargin := GasConfig.le_paddedGas (GasConfig.fault?_eq_none_iff.1 haccepted).gas_margin
  refine ⟨htraced, hconverses, hconverses.length_simulated_le, fun _ => hconverses.allowance_eq,
    fun estimate => hconverses.ok_iff.trans ⟨?_, ?_⟩, fun _ _ _ => hconverses.ends_when_exhausted⟩
  · rintro ⟨observed, left, left', hleft, hleft', hasked, hestimate⟩
    exact ⟨observed, left, left', hleft, hleft', hasked, hmargin _, hestimate⟩
  · rintro ⟨observed, left, left', hleft, hleft', hasked, -, hestimate⟩
    exact ⟨observed, left, left', hleft, hleft', hasked, hestimate⟩

theorem second_figure_returned :
    let draft : Payload := ⟨5, 3, 4, [1], 0, 0⟩
    let world : ScriptedWorld := ⟨"polygon", ⟨.ok 10, []⟩,
      ⟨.ok (.used 100000), [.ok (.used 120000)]⟩, ⟨.ok ⟨7, 3⟩, []⟩, ⟨.ok 100, []⟩, ⟨.ok 3, []⟩,
      ⟨.ok 1, []⟩, []⟩
    GasConfig.evmDefault.fault? = none ∧
      (gas .evmDefault (⟨world, []⟩ : Traced ScriptedWorld) draft).2.calls =
        [.gasPrice (.ok 10), .simulate (draft.withGas 10000000 15) 10000000 (.ok 9900000),
          .simulate (draft.withGas 110000 15) 10000000 (.ok 9880000)] ∧
      (gas .evmDefault world draft).1 = .ok ⟨132000, 15, draft.withGas 132000 15⟩ := by
  intro draft world
  have haccepted : GasConfig.evmDefault.fault? = none := by decide
  obtain ⟨-, -, -, -, hsucceeds, -⟩ := payload_simulated_twice .evmDefault haccepted world draft
  refine ⟨haccepted, by decide +kernel, (hsucceeds _).2 ⟨10, 9900000, 9880000, ?_⟩⟩
  decide +kernel

end

end Estimate

end BondedRelay
