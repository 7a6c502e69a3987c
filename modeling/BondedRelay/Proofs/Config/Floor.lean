import BondedRelay.Config.Settings
import BondedRelay.Proofs.Table

namespace BondedRelay

namespace Environment

variable {env : Environment} {chain : String} {floor : Amount}

inductive Sets (env : Environment) (chain : String) : Amount → Prop
  | own {raw : String} {floor : Amount} (h : env.get? (floorVariable chain) = some raw)
      (hread : Numeral.amount? raw = some floor) : Sets env chain floor
  | common {raw : String} {floor : Amount} (hown : env.get? (floorVariable chain) = none)
      (h : env.get? "DEFAULT_MIN_GAS_PRICE" = some raw)
      (hread : Numeral.amount? raw = some floor) : Sets env chain floor

theorem floor?_eq_some_iff : env.floor? chain = some floor ↔ env.Sets chain floor := by
  unfold floor?
  constructor
  · intro h
    split at h
    · next hown => exact .own hown h
    · next hown =>
        obtain ⟨raw, hraw, hread⟩ := Option.bind_eq_some_iff.1 h
        exact .common hown hraw hread
  · rintro (⟨hown, hread⟩ | ⟨hown, hraw, hread⟩)
    · rw [hown]
      exact hread
    · rw [hown, hraw]
      exact hread

end Environment

namespace Configuration

variable {env : Environment} {c : Configuration} {chain : String} {floor : Amount}

theorem fault?_overrideFloor (env : Environment) (chain : String) (g : GasConfig) :
    (overrideFloor env chain g).fault? = g.fault? := by
  unfold overrideFloor
  split
  · rfl
  · rfl

theorem fault?_override (c : Configuration) (env : Environment) :
    (c.override env).fault? = c.fault? := by
  simp only [fault?, override, List.findSome?_map, Function.comp_def, fault?_overrideFloor]

theorem find?_override (c : Configuration) (env : Environment) (chain : String) :
    (c.override env).gas.find? chain = (c.gas.find? chain).map (overrideFloor env chain) :=
  Table.findIn_map (overrideFloor env) chain c.gas.entries

theorem keys_override (c : Configuration) (env : Environment) :
    (c.override env).gas.keys = c.gas.keys :=
  map_fst_map_snd (overrideFloor env) c.gas.entries

theorem gasOf_of_unlisted (h : chain ∉ c.gas.keys) : c.gasOf chain = .evmDefault := by
  rw [gasOf, Table.getD, Table.find?_eq_none_iff.2 h]
  rfl

theorem gasOf_override (c : Configuration) (env : Environment) (chain : String) :
    (c.override env).gasOf chain =
      if chain ∈ c.gas.keys then
        { c.gasOf chain with
          minGasPrice := (env.floor? chain).or (c.gasOf chain).minGasPrice }
      else c.gasOf chain := by
  unfold gasOf Table.getD
  rw [find?_override]
  cases hfound : c.gas.find? chain with
  | none =>
      rw [if_neg (Table.find?_eq_none_iff.1 hfound)]
      rfl
  | some g =>
      have hlisted : chain ∈ c.gas.keys := Decidable.byContradiction fun hunlisted => by
        cases hfound.symm.trans (Table.find?_eq_none_iff.2 hunlisted)
      rw [if_pos hlisted, Option.map_some, Option.getD_some, Option.getD_some, overrideFloor]
      cases env.floor? chain with
      | none => rfl
      | some floor => rfl

theorem gasOf_override_of_unlisted (h : chain ∉ c.gas.keys) :
    (c.override env).gasOf chain = .evmDefault := by
  rw [gasOf_override, if_neg h, gasOf_of_unlisted h]

theorem minGasPrice_override_iff (h : env.Sets chain floor) :
    ((c.override env).gasOf chain).minGasPrice = some floor ↔ chain ∈ c.gas.keys := by
  rw [gasOf_override, Environment.floor?_eq_some_iff.2 h]
  by_cases hlisted : chain ∈ c.gas.keys
  · simp [hlisted]
  · simp [hlisted, gasOf_of_unlisted hlisted, GasConfig.evmDefault]

theorem gasOf_override_of_unset (h : ∀ floor, ¬ env.Sets chain floor) :
    (c.override env).gasOf chain = c.gasOf chain := by
  have hfloor : env.floor? chain = none :=
    Option.eq_none_iff_forall_ne_some.2 fun floor hfloor =>
      h floor (Environment.floor?_eq_some_iff.1 hfloor)
  rw [gasOf_override, hfloor]
  split
  · rfl
  · rfl

theorem gasOf_override_frame (c : Configuration) (env : Environment) (chain : String) :
    (c.override env).gasOf chain =
      { c.gasOf chain with minGasPrice := ((c.override env).gasOf chain).minGasPrice } := by
  rw [gasOf_override]
  split
  · rfl
  · rfl

end Configuration

namespace Settings

variable {env : Environment} {c : Configuration} {s : Settings}

def overridden (env : Environment) (c : Configuration) : Configuration :=
  { c.override env with metrics := (env.port? "METRICS_PORT").or c.metrics }

theorem ofConfiguration_eq (env : Environment) (c : Configuration) :
    ofConfiguration env c =
      match (overridden env c).fault? with
      | some fault => .error (.invalid fault)
      | none => .ok ⟨overridden env c⟩ := by
  unfold ofConfiguration overridden
  cases env.port? "METRICS_PORT" with
  | none => rfl
  | some port => rfl

theorem fault?_overridden (env : Environment) (c : Configuration) :
    (overridden env c).fault? = c.fault? :=
  c.fault?_override env

theorem ofConfiguration_eq_ok_iff :
    ofConfiguration env c = .ok s ↔ c.fault? = none ∧ s = ⟨overridden env c⟩ := by
  rw [ofConfiguration_eq, fault?_overridden]
  cases c.fault? with
  | none => simp [eq_comm]
  | some fault => simp

theorem floors_reach_listed_chains (env : Environment) (c : Configuration) :
    ((∃ s, ofConfiguration env c = .ok s) ↔ c.fault? = none) ∧
      ∀ s, ofConfiguration env c = .ok s →
        (∀ chain floor, env.Sets chain floor →
          ((s.gasOf chain).minGasPrice = some floor ↔ chain ∈ c.gas.keys)) ∧
        (∀ chain, chain ∉ c.gas.keys → s.gasOf chain = .evmDefault) ∧
        (∀ chain, (∀ floor, ¬ env.Sets chain floor) → s.gasOf chain = c.gasOf chain) ∧
        (∀ chain, s.gasOf chain =
          { c.gasOf chain with minGasPrice := (s.gasOf chain).minGasPrice }) ∧
        s.config.gas.keys = c.gas.keys ∧
        s.config = { c with gas := s.config.gas, metrics := s.config.metrics } := by
  constructor
  · constructor
    · rintro ⟨s, hs⟩
      exact (ofConfiguration_eq_ok_iff.1 hs).1
    · intro hfault
      exact ⟨_, ofConfiguration_eq_ok_iff.2 ⟨hfault, rfl⟩⟩
  · intro s hs
    obtain ⟨-, rfl⟩ := ofConfiguration_eq_ok_iff.1 hs
    exact ⟨fun chain floor => Configuration.minGasPrice_override_iff,
      fun chain => Configuration.gasOf_override_of_unlisted,
      fun chain => Configuration.gasOf_override_of_unset, c.gasOf_override_frame env,
      c.keys_override env, rfl⟩

theorem own_floor_wins_over_common :
    let env : Environment := [("DEFAULT_MIN_GAS_PRICE", "7"), ("POLYGON_MIN_GAS_PRICE", "0x9")]
    ∃ s, ofConfiguration env .production = .ok s ∧
      (env.Sets "polygon" 9 ∧ (s.gasOf "polygon").minGasPrice = some 9) ∧
      env.Sets "ethereum" 7 ∧ (s.gasOf "ethereum").minGasPrice = some 7 := by
  intro env
  have hnine : Numeral.amount? "0x9" = some 9 := by decide
  have hseven : Numeral.amount? "7" = some 7 := by decide
  have hpolygon : env.Sets "polygon" 9 := .own (by decide +kernel) hnine
  have hethereum : env.Sets "ethereum" 7 := .common (by decide +kernel) (by decide +kernel) hseven
  obtain ⟨hsucceeds, hreaches⟩ := floors_reach_listed_chains env .production
  obtain ⟨s, hs⟩ := hsucceeds.2 (by decide +kernel)
  obtain ⟨hfloor, -⟩ := hreaches s hs
  exact ⟨s, hs, ⟨hpolygon, (hfloor "polygon" 9 hpolygon).2 (by decide +kernel)⟩,
    hethereum, (hfloor "ethereum" 7 hethereum).2 (by decide +kernel)⟩

theorem unlisted_chain_gets_no_floor :
    let env : Environment := [("DEFAULT_MIN_GAS_PRICE", "7")]
    env.Sets "goerli" 7 ∧ ∃ s, ofConfiguration env .production = .ok s ∧
      (s.gasOf "goerli").minGasPrice = none := by
  intro env
  have hseven : Numeral.amount? "7" = some 7 := by decide
  have hset : env.Sets "goerli" 7 := .common (by decide +kernel) (by decide +kernel) hseven
  have hvalid : Configuration.production.fault? = none := by decide +kernel
  exact ⟨hset, ⟨overridden env .production⟩, ofConfiguration_eq_ok_iff.2 ⟨hvalid, rfl⟩,
    by decide +kernel⟩

end Settings

end BondedRelay
