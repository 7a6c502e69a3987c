import BondedRelay.Form.Config
import BondedRelay.Proofs.Json.Text
import BondedRelay.Proofs.Table

namespace BondedRelay

open Json

namespace Json

theorem min_toNat_of_le {w : Nat} (hw : w ≤ 64) (n : Uint w) :
    min n.toNat (Uint.limit 64 - 1) = n.toNat := by
  have hlt : n.toNat < Uint.limit 64 := Nat.lt_of_lt_of_le n.isLt (Uint.limit_le_limit hw)
  omega

@[simp]
theorem asUint_ofUint {w : Nat} (hw : w ≤ 64) (n : Uint w) : asUint w (ofUint n) = some n := by
  simp [ofUint, ofNat, asUint, min_toNat_of_le hw]

@[simp]
theorem asLenient_ofUint {w : Nat} (hw : w ≤ 64) (n : Uint w) :
    asLenient w (ofUint n) = some n := by
  simp [ofUint, ofNat, asLenient, lenientUint, numberWith, min_toNat_of_le hw, Except.toOption]

theorem nullable_null {α : Type} (read : Json → Option α) : nullable read .null = some none := rfl

theorem nullable_ofUint {α : Type} {w : Nat} (read : Json → Option α) (n : Uint w) :
    nullable read (ofUint n) = (read (ofUint n)).map some := rfl

@[simp]
theorem asLenientAmount_amount (n : Amount) : asLenientAmount (amount n) = some n := by
  simp [amount, asLenientAmount, lenientAmount, numberWith, Numeral.amount?_ofNat, Except.toOption]

@[simp]
theorem asLenientAmount?_amount (n : Amount) : asLenientAmount? (amount n) = some (some n) := by
  simp [amount, asLenientAmount?, lenientAmount?, lenientAmount, numberWith, Numeral.amount?_ofNat,
    Except.toOption, Except.map]

@[simp]
theorem asFullHex_fullHex {w : Nat} (hw : 8 ∣ w) (n : Uint w) :
    asFullHex w (fullHex n) = some n := by
  obtain ⟨k, rfl⟩ := hw
  have hlength : (Hex.digits (Bytes.ofUint n)).length = 8 * k / 4 := by
    rw [Hex.length_digits, Bytes.length_ofUint]
    omega
  have hbytes : Bytes.toNat (Bytes.ofUint n) = n.toNat := Bytes.toNat_ofUint ⟨k, rfl⟩ n
  simp [fullHex, asFullHex, Hex.ofUint, Hex.ofBytes, Hex.toSpacedUint?, Hex.unmarked, hlength,
    Hex.spacedBytes?_digits, Bytes.length_ofUint, hbytes]

end Json

namespace PodPolicy

theorem ofJson?_toJson (p : PodPolicy) : ofJson? p.toJson = some p := by
  cases p with
  | fixed pod => simp [toJson, ofJson?, variant?]
  | random => rfl

theorem isExact_toJson (p : PodPolicy) : p.toJson.isExact = true := by
  cases p <;> rfl

end PodPolicy

namespace AfterFallbacks

theorem ofJson?_toJson (a : AfterFallbacks) : ofJson? a.toJson = some a := by
  cases a <;> rfl

theorem isExact_toJson (a : AfterFallbacks) : a.toJson.isExact = true := by
  cases a <;> rfl

end AfterFallbacks

namespace Protocol

theorem ofJson?_toJson (p : Protocol) : ofJson? p.toJson = some p := by
  simp [toJson, ofJson?, record?, fieldNames, valuesNamed, required, withDefault, encode, decode,
    PodPolicy.ofJson?_toJson, AfterFallbacks.ofJson?_toJson]

theorem isExact_toJson (p : Protocol) : p.toJson.isExact = true := by
  simp [toJson, isExact, haveExact, ofUint, ofNat, amount, encode, PodPolicy.isExact_toJson,
    AfterFallbacks.isExact_toJson]

end Protocol

namespace GasConfig

theorem ofJson?_toJson (g : GasConfig) : ofJson? g.toJson = some g := by
  obtain ⟨allowance, gas, price, fee, floor⟩ := g
  cases floor with
  | none => simp [toJson, ofJson?, record?, fieldNames, valuesNamed, required, withDefault]
  | some floor => simp [toJson, ofJson?, record?, fieldNames, valuesNamed, required, withDefault]

theorem isExact_toJson (g : GasConfig) : g.toJson.isExact = true := by
  obtain ⟨allowance, gas, price, fee, floor⟩ := g
  cases floor <;> rfl

theorem ofEntry?_toJson (g : GasConfig) : ofEntry? g.toJson = some g := g.ofJson?_toJson

theorem entriesOfJson?_map (entries : List (String × GasConfig)) :
    entriesOfJson? (entries.map fun e => (e.1, encode e.2)) = some entries := by
  induction entries with
  | nil => rfl
  | cons e rest ih =>
      have hentry : ofEntry? (encode e.2) = some e.2 := e.2.ofEntry?_toJson
      simp only [List.map_cons, entriesOfJson?, hentry, ih]

theorem mapOfJson?_mapToJson (t : Table String GasConfig) :
    mapOfJson? (mapToJson t) = some (.ofList t.entries) := by
  simp [mapToJson, mapOfJson?, entriesOfJson?_map]

theorem isExact_mapToJson (t : Table String GasConfig) : (mapToJson t).isExact = true := by
  simp [mapToJson, isExact, haveExact_eq_all, encode, isExact_toJson]

end GasConfig

namespace RetryConfig

theorem ofJson?_toJson (r : RetryConfig) : ofJson? r.toJson = some r := by
  simp [toJson, ofJson?, record?, fieldNames, valuesNamed, required]

theorem isExact_toJson (r : RetryConfig) : r.toJson.isExact = true := rfl

end RetryConfig

namespace LogConfig

theorem ofJson?_toJson (l : LogConfig) : ofJson? l.toJson = some l := by
  simp [toJson, ofJson?, record?, fieldNames, valuesNamed, withDefault, bareName?, variant?, isBare,
    LogStyle.ofName_name, LogLevel.ofName_name]

theorem isExact_toJson (l : LogConfig) : l.toJson.isExact = true := rfl

end LogConfig

namespace OperatorConfig

theorem mem_podSet {pods : List (Uint 32)} {pod : Uint 32} : pod ∈ podSet pods ↔ pod ∈ pods := by
  simp [podSet, List.mem_eraseDups]

theorem asList_map_ofUint (pods : List (Uint 32)) :
    asList (asUint 32) (.array (pods.map ofUint)) = some pods := by
  induction pods with
  | nil => rfl
  | cons pod rest ih =>
      rw [asList] at ih
      simp only [asList, List.map_cons, List.mapM_cons, ih, asUint_ofUint (by decide : 32 ≤ 64)]
      rfl

theorem nullable_pods (pods : List (Uint 32)) :
    nullable (asList (asUint 32)) (.array (pods.map ofUint)) = some (some pods) := by
  rw [nullable, asList_map_ofUint]
  · rfl
  · intro h
    cases h

theorem ofJson?_toJson (o : OperatorConfig) :
    ofJson? o.toJson = some { o with pods := o.pods.map podSet } := by
  obtain ⟨operator, interval, asFallback, pods⟩ := o
  cases pods with
  | none =>
      simp [toJson, ofJson?, record?, fieldNames, valuesNamed, required, withDefault, podsToJson,
        nullable, asBool]
  | some pods =>
      simp [toJson, ofJson?, record?, fieldNames, valuesNamed, required, withDefault, podsToJson,
        nullable_pods, asBool]

theorem nullable_toJson (o : OperatorConfig) :
    nullable decode o.toJson = some (some { o with pods := o.pods.map podSet }) := by
  rw [nullable, show decode o.toJson = _ from o.ofJson?_toJson]
  · rfl
  · intro h
    cases h

theorem isExact_toJson (o : OperatorConfig) : o.toJson.isExact = true := by
  obtain ⟨operator, interval, asFallback, pods⟩ := o
  cases pods with
  | none => rfl
  | some pods =>
      simp [toJson, isExact, haveExact, fullHex, ofUint, ofNat, podsToJson, areExact_eq_all]

structure Agrees (o o' : OperatorConfig) : Prop where
  fields : o' = { o with pods := o'.pods }
  pods : Option.Rel (fun pods pods' => ∀ pod, pod ∈ pods' ↔ pod ∈ pods) o.pods o'.pods

theorem agrees_podSet (o : OperatorConfig) : o.Agrees { o with pods := o.pods.map podSet } := by
  refine ⟨rfl, ?_⟩
  obtain ⟨operator, interval, asFallback, pods⟩ := o
  cases pods with
  | none => exact .none
  | some pods => exact .some fun pod => mem_podSet

end OperatorConfig

namespace Configuration

structure Agrees (c c' : Configuration) : Prop where
  fields : c' = { c with gas := c'.gas, operator := c'.operator }
  gas : ∀ chain, c'.gas.find? chain = c.gas.find? chain
  operator : Option.Rel OperatorConfig.Agrees c.operator c'.operator

def readBack (c : Configuration) : Configuration :=
  { c with
    gas := .ofList c.gas.entries
    operator := c.operator.map fun o => { o with pods := o.pods.map OperatorConfig.podSet } }

theorem agrees_readBack (c : Configuration) : c.Agrees c.readBack := by
  refine ⟨rfl, fun chain => Table.find?_ofList c.gas chain, ?_⟩
  unfold readBack
  cases c.operator with
  | none => exact .none
  | some o => exact .some o.agrees_podSet

theorem ofJson?_toJson (c : Configuration) : ofJson? c.toJson = some c.readBack := by
  obtain ⟨version, environment, protocol, gas, retry, logging, metrics, operator⟩ := c
  have hprotocol : decode protocol.toJson = some protocol := protocol.ofJson?_toJson
  have hretry : decode retry.toJson = some retry := retry.ofJson?_toJson
  have hlogging : decode logging.toJson = some logging := logging.ofJson?_toJson
  cases metrics <;> cases operator <;>
    simp [toJson, ofJson?, readBack, record?, fieldNames, valuesNamed, required, withDefault,
      asString, encode, hprotocol, hretry, hlogging, GasConfig.mapOfJson?_mapToJson,
      nullable_null, nullable_ofUint, OperatorConfig.nullable_toJson]

theorem isExact_toJson (c : Configuration) : c.toJson.isExact = true := by
  obtain ⟨version, environment, protocol, gas, retry, logging, metrics, operator⟩ := c
  cases metrics <;> cases operator <;>
    simp [toJson, isExact, haveExact, ofUint, ofNat, encode, Protocol.isExact_toJson,
      GasConfig.isExact_mapToJson, RetryConfig.isExact_toJson, LogConfig.isExact_toJson,
      OperatorConfig.isExact_toJson]

theorem written_configuration_reads_back (c : Configuration) :
    ∃ c', document ofJson? c.toJson.render = .ok c' ∧ ofJson? c.toJson = some c' ∧ c.Agrees c' := by
  have hread := c.ofJson?_toJson
  exact ⟨c.readBack, document_render c.isExact_toJson hread, hread, c.agrees_readBack⟩

end Configuration

end BondedRelay
