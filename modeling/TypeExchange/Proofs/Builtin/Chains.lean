import TypeExchange.Builtin
import TypeExchange.Proofs.Table.Opposite

/-! Lookups in the built-in table that go on from the runtime type of another lookup. Every runtime
type that an ABI type or a value type is read as is written again, and all but the tuple are stored
and have an initial value. -/
namespace TypeExchange

/-- A runtime type is stored as a value type, and has an initial value: the rule that is found for
it converts an argument of its own, which is not empty. -/
structure Table.Stores (t : Table) (runtimeType : String) : Prop where
  valueType : ∃ type, t.valueTypeForRuntime runtimeType = .ok type
  initial : ∃ r argument, t.resolveBySource runtimeToValue runtimeType = .ok r ∧
    r.init = some argument ∧ argument ≠ "" ∧
    t.initialValueFromRuntime runtimeType = .ok (r.converter.convert argument none)

namespace Builtin

/-- The runtime types that the rules of a list name. -/
def runtimeTypes (rules : List Rule) : List String := rules.map (·.target.text)

theorem mem_runtimeTypes {rules : List Rule} {name type : String}
    (h : oppositeType rules .source name = some type) : type ∈ runtimeTypes rules := by
  obtain ⟨r, hr, -, ht⟩ := exists_rule_of_oppositeType h
  exact List.mem_map.mpr ⟨r, hr, ht⟩

/-- Only the name of a tuple is read as one. -/
theorem eq_tuple {name : String}
    (h : oppositeType abiToRuntimeRules .source name = some Converter.tupleClass) :
    name = "tuple" := by
  have hrules : ∀ r ∈ abiToRuntimeRules, r.target.text = Converter.tupleClass →
      r.source = .literal "tuple" := by decide +kernel
  obtain ⟨r, hr, ha, ht⟩ := exists_rule_of_oppositeType h
  rw [Rule.accepts, Rule.pattern, hrules r hr ht, Pattern.accepts, beq_iff_eq] at ha
  exact ha.symm

theorem oppositeType_tuple :
    oppositeType abiToRuntimeRules .source "tuple" = some Converter.tupleClass := by
  decide +kernel

theorem written : ∀ type ∈ runtimeTypes abiToRuntimeRules,
    ∃ abiType, oppositeType runtimeToAbiRules .source type = some abiType := by
  simp only [← Option.isSome_iff_exists]
  decide +kernel

theorem storing_of_abi : ∀ type ∈ runtimeTypes abiToRuntimeRules, type ≠ Converter.tupleClass →
    ∃ r, runtimeToValueRules.find? (·.accepts .source type) = some r := by
  simp only [← Option.isSome_iff_exists]
  decide +kernel

theorem storing_of_value : ∀ type ∈ runtimeTypes valueToRuntimeRules,
    ∃ r, runtimeToValueRules.find? (·.accepts .source type) = some r := by
  simp only [← Option.isSome_iff_exists]
  decide +kernel

theorem storing_tuple :
    runtimeToValueRules.find? (·.accepts .source Converter.tupleClass) = none := by
  rw [List.find?_eq_none]
  decide +kernel

/-- Every rule that stores a value has an argument for the initial one. -/
theorem exists_argument {r : Rule} (hr : r ∈ runtimeToValueRules) :
    ∃ argument, r.init = some argument ∧ argument ≠ "" := by
  have h : ∀ r ∈ runtimeToValueRules, ∃ argument ∈ r.init, argument ≠ "" := by decide +kernel
  exact h r hr

end Builtin

namespace Table

theorem initializedValue_of_find? {t : Table} {pair : SystemPair} {rules : List Rule}
    {name : String} (h : t.rules pair = .ok rules) {r : Rule}
    (hr : rules.find? (·.accepts .source name) = some r) {argument : String}
    (hi : r.init = some argument) :
    t.initializedValue pair name = .ok (r.converter.convert argument none) := by
  rw [initializedValue_eq, (resolve_eq_ok_iff h).mpr hr, ok_map, hi, Option.getD_some]

theorem builtin_stores {type : String} {r : Rule}
    (hr : Builtin.runtimeToValueRules.find? (·.accepts .source type) = some r) :
    builtin.Stores type := by
  have hrules : builtin.rules runtimeToValue = .ok Builtin.runtimeToValueRules := rfl
  obtain ⟨argument, hi, hne⟩ := Builtin.exists_argument (List.mem_of_find?_eq_some hr)
  have hfound := (resolve_eq_ok_iff hrules).mpr hr
  constructor
  · refine ⟨r.target.text, ?_⟩
    rw [valueTypeForRuntime, typeFor_eq, hfound, ok_map]
  · exact ⟨r, argument, hfound, hi, hne, initializedValue_of_find? hrules hr hi⟩

/-- The runtime type that a name is read as is found by the lookups that go on from it. Of the ABI
types only the tuple is neither stored nor initialized; the arrays of tuples are. -/
theorem builtin_chains_closed (name : String) :
    (∀ runtimeType, builtin.runtimeTypeForAbi name = .ok runtimeType →
      (∃ abiType, builtin.abiTypeForRuntime runtimeType = .ok abiType) ∧
      (name ≠ "tuple" → builtin.Stores runtimeType) ∧
      (name = "tuple" →
        builtin.valueTypeForRuntime runtimeType =
          .error (.noMatch runtimeToValue "ethereum.Tuple" .source) ∧
        builtin.initialValueFromRuntime runtimeType =
          .error (.noMatch runtimeToValue "ethereum.Tuple" .source))) ∧
    (∀ runtimeType, builtin.runtimeTypeForValue name = .ok runtimeType →
      builtin.Stores runtimeType) := by
  have hread : builtin.rules abiToRuntime = .ok Builtin.abiToRuntimeRules := rfl
  have hwrite : builtin.rules runtimeToAbi = .ok Builtin.runtimeToAbiRules := rfl
  have hvalue : builtin.rules valueToRuntime = .ok Builtin.valueToRuntimeRules := rfl
  have hstore : builtin.rules runtimeToValue = .ok Builtin.runtimeToValueRules := rfl
  constructor
  · intro runtimeType h
    have h := (typeFor_eq_ok_iff hread).mp h
    have hmem := Builtin.mem_runtimeTypes h
    refine ⟨?_, ?_, ?_⟩
    · obtain ⟨abiType, ha⟩ := Builtin.written runtimeType hmem
      exact ⟨abiType, (typeFor_eq_ok_iff hwrite).mpr ha⟩
    · intro hname
      have hne : runtimeType ≠ Converter.tupleClass := by
        rintro rfl
        exact hname (Builtin.eq_tuple h)
      obtain ⟨r, hr⟩ := Builtin.storing_of_abi runtimeType hmem hne
      exact builtin_stores hr
    · rintro rfl
      obtain rfl : Converter.tupleClass = runtimeType :=
        Option.some.inj (Builtin.oppositeType_tuple.symm.trans h)
      have hnone := (resolve_eq_noMatch_iff hstore).mpr Builtin.storing_tuple
      constructor
      · rw [valueTypeForRuntime, typeFor_eq, hnone, error_map]
        rfl
      · rw [initialValueFromRuntime, initializedValue_eq, hnone, error_map]
        rfl
  · intro runtimeType h
    have h := (typeFor_eq_ok_iff hvalue).mp h
    obtain ⟨r, hr⟩ := Builtin.storing_of_value runtimeType (Builtin.mem_runtimeTypes h)
    exact builtin_stores hr

example : builtin.initialValueFromRuntime "Array<ethereum.Tuple>" =
    .ok "Value.fromArray(new Array(0))" := by decide +kernel

end Table
end TypeExchange
