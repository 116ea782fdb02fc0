import TypeExchange.Builtin
import TypeExchange.Proofs.Pattern
import TypeExchange.Proofs.Table.Opposite

/-! The rules of the built-in table that read value types and those that store values. A few types
have rules of their own, which the rules for lists of any kind and for any name follow. -/
namespace TypeExchange

theorem Converter.call_ne (function code : String) (context : Option String) :
    (Converter.call function).convert code context ≠ code := by
  intro h
  have hl := congrArg String.length h
  simp only [Converter.call, String.length_append] at hl
  have hp : "(".length = 1 := rfl
  omega

namespace Builtin

open Regex

/-- The value types that have rules of their own. -/
def ownTypes : List String := [
  "Bytes", "Boolean", "Int", "Int8", "BigInt", "ID", "String", "BigDecimal",
  "[Bytes]", "[Boolean]", "[Int]", "[BigInt]", "[ID]", "[String]", "[BigDecimal]"]

/-- Their patterns. -/
def ownPatterns : List Pattern := (valueToRuntimeRules.take 14).map (·.source)

theorem accepts_idOrString {name : String} {valid} :
    (re "^\\[(ID|String)\\]$" valid).accepts name = true ↔ name = "[ID]" ∨ name = "[String]" := by
  have hp : (re "^\\[(ID|String)\\]$" valid).plain? =
      some (word ['['] (.seq (choice "ID".toList ["String".toList]) (word [']'] .empty))) :=
    Pattern.plain?_ofValid (by decide +kernel)
  simp [Pattern.accepts_iff_mem_language hp, mem_language_word, language, Language.mem_mul,
    mem_language_choice, ← String.toList_inj]

theorem mem_ownTypes {p : Pattern} (hp : p ∈ ownPatterns) {name : String}
    (h : p.accepts name = true) : name ∈ ownTypes := by
  have hplain : ∀ p ∈ ownPatterns, p = re "^\\[(ID|String)\\]$" ∨
      ∃ known ∈ ownTypes, p.plain? = some (word known.toList .empty) := by decide +kernel
  rcases hplain p hp with rfl | ⟨known, hk, hw⟩
  · rcases accepts_idOrString.mp h with rfl | rfl <;> decide
  · rwa [(Pattern.accepts_iff_eq hw).mp h]

/-- The rules that come first are of no use to other types. -/
theorem find?_drop_own {rules : List Rule} {side : Side} {n : Nat}
    (h : ∀ r ∈ rules.take n, r.pattern side ∈ ownPatterns) {name : String}
    (hn : name ∉ ownTypes) : rules.find? (·.accepts side name) =
      (rules.drop n).find? (·.accepts side name) := by
  have hnone : (rules.take n).find? (·.accepts side name) = none := by
    rw [List.find?_eq_none]
    intro r hr ha
    exact hn (mem_ownTypes (h r hr) ha)
  rw [← List.take_append_drop n rules, List.find?_append, hnone, Option.none_or,
    List.take_append_drop]

theorem find?_of_findIdx? {rules : List Rule} {side : Side} {name : String} {i : Nat} {r : Rule}
    (h : rules.findIdx? (·.accepts side name) = some i) (hr : rules[i]? = some r) :
    rules.find? (·.accepts side name) = some r := by
  rw [List.find?_eq_bind_findIdx?_getElem?, h, Option.bind_some, hr]

theorem listForm_valid : (Regex.ofText "^\\[.+\\]$").isOk = true := by decide +kernel

theorem anyName_valid : (Regex.ofText ".+").isOk = true := by decide +kernel

def listForm : Pattern := re "^\\[.+\\]$" listForm_valid

def anyName : Pattern := re ".+" anyName_valid

def storedStrings : Rule :=
  ⟨lit "Array<string>", listForm, .call "Value.fromStringArray", some "new Array(0)"⟩

/-- The rule that stores a value as it is. -/
def unwrapped : Rule := ⟨lit "Value", anyName, .identity, some "Value.fromNull()"⟩

/-- How a type without rules of its own is read. -/
theorem find?_read_of_not_own {name : String} (h : name ∉ ownTypes) :
    valueToRuntimeRules.find? (·.accepts .source name) =
      if listForm.accepts name then
        some ⟨listForm, lit "Array<string>", .method "toStringArray", none⟩
      else if anyName.accepts name then some ⟨anyName, lit "string", .method "toString", none⟩
      else none := by
  have hown : ∀ r ∈ valueToRuntimeRules.take 14, r.pattern .source ∈ ownPatterns := by
    intro r hr
    exact List.mem_map_of_mem hr
  have hd : valueToRuntimeRules.drop 14 =
      [⟨listForm, lit "Array<string>", .method "toStringArray", none⟩,
        ⟨anyName, lit "string", .method "toString", none⟩] := rfl
  rw [find?_drop_own hown h, hd]
  cases hl : listForm.accepts name <;> cases ha : anyName.accepts name <;>
    simp [Rule.accepts, Rule.pattern, hl, ha]

theorem oppositeType_of_not_own {name : String} (h : name ∉ ownTypes) :
    oppositeType valueToRuntimeRules .source name =
      if listForm.accepts name then some "Array<string>"
      else if anyName.accepts name then some "string" else none := by
  rw [oppositeType, find?_read_of_not_own h]
  split_ifs <;> rfl

/-- How it is stored. -/
theorem find?_of_not_own {name : String} (h : name ∉ ownTypes) :
    runtimeToValueRules.find? (·.accepts .target name) =
      if listForm.accepts name then some storedStrings
      else if anyName.accepts name then some unwrapped else none := by
  have hown : ∀ r ∈ runtimeToValueRules.take 13, r.pattern .target ∈ ownPatterns := by
    decide +kernel
  have hd : runtimeToValueRules.drop 13 = [storedStrings,
      ⟨re "^Array<.+>$", listForm, .call "Value.fromArray", some "new Array(0)"⟩, unwrapped] := rfl
  rw [find?_drop_own hown h, hd]
  cases hl : listForm.accepts name <;> cases ha : anyName.accepts name <;>
    simp [Rule.accepts, Rule.pattern, hl, ha, storedStrings, unwrapped]

/-- Whether a value type is read as a string without a rule that stores strings as it. -/
def IsUnwrapped (valueType runtimeType : String) : Prop :=
  runtimeType = "string" ∧ valueType ≠ "String"

instance (v r : String) : Decidable (IsUnwrapped v r) := inferInstanceAs (Decidable (_ ∧ _))

theorem own_stored : ∀ v ∈ ownTypes, ∀ r ∈ oppositeType valueToRuntimeRules .source v,
    ∃ i < runtimeToValueRules.length,
      runtimeToValueRules.findIdx? (·.accepts .source r) = some i ∧
      runtimeToValueRules.findIdx? (·.accepts .target v) =
        some (if IsUnwrapped v r then 15 else i) := by
  decide +kernel

theorem find?_string : runtimeToValueRules.find? (·.accepts .source "string") =
    some ⟨lit "string", lit "String", .call "Value.fromString", some "''"⟩ :=
  find?_of_findIdx? (i := 6) (by decide +kernel) rfl

/-- The rule that stores a value as one of its type is the rule that stores one of the runtime type
it is read as, or leaves it as it is. -/
theorem stored {v r : String} (h : oppositeType valueToRuntimeRules .source v = some r) :
    ∃ rule, runtimeToValueRules.find? (·.accepts .source r) = some rule ∧
      runtimeToValueRules.find? (·.accepts .target v) =
        some (if IsUnwrapped v r then unwrapped else rule) := by
  by_cases hv : v ∈ ownTypes
  · obtain ⟨i, hi, hs, ht⟩ := own_stored v hv r h
    have hrule := List.getElem?_eq_getElem hi
    refine ⟨_, find?_of_findIdx? hs hrule, find?_of_findIdx? ht ?_⟩
    split_ifs
    · rfl
    · exact hrule
  · have hstring : v ≠ "String" := fun he => hv (he ▸ by decide)
    rw [oppositeType_of_not_own hv] at h
    rw [find?_of_not_own hv]
    split_ifs at h with hl ha
    · obtain rfl := Option.some.inj h
      have hnot : ¬IsUnwrapped v "Array<string>" := fun hu => absurd hu.1 (by decide)
      rw [if_pos hl]
      exact ⟨storedStrings, find?_of_findIdx? (i := 13) (by decide +kernel) rfl,
        by rw [if_neg hnot]⟩
    · obtain rfl := Option.some.inj h
      have hu : IsUnwrapped v "string" := ⟨rfl, hstring⟩
      rw [if_neg hl, if_pos ha]
      exact ⟨_, find?_string, by rw [if_pos hu]⟩

end Builtin

namespace Table

/-- A value is stored as one of its type by the code that stores it as one of the runtime type it
is read as, unless it is read as a string and is not of the type `String`: such a value, an
identifier or a reference, is stored as it is. -/
theorem builtin_stored_iff {valueType runtimeType : String}
    (h : builtin.runtimeTypeForValue valueType = .ok runtimeType) (code : String) :
    (∃ stored, builtin.convertForward runtimeToValue code runtimeType none = .ok stored) ∧
    (builtin.valueCodeFromRuntime code valueType =
        builtin.convertForward runtimeToValue code runtimeType none ↔
      ¬Builtin.IsUnwrapped valueType runtimeType) ∧
    (Builtin.IsUnwrapped valueType runtimeType →
      builtin.valueCodeFromRuntime code valueType = .ok code) := by
  have hread : builtin.rules valueToRuntime = .ok Builtin.valueToRuntimeRules := rfl
  have hwrite : builtin.rules runtimeToValue = .ok Builtin.runtimeToValueRules := rfl
  obtain ⟨r, hs, ht⟩ := Builtin.stored ((typeFor_eq_ok_iff hread).mp h)
  have hforward := convertForward_of_find? hwrite hs code none
  have hback : builtin.valueCodeFromRuntime code valueType = _ :=
    convertBackward_of_find? hwrite ht code
  rw [hforward, hback]
  refine ⟨⟨_, rfl⟩, ?_, ?_⟩
  · constructor
    · intro he hu
      obtain ⟨rfl, -⟩ := id hu
      obtain rfl := Option.some.inj (Builtin.find?_string.symm.trans hs)
      rw [if_pos hu] at he
      exact Converter.call_ne "Value.fromString" code none (Except.ok.inj he).symm
    · intro hu
      rw [if_neg hu]
  · intro hu
    rw [if_pos hu]
    rfl

theorem builtin_stored_iff_reference :
    builtin.runtimeTypeForValue "[Token]" = .ok "Array<string>" ∧
    builtin.valueCodeFromRuntime "x" "[Token]" =
      builtin.convertForward runtimeToValue "x" "Array<string>" none := by
  have h : builtin.runtimeTypeForValue "[Token]" = .ok "Array<string>" := by decide +kernel
  exact ⟨h, (builtin_stored_iff h "x").2.1.mpr (by decide)⟩

/-- Identifiers are read as strings but are not stored as strings. -/
theorem builtin_stored_identifier :
    builtin.runtimeTypeForValue "ID" = .ok "string" ∧
    builtin.valueCodeFromRuntime "x" "ID" = .ok "x" ∧
    builtin.valueCodeFromRuntime "x" "ID" ≠
      builtin.convertForward runtimeToValue "x" "string" none := by
  decide +kernel

end Table
end TypeExchange
