import TypeExchange.Builtin
import TypeExchange.Proofs.Pattern
import TypeExchange.Proofs.Table.Operations
import TypeExchange.Proofs.Table.Opposite

/-! The rules of the built-in table that read ABI types and those that write them. They divide the
types differently, but into runs that cover the same types. -/
namespace TypeExchange

namespace Builtin

open Regex

def digits : Regex := .times (.chars (.range '0' '9')) 1 none

/-- What makes the type of an array out of that of its elements. -/
def arraySuffix : Regex := word ['['] (.seq (.optional digits) (word [']'] .empty))

theorem bytes_names (name : String) {v w} :
    [lit "byte", re "^bytes([0-9]+)?$" v].any (·.accepts name) =
      [lit "bytes", lit "byte", re "^bytes[0-9]+$" w].any (·.accepts name) := by
  have h : (re "^bytes([0-9]+)?$" v).accepts name =
      ((lit "bytes").accepts name || (re "^bytes[0-9]+$" w).accepts name) :=
    Pattern.accepts_eq_or (Pattern.plain?_ofValid (by decide +kernel)) (by decide +kernel)
      (Pattern.plain?_ofValid (by decide +kernel))
      (language_word_optional_seq "bytes".toList digits .empty) name
  simp only [List.any_cons, List.any_nil, Bool.or_false, h]
  exact Bool.or_left_comm _ _ _

theorem int_names (name : String) {u v w} :
    [re "^u?int[0-9]+$" u].any (·.accepts name) =
      [re "^uint[0-9]+$" v, re "^int[0-9]+$" w].any (·.accepts name) := by
  have h : (re "^u?int[0-9]+$" u).accepts name =
      ((re "^int[0-9]+$" w).accepts name || (re "^uint[0-9]+$" v).accepts name) :=
    Pattern.accepts_eq_or (Pattern.plain?_ofValid (by decide +kernel))
      (Pattern.plain?_ofValid (by decide +kernel)) (Pattern.plain?_ofValid (by decide +kernel))
      (language_optional_seq (.chars (.single 'u')) (word "int".toList (.seq digits .empty))) name
  simp only [List.any_cons, List.any_nil, Bool.or_false, h]
  exact Bool.or_comm _ _

theorem bytesArray_names (name : String) {u v w} :
    [re "^bytes([0-9]+)?\\[([0-9]+)?\\]$" u].any (·.accepts name) =
      [re "^bytes\\[([0-9]+)?\\]$" v, re "^bytes[0-9]+\\[([0-9]+)?\\]$" w].any
        (·.accepts name) := by
  have h : (re "^bytes([0-9]+)?\\[([0-9]+)?\\]$" u).accepts name =
      ((re "^bytes\\[([0-9]+)?\\]$" v).accepts name ||
        (re "^bytes[0-9]+\\[([0-9]+)?\\]$" w).accepts name) :=
    Pattern.accepts_eq_or (Pattern.plain?_ofValid (by decide +kernel))
      (Pattern.plain?_ofValid (by decide +kernel)) (Pattern.plain?_ofValid (by decide +kernel))
      (language_word_optional_seq "bytes".toList digits arraySuffix) name
  simp only [List.any_cons, List.any_nil, Bool.or_false, h]

theorem intArray_names (name : String) {u v w} :
    [re "^u?int[0-9]+\\[([0-9]+)?\\]$" u].any (·.accepts name) =
      [re "^uint[0-9]+\\[([0-9]+)?\\]$" v, re "^int[0-9]+\\[([0-9]+)?\\]$" w].any
        (·.accepts name) := by
  have h : (re "^u?int[0-9]+\\[([0-9]+)?\\]$" u).accepts name =
      ((re "^int[0-9]+\\[([0-9]+)?\\]$" w).accepts name ||
        (re "^uint[0-9]+\\[([0-9]+)?\\]$" v).accepts name) :=
    Pattern.accepts_eq_or (Pattern.plain?_ofValid (by decide +kernel))
      (Pattern.plain?_ofValid (by decide +kernel)) (Pattern.plain?_ofValid (by decide +kernel))
      (language_optional_seq (.chars (.single 'u')) (word "int".toList (.seq digits arraySuffix)))
      name
  simp only [List.any_cons, List.any_nil, Bool.or_false, h]
  exact Bool.or_comm _ _

/-- The rules that read a type and those that write it name one runtime type. -/
theorem oppositeType_abi :
    oppositeType abiToRuntimeRules .source = oppositeType runtimeToAbiRules .target := by
  unfold abiToRuntimeRules runtimeToAbiRules
  refine oppositeType_cons rfl rfl ?_
  refine oppositeType_cons rfl rfl ?_
  apply oppositeType_runs [_, _] [_, _, _]
  · apply oppositeType_run "Bytes" (by decide +kernel) (by decide +kernel)
    intro name
    simp only [List.map_cons, List.map_nil, Rule.pattern]
    exact bytes_names name
  refine oppositeType_cons rfl rfl ?_
  refine oppositeType_cons rfl rfl ?_
  apply oppositeType_runs [_] [_, _]
  · apply oppositeType_run "BigInt" (by decide +kernel) (by decide +kernel)
    intro name
    simp only [List.map_cons, List.map_nil, Rule.pattern]
    exact int_names name
  refine oppositeType_cons rfl rfl ?_
  refine oppositeType_cons rfl rfl ?_
  refine oppositeType_cons rfl rfl ?_
  refine oppositeType_cons rfl rfl ?_
  apply oppositeType_runs [_] [_, _]
  · apply oppositeType_run "Array<Bytes>" (by decide +kernel) (by decide +kernel)
    intro name
    simp only [List.map_cons, List.map_nil, Rule.pattern]
    exact bytesArray_names name
  refine oppositeType_cons rfl rfl ?_
  refine oppositeType_cons rfl rfl ?_
  apply oppositeType_runs [_] [_, _]
  · apply oppositeType_run "Array<BigInt>" (by decide +kernel) (by decide +kernel)
    intro name
    simp only [List.map_cons, List.map_nil, Rule.pattern]
    exact intArray_names name
  refine oppositeType_cons rfl rfl ?_
  refine oppositeType_cons rfl rfl ?_
  exact oppositeType_cons rfl rfl rfl

end Builtin

namespace Table

/-- On every name, the built-in table reads an ABI type just where it writes it, with one runtime
type; where it does neither, both directions fail for want of a match. -/
theorem builtin_abi_agree (name : String) :
    ((∃ r, builtin.resolveBySource abiToRuntime name = .ok r) ↔
      ∃ r, builtin.resolveByTarget runtimeToAbi name = .ok r) ∧
    ((∃ r, builtin.resolveBySource abiToRuntime name = .ok r) →
      ∃ d, builtin.findToType runtimeToAbi name = .ok d ∧
        builtin.runtimeTypeForAbi name = .ok d.source.typeName) ∧
    ((¬∃ r, builtin.resolveBySource abiToRuntime name = .ok r) →
      builtin.resolveBySource abiToRuntime name = .error (.noMatch abiToRuntime name .source) ∧
      builtin.resolveByTarget runtimeToAbi name = .error (.noMatch runtimeToAbi name .target) ∧
      builtin.runtimeTypeForAbi name = .error (.noMatch abiToRuntime name .source) ∧
      builtin.findToType runtimeToAbi name = .error (.noMatch runtimeToAbi name .target)) := by
  have hread : builtin.rules abiToRuntime = .ok Builtin.abiToRuntimeRules := rfl
  have hwrite : builtin.rules runtimeToAbi = .ok Builtin.runtimeToAbiRules := rfl
  unfold resolveBySource resolveByTarget runtimeTypeForAbi
  rw [findToType_eq, typeFor_eq]
  rcases resolve_opposite hread hwrite Builtin.oppositeType_abi name with
    ⟨r, w, hr, hw, ht⟩ | ⟨hr, hw⟩
  · rw [hr, hw]
    refine ⟨⟨fun _ => ⟨w, rfl⟩, fun _ => ⟨r, rfl⟩⟩, ?_, fun h => absurd ⟨r, rfl⟩ h⟩
    intro _
    exact ⟨_, rfl, congrArg Except.ok ht⟩
  · rw [hr, hw]
    refine ⟨⟨?_, ?_⟩, ?_, fun _ => ⟨rfl, rfl, rfl, rfl⟩⟩
    · rintro ⟨r, h⟩
      contradiction
    · rintro ⟨w, h⟩
      contradiction
    · rintro ⟨r, h⟩
      contradiction

end Table
end TypeExchange
