import TypeExchange.Proofs.Builtin.AbiGrammar
import TypeExchange.Proofs.Builtin.ListTypes

/-! How arrays of ABI types are read. The type and the method for an array are those for its
elements, lifted to arrays, and the elements are no arrays themselves. -/
namespace TypeExchange

namespace AbiBase

/-- How the type of the elements is written where they stand alone. -/
def spelling (b : AbiBase) : String := AbiType.spelling ⟨b, none⟩

/-- What the method that reads a value is called after. -/
def reader (b : AbiBase) : String :=
  match b.stem with
  | .address => "Address"
  | .bool => "Boolean"
  | .byte | .bytes => "Bytes"
  | .string => "String"
  | .tuple => "Tuple"
  | .int | .uint => if b.fitsI32 then "I32" else "BigInt"

/-- How a value is read. The class of a tuple is a matter of the context. -/
def converter (b : AbiBase) : Converter :=
  if b.stem = .tuple then .tuple else .method ("to" ++ b.reader)

def arrayConverter (b : AbiBase) : Converter :=
  if b.stem = .tuple then .tupleArray else .method ("to" ++ b.reader ++ "Array")

end AbiBase

def AbiType.converter (t : AbiType) : Converter :=
  match t.length with
  | none => t.base.converter
  | some _ => t.base.arrayConverter

namespace Builtin

/-- The name of the arrays of an ABI type. -/
def abiArrayOf (element : String) (length : Digits) : String :=
  element ++ "[" ++ String.ofList length.chars ++ "]"

/-- Whether a name is that of arrays of something. -/
def IsAbiArray (name : String) : Prop := ∃ element length, name = abiArrayOf element length

theorem toList_abiArrayOf (element : String) (length : Digits) :
    (abiArrayOf element length).toList = element.toList ++ '[' :: (length.chars ++ [']']) := by
  simp [abiArrayOf]

theorem spelling_array (b : AbiBase) (length : Digits) :
    AbiType.spelling ⟨b, some length⟩ = abiArrayOf b.spelling length := by
  rw [← String.toList_inj, toList_abiArrayOf]
  simp [AbiBase.spelling, AbiType.spelling, AbiType.chars, AbiType.suffix]

theorem toList_spelling (b : AbiBase) : b.spelling.toList = b.chars := by
  simp [AbiBase.spelling, AbiType.spelling, AbiType.chars, AbiType.suffix]

theorem count_bracket_base (b : AbiBase) : b.chars.count '[' = 0 := by
  rw [List.count_eq_zero]
  intro h
  have := b.ne_bracket '[' h
  contradiction

theorem count_bracket_le (t : AbiType) : t.chars.count '[' ≤ 1 := by
  obtain ⟨b, _ | length⟩ := t
  · simp [AbiType.chars, AbiType.suffix, count_bracket_base]
  · have hd : length.chars.count '[' = 0 := by
      rw [List.count_eq_zero]
      intro h
      have := length.decimal '[' h
      contradiction
    simp [AbiType.chars, AbiType.suffix, count_bracket_base, hd]

theorem bracket_mem_of_isAbiArray {name : String} (h : IsAbiArray name) : '[' ∈ name.toList := by
  obtain ⟨element, length, rfl⟩ := h
  simp [toList_abiArrayOf]

theorem not_isAbiArray_spelling (b : AbiBase) : ¬IsAbiArray b.spelling := by
  intro h
  have hb := bracket_mem_of_isAbiArray h
  rw [toList_spelling] at hb
  have := b.ne_bracket '[' hb
  contradiction

/-- A type that is written as no array is one without a length. -/
theorem exists_base {t : AbiType} (h : ¬IsAbiArray t.spelling) :
    ∃ b : AbiBase, t = ⟨b, none⟩ := by
  obtain ⟨b, _ | length⟩ := t
  · exact ⟨b, rfl⟩
  · exact absurd ⟨b.spelling, length, spelling_array b length⟩ h

/-- No type is written as an array of arrays. -/
theorem abiArrayOf_abiArrayOf_ne (element : String) (length outer : Digits) (t : AbiType) :
    abiArrayOf (abiArrayOf element length) outer ≠ t.spelling := by
  intro h
  have hc := count_bracket_le t
  rw [← eq_spelling_iff.mp h, toList_abiArrayOf, toList_abiArrayOf] at hc
  simp only [List.count_append, List.count_cons_self] at hc
  omega

theorem spelling_eq_tuple_iff {b : AbiBase} : b.spelling = "tuple" ↔ b.stem = .tuple := by
  have htuple : "tuple" = AbiBase.spelling ⟨.tuple, ⟨[], by simp⟩, rfl⟩ := by decide
  constructor
  · intro h
    rw [htuple, ← String.toList_inj, toList_spelling, toList_spelling] at h
    rw [AbiBase.eq_of_chars h]
  · obtain ⟨stem, size, sized⟩ := b
    rintro rfl
    have hsize : size.chars = [] := sized
    simp [← String.toList_inj, toList_spelling, AbiBase.chars, hsize, AbiStem.letters]

/-- The runtime type of elements is none of arrays. -/
theorem runtimeName_ne_arrayOf (b : AbiBase) (type : String) : b.runtimeName ≠ arrayOf type := by
  have hb : '<' ∉ b.runtimeName.toList := by
    unfold AbiBase.runtimeName
    cases b.fitsI32 <;> cases b.stem <;> decide
  intro h
  rw [h] at hb
  exact hb (by simp [arrayOf])

theorem converter_spelling (t : AbiType) :
    (abiToRuntimeRules.find? (·.accepts .source t.spelling)).map (·.converter) =
      some t.converter := by
  rw [find?_spelling abiToRuntime_names t]
  obtain ⟨⟨stem, size, sized⟩, length⟩ := t
  by_cases h : size.chars ∈ stem.narrow
  all_goals
    cases stem with
    | int | uint =>
      cases length <;>
        simp [abiToRuntimeRules, abiToRuntimeKinds, scalar, array, ofStem, integer, anySize, h,
          AbiType.converter, AbiBase.converter, AbiBase.arrayConverter, AbiBase.reader,
          AbiBase.fitsI32]
    | _ => cases length <;> rfl

end Builtin

namespace Table

open Builtin

theorem runtimeCodeFromAbi_spelling (t : AbiType) (code : String) (context : Option String) :
    builtin.runtimeCodeFromAbi code t.spelling context =
      .ok (t.converter.convert code context) := by
  have hrules : builtin.rules abiToRuntime = .ok abiToRuntimeRules := rfl
  obtain ⟨r, hr, hc⟩ := Option.map_eq_some_iff.mp (converter_spelling t)
  rw [← hc]
  exact convertForward_of_find? hrules hr code context

theorem runtimeTypeForAbi_spelling (t : AbiType) :
    builtin.runtimeTypeForAbi t.spelling = .ok t.runtimeName := by
  have hrules : builtin.rules abiToRuntime = .ok abiToRuntimeRules := rfl
  exact (typeFor_eq_ok_iff hrules).mpr (oppositeType_spelling t)

theorem runtimeTypeForAbi_of_ne_spelling {name : String} (h : ∀ t : AbiType, name ≠ t.spelling) :
    builtin.runtimeTypeForAbi name = .error (.noMatch abiToRuntime name .source) := by
  have hrules : builtin.rules abiToRuntime = .ok abiToRuntimeRules := rfl
  apply (typeFor_eq_noMatch_iff hrules).mpr
  rw [oppositeType, find?_eq_none_of_ne_spelling abiToRuntime_names h, Option.map_none]

/-- The arrays of an ABI type are read like its values, one by one. Only the class of tuples depends
on the context. -/
structure ReadsArraysOf (t : Table) (element type : String) : Prop where
  type : ∀ length, t.runtimeTypeForAbi (abiArrayOf element length) = .ok (arrayOf type)
  code : element ≠ "tuple" → ∃ reader, ∀ code context,
    t.runtimeCodeFromAbi code element context = .ok (code ++ ".to" ++ reader ++ "()") ∧
    ∀ length, t.runtimeCodeFromAbi code (abiArrayOf element length) context =
      .ok (code ++ ".to" ++ reader ++ "Array()")
  tuple : element = "tuple" → ∀ code context,
    t.runtimeCodeFromAbi code element context =
      .ok ("changetype<" ++ context.getD "ethereum.Tuple" ++ ">(" ++ code ++ ".toTuple())") ∧
    ∀ length, t.runtimeCodeFromAbi code (abiArrayOf element length) context =
      .ok (code ++ ".toTupleArray<" ++ context.getD "ethereum.Tuple" ++ ">()")

theorem runtimeCodeFromAbi_base (b : AbiBase) (code : String) (context : Option String) :
    builtin.runtimeCodeFromAbi code b.spelling context = .ok (b.converter.convert code context) :=
  runtimeCodeFromAbi_spelling ⟨b, none⟩ code context

theorem runtimeCodeFromAbi_array (b : AbiBase) (length : Digits) (code : String)
    (context : Option String) :
    builtin.runtimeCodeFromAbi code (abiArrayOf b.spelling length) context =
      .ok (b.arrayConverter.convert code context) := by
  rw [← spelling_array]
  exact runtimeCodeFromAbi_spelling ⟨b, some length⟩ code context

theorem readsArraysOf_base (b : AbiBase) :
    builtin.ReadsArraysOf b.spelling b.runtimeName where
  type := by
    intro length
    rw [← spelling_array]
    exact runtimeTypeForAbi_spelling ⟨b, some length⟩
  code := by
    intro hne
    have hstem : b.stem ≠ .tuple := fun h => hne (spelling_eq_tuple_iff.mpr h)
    refine ⟨b.reader, fun code context => ⟨?_, fun length => ?_⟩⟩
    · rw [runtimeCodeFromAbi_base, AbiBase.converter, if_neg hstem]
      simp [Converter.method, ← String.toList_inj]
    · rw [runtimeCodeFromAbi_array, AbiBase.arrayConverter, if_neg hstem]
      simp [Converter.method, ← String.toList_inj]
  tuple := by
    intro he code context
    have hstem := spelling_eq_tuple_iff.mp he
    refine ⟨?_, fun length => ?_⟩
    · rw [runtimeCodeFromAbi_base, AbiBase.converter, if_pos hstem]
      rfl
    · rw [runtimeCodeFromAbi_array, AbiBase.arrayConverter, if_pos hstem]
      rfl

/-- The array of a type that is no array is read as the array of the runtime type of its elements,
by the method for such arrays, or as an array of tuples of the class that the context names. Only
such types are read as arrays, and there are no arrays of arrays. -/
theorem builtin_abi_arrays_lift :
    (∀ element type, builtin.runtimeTypeForAbi element = .ok type → ¬IsAbiArray element →
      builtin.ReadsArraysOf element type) ∧
    (∀ name type, builtin.runtimeTypeForAbi name = .ok (arrayOf type) →
      ∃ element length, name = abiArrayOf element length ∧ ¬IsAbiArray element ∧
        builtin.runtimeTypeForAbi element = .ok type) ∧
    (∀ element length outer,
      builtin.runtimeTypeForAbi (abiArrayOf (abiArrayOf element length) outer) =
        .error (.noMatch abiToRuntime (abiArrayOf (abiArrayOf element length) outer) .source)) := by
  have hspelled : ∀ name type, builtin.runtimeTypeForAbi name = .ok type →
      ∃ t : AbiType, name = t.spelling ∧ type = t.runtimeName := by
    intro name type h
    by_cases hn : ∃ t : AbiType, name = t.spelling
    · obtain ⟨t, rfl⟩ := hn
      rw [runtimeTypeForAbi_spelling] at h
      exact ⟨t, rfl, (Except.ok.inj h).symm⟩
    · rw [runtimeTypeForAbi_of_ne_spelling (not_exists.mp hn)] at h
      contradiction
  refine ⟨?_, ?_, ?_⟩
  · intro element type h hscalar
    obtain ⟨t, rfl, rfl⟩ := hspelled element type h
    obtain ⟨b, rfl⟩ := exists_base hscalar
    exact readsArraysOf_base b
  · intro name type h
    obtain ⟨⟨b, _ | length⟩, rfl, ht⟩ := hspelled name _ h
    · exact absurd ht.symm (runtimeName_ne_arrayOf b type)
    · refine ⟨b.spelling, length, spelling_array b length, not_isAbiArray_spelling b, ?_⟩
      have he : b.runtimeName = type := by
        simpa [AbiType.runtimeName, arrayOf, ← String.toList_inj] using ht.symm
      rw [← he]
      exact runtimeTypeForAbi_spelling ⟨b, none⟩
  · intro element length outer
    exact runtimeTypeForAbi_of_ne_spelling (abiArrayOf_abiArrayOf_ne element length outer)

end Table
end TypeExchange
