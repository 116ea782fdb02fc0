import TypeExchange.Proofs.Builtin.AbiArrays

/-! How values of ABI types are written. An array is written by the constructor for arrays of what
its elements are written by, except that of the unsigned integers that fit into 32 bits. -/
namespace TypeExchange

namespace AbiBase

/-- Whether the values are unsigned integers that a runtime integer of 32 bits holds. -/
def isNarrowUnsigned (b : AbiBase) : Bool := b.stem == .uint && b.fitsI32

/-- What the constructor of a value is called after. -/
def kind (b : AbiBase) : String :=
  match b.stem with
  | .address => "Address"
  | .bool => "Boolean"
  | .byte => "FixedBytes"
  | .bytes => if b.size.chars = [] then "Bytes" else "FixedBytes"
  | .string => "String"
  | .tuple => "Tuple"
  | .int => if b.fitsI32 then "I32" else "SignedBigInt"
  | .uint => "UnsignedBigInt"

/-- What the constructor of an array is called after. -/
def arrayKind (b : AbiBase) : String :=
  if b.isNarrowUnsigned then "I32Array" else b.kind ++ "Array"

/-- How a value is written. Narrow unsigned integers are widened first. -/
def writer (b : AbiBase) : Converter :=
  if b.isNarrowUnsigned then Builtin.unsignedFromI32
  else .call ("ethereum.Value.from" ++ b.kind)

end AbiBase

def AbiType.writer (t : AbiType) : Converter :=
  match t.length with
  | none => t.base.writer
  | some _ => .call ("ethereum.Value.from" ++ t.base.arrayKind)

namespace Builtin

open Regex

def unsized : List Char → Bool := fun size => size.isEmpty

def sized : List Char → Bool := fun size => !size.isEmpty

theorem spells_unsized {s : AbiStem} (h : s.Takes []) :
    Spells (word s.letters.toList) (ofStem s unsized) := by
  intro rest w
  rw [mem_language_word]
  simp only [ofStem, unsized, Bool.and_eq_true, beq_iff_eq, List.isEmpty_iff]
  constructor
  · rintro ⟨v, hv, rfl⟩
    exact ⟨⟨s, ⟨[], by simp⟩, h⟩, ⟨rfl, rfl⟩, v, hv, by simp [AbiBase.chars]⟩
  · rintro ⟨b, ⟨rfl, hz⟩, v, hv, rfl⟩
    exact ⟨v, hv, by simp [AbiBase.chars, hz]⟩

theorem spells_sizedBytes :
    Spells (fun rest => word "bytes".toList (.seq digits rest)) (ofStem .bytes sized) :=
  spells_sized (s := .bytes) fun size => by
    simp [AbiStem.Takes, sized, mem_language_digits, and_comm]

/-- The kinds of types that the rules write. -/
def runtimeToAbiKinds : List (AbiType → Bool) := [
  scalar (ofStem .address anySize),
  scalar (ofStem .bool anySize),
  scalar (ofStem .bytes unsized),
  scalar (ofStem .byte anySize),
  scalar (ofStem .bytes sized),
  scalar (ofStem .int (narrowSize .int)),
  scalar (ofStem .uint (narrowSize .uint)),
  scalar (ofStem .uint anySize),
  scalar (ofStem .int anySize),
  scalar (ofStem .string anySize),
  array (ofStem .address anySize),
  array (ofStem .bool anySize),
  array (ofStem .byte anySize),
  array (ofStem .bytes unsized),
  array (ofStem .bytes sized),
  array (ofStem .int (narrowSize .int)),
  array (ofStem .uint (narrowSize .uint)),
  array (ofStem .uint anySize),
  array (ofStem .int anySize),
  array (ofStem .string anySize),
  scalar (ofStem .tuple anySize),
  array (ofStem .tuple anySize)]

theorem runtimeToAbi_names :
    List.Forall₂ (fun r k => Names (Rule.pattern r .target) k) runtimeToAbiRules
      runtimeToAbiKinds := by
  have haddress := spells_stem (s := .address) fun _ => Iff.rfl
  have hbool := spells_stem (s := .bool) fun _ => Iff.rfl
  have hbyte := spells_stem (s := .byte) fun _ => Iff.rfl
  have hstring := spells_stem (s := .string) fun _ => Iff.rfl
  have htuple := spells_stem (s := .tuple) fun _ => Iff.rfl
  have hbytes := spells_unsized (s := .bytes) trivial
  have hnarrow : Spells _ (ofStem .int (narrowSize .int)) :=
    spells_choice (fun _ h => h) (by decide)
  have hnarrowUnsigned : Spells _ (ofStem .uint (narrowSize .uint)) :=
    spells_choice (fun _ h => h) (by decide)
  have hint := spells_digits (s := .int) fun _ => Iff.rfl
  have huint := spells_digits (s := .uint) fun _ => Iff.rfl
  apply List.forall₂_map_left_iff.mp
  simp only [runtimeToAbiRules, runtimeToAbiKinds, List.map_cons, List.map_nil, Rule.pattern]
  refine .cons (names_scalar haddress rfl) ?_
  refine .cons (names_scalar hbool rfl) ?_
  refine .cons (names_scalar hbytes rfl) ?_
  refine .cons (names_scalar hbyte rfl) ?_
  refine .cons (names_scalar spells_sizedBytes (Pattern.plain?_ofValid (by decide +kernel))) ?_
  refine .cons (names_scalar hnarrow (Pattern.plain?_ofValid (by decide +kernel))) ?_
  refine .cons (names_scalar hnarrowUnsigned (Pattern.plain?_ofValid (by decide +kernel))) ?_
  refine .cons (names_scalar huint (Pattern.plain?_ofValid (by decide +kernel))) ?_
  refine .cons (names_scalar hint (Pattern.plain?_ofValid (by decide +kernel))) ?_
  refine .cons (names_scalar hstring rfl) ?_
  refine .cons (names_array haddress (Pattern.plain?_ofValid (by decide +kernel))) ?_
  refine .cons (names_array hbool (Pattern.plain?_ofValid (by decide +kernel))) ?_
  refine .cons (names_array hbyte (Pattern.plain?_ofValid (by decide +kernel))) ?_
  refine .cons (names_array hbytes (Pattern.plain?_ofValid (by decide +kernel))) ?_
  refine .cons (names_array spells_sizedBytes (Pattern.plain?_ofValid (by decide +kernel))) ?_
  refine .cons (names_array hnarrow (Pattern.plain?_ofValid (by decide +kernel))) ?_
  refine .cons (names_array hnarrowUnsigned (Pattern.plain?_ofValid (by decide +kernel))) ?_
  refine .cons (names_array huint (Pattern.plain?_ofValid (by decide +kernel))) ?_
  refine .cons (names_array hint (Pattern.plain?_ofValid (by decide +kernel))) ?_
  refine .cons (names_array hstring (Pattern.plain?_ofValid (by decide +kernel))) ?_
  refine .cons (names_scalar htuple rfl) ?_
  exact .cons (names_array htuple (Pattern.plain?_ofValid (by decide +kernel))) .nil

theorem writer_spelling (t : AbiType) :
    (runtimeToAbiRules.find? (·.accepts .target t.spelling)).map (·.converter) =
      some t.writer := by
  rw [find?_spelling runtimeToAbi_names t]
  obtain ⟨⟨stem, size, hsize⟩, length⟩ := t
  cases stem with
  | int =>
    by_cases h : size.chars ∈ AbiStem.int.narrow <;> cases length <;>
      simp [runtimeToAbiRules, runtimeToAbiKinds, scalar, array, ofStem, anySize, narrowSize, h,
        AbiType.writer, AbiBase.writer, AbiBase.arrayKind, AbiBase.kind,
        AbiBase.isNarrowUnsigned, AbiBase.fitsI32]
  | uint =>
    by_cases h : size.chars ∈ AbiStem.uint.narrow <;> cases length <;>
      simp [runtimeToAbiRules, runtimeToAbiKinds, scalar, array, ofStem, anySize, narrowSize, h,
        AbiType.writer, AbiBase.writer, AbiBase.arrayKind, AbiBase.kind,
        AbiBase.isNarrowUnsigned, AbiBase.fitsI32]
  | bytes =>
    by_cases h : size.chars = [] <;> cases length <;>
      simp [runtimeToAbiRules, runtimeToAbiKinds, scalar, array, ofStem, unsized, sized, h,
        AbiType.writer, AbiBase.writer, AbiBase.arrayKind, AbiBase.kind,
        AbiBase.isNarrowUnsigned]
  | _ => cases length <;> rfl

/-- Code that makes an ABI value by the constructor of this kind. -/
def ConstructedBy (code kind : String) : Prop :=
  '(' ∉ kind.toList ∧ ∃ argument, code = "ethereum.Value.from" ++ kind ++ "(" ++ argument ++ ")"

theorem ConstructedBy.unique {code kind kind' : String} (h : ConstructedBy code kind)
    (h' : ConstructedBy code kind') : kind = kind' := by
  obtain ⟨hk, argument, rfl⟩ := h
  obtain ⟨hk', argument', he⟩ := h'
  have hne : ∀ cs : List Char, '(' ∉ cs → ∀ c ∈ cs, (c != '(') = true := by
    intro cs hcs c hc
    rw [bne_iff_ne]
    rintro rfl
    exact hcs hc
  have he : kind.toList ++ '(' :: (argument.toList ++ [')']) =
      kind'.toList ++ '(' :: (argument'.toList ++ [')']) := by
    simpa [← String.toList_inj] using he
  exact String.toList_inj.mp (append_unique (hne _ hk) (hne _ hk') (by simp) (by simp) he).1

theorem constructedBy_call {kind : String} (h : '(' ∉ kind.toList) (code : String) :
    ConstructedBy ((Converter.call ("ethereum.Value.from" ++ kind)).convert code none) kind :=
  ⟨h, code, rfl⟩

theorem not_mem_kind (b : AbiBase) : '(' ∉ b.kind.toList := by
  unfold AbiBase.kind
  by_cases h : b.size.chars = []
  · simp only [h, if_true]
    cases b.fitsI32 <;> cases b.stem <;> decide
  · simp only [h, if_false]
    cases b.fitsI32 <;> cases b.stem <;> decide

theorem kind_of_isNarrowUnsigned {b : AbiBase} (h : b.isNarrowUnsigned = true) :
    b.kind = "UnsignedBigInt" := by
  rw [AbiBase.isNarrowUnsigned, Bool.and_eq_true, beq_iff_eq] at h
  rw [AbiBase.kind, h.1]

theorem constructedBy_writer (b : AbiBase) (code : String) :
    ConstructedBy (b.writer.convert code none) b.kind := by
  unfold AbiBase.writer
  split
  next h =>
    rw [kind_of_isNarrowUnsigned h]
    refine ⟨by decide, "BigInt.fromI32(" ++ code ++ ")", ?_⟩
    have hopening : "ethereum.Value.fromUnsignedBigInt(BigInt.fromI32(" =
      "ethereum.Value.from" ++ "UnsignedBigInt" ++ "(" ++ "BigInt.fromI32(" := by simp
    have hclosing : "))" = ")" ++ ")" := by simp
    unfold unsignedFromI32
    rw [hopening, hclosing]
    simp only [String.append_assoc]
  next => exact constructedBy_call (not_mem_kind b) code

theorem constructedBy_arrayWriter (b : AbiBase) (code : String) :
    ConstructedBy ((Converter.call ("ethereum.Value.from" ++ b.arrayKind)).convert code none)
      b.arrayKind := by
  apply constructedBy_call
  unfold AbiBase.arrayKind
  split
  next => decide
  next =>
    rw [String.toList_append, List.mem_append]
    rintro (h | h)
    · exact not_mem_kind b h
    · exact absurd h (by decide)

theorem arrayKind_eq_iff {b : AbiBase} :
    b.arrayKind = b.kind ++ "Array" ↔ b.isNarrowUnsigned = false := by
  unfold AbiBase.arrayKind
  cases h : b.isNarrowUnsigned with
  | true =>
    rw [kind_of_isNarrowUnsigned h]
    decide
  | false => simp

/-- The unsigned integers that a runtime integer of 32 bits holds. -/
def narrowUnsigned : List String := ["uint8", "uint16", "uint24"]

theorem exists_isNarrowUnsigned : ∀ name ∈ narrowUnsigned,
    ∃ b : AbiBase, name = b.spelling ∧ b.isNarrowUnsigned = true := by
  simp only [narrowUnsigned, List.forall_mem_cons, List.not_mem_nil, false_implies, implies_true,
    and_true]
  exact ⟨⟨⟨.uint, ⟨['8'], by simp⟩, List.cons_ne_nil _ _⟩, by decide, by decide⟩,
    ⟨⟨.uint, ⟨['1', '6'], by simp⟩, List.cons_ne_nil _ _⟩, by decide, by decide⟩,
    ⟨⟨.uint, ⟨['2', '4'], by simp⟩, List.cons_ne_nil _ _⟩, by decide, by decide⟩⟩

theorem spelling_mem_narrowUnsigned {b : AbiBase} :
    b.spelling ∈ narrowUnsigned ↔ b.isNarrowUnsigned = true := by
  constructor
  · intro h
    obtain ⟨c, he, hc⟩ := exists_isNarrowUnsigned _ h
    rw [← String.toList_inj, toList_spelling, toList_spelling] at he
    rwa [AbiBase.eq_of_chars he]
  · obtain ⟨stem, size, hsize⟩ := b
    intro h
    rw [AbiBase.isNarrowUnsigned, Bool.and_eq_true, beq_iff_eq] at h
    obtain ⟨rfl, hfits⟩ := h
    have hmem : size.chars ∈ AbiStem.uint.narrow := of_decide_eq_true hfits
    have hnames : ∀ cs ∈ AbiStem.uint.narrow,
        String.ofList ("uint".toList ++ cs) ∈ narrowUnsigned := by decide
    have hspelling : AbiBase.spelling ⟨.uint, size, hsize⟩ =
        String.ofList ("uint".toList ++ size.chars) := by
      rw [← String.toList_inj, toList_spelling, String.toList_ofList]
      rfl
    rw [hspelling]
    exact hnames _ hmem

theorem stem_of_integer {b : AbiBase} {s : AbiStem} (hs : s = .uint ∨ s = .int) {size : String}
    (h : b.spelling = s.letters ++ size) : b.stem = s := by
  have hhead := congrArg (fun name => name.toList.head?) h
  simp only [toList_spelling, String.toList_append] at hhead
  revert hhead
  rcases hs with rfl | rfl <;> cases hb : b.stem <;> simp [AbiBase.chars, hb, AbiStem.letters]

end Builtin

namespace Table

open Builtin

theorem abiCodeFromRuntime_spelling (t : AbiType) (code : String) :
    builtin.abiCodeFromRuntime code t.spelling = .ok (t.writer.convert code none) := by
  have hrules : builtin.rules runtimeToAbi = .ok runtimeToAbiRules := rfl
  obtain ⟨r, hr, hc⟩ := Option.map_eq_some_iff.mp (writer_spelling t)
  rw [← hc]
  exact convertBackward_of_find? hrules hr code

theorem exists_spelling_of_resolveByTarget {name : String} {r : Rule}
    (h : builtin.resolveByTarget runtimeToAbi name = .ok r) :
    ∃ t : AbiType, name = t.spelling := by
  have hrules : builtin.rules runtimeToAbi = .ok runtimeToAbiRules := rfl
  by_contra hn
  have hnone := find?_eq_none_of_ne_spelling runtimeToAbi_names (not_exists.mp hn)
  rw [resolveByTarget, (resolve_eq_noMatch_iff hrules).mpr hnone] at h
  contradiction

/-- An array of ABI values is written by the constructor of arrays of what one value is written by,
except an array of the unsigned integers that fit into 32 bits: it is written as one of signed
integers, though one such integer alone is written as an unsigned one. -/
theorem builtin_abi_arrays_written {element : String}
    (h : ∃ r, builtin.resolveByTarget runtimeToAbi element = .ok r) (hs : ¬IsAbiArray element) :
    ∃ kind,
      (∀ code, ∃ scalar, builtin.abiCodeFromRuntime code element = .ok scalar ∧
        ∀ k, ConstructedBy scalar k ↔ k = kind) ∧
      (∀ length code, ∃ array,
        builtin.abiCodeFromRuntime code (abiArrayOf element length) = .ok array ∧
        (ConstructedBy array (kind ++ "Array") ↔ element ∉ narrowUnsigned) ∧
        (element ∈ narrowUnsigned → ConstructedBy array "I32Array")) ∧
      (∀ size, element = "uint" ++ size → kind = "UnsignedBigInt") ∧
      (∀ size, element = "int" ++ size → kind = "I32" ∨ kind = "SignedBigInt") := by
  obtain ⟨r, hr⟩ := h
  obtain ⟨t, rfl⟩ := exists_spelling_of_resolveByTarget hr
  obtain ⟨b, rfl⟩ := exists_base hs
  refine ⟨b.kind, ?_, ?_, ?_, ?_⟩
  · intro code
    refine ⟨_, abiCodeFromRuntime_spelling ⟨b, none⟩ code, fun k => ?_⟩
    constructor
    · intro hk
      exact hk.unique (constructedBy_writer b code)
    · rintro rfl
      exact constructedBy_writer b code
  · intro length code
    have harray := constructedBy_arrayWriter b code
    have hwritten := abiCodeFromRuntime_spelling ⟨b, some length⟩ code
    rw [spelling_array] at hwritten
    refine ⟨_, hwritten, ?_, ?_⟩
    · rw [← AbiBase.spelling, spelling_mem_narrowUnsigned, Bool.not_eq_true, ← arrayKind_eq_iff]
      constructor
      · intro hk
        exact harray.unique hk
      · intro he
        rw [← he]
        exact harray
    · intro hn
      have hk : b.arrayKind = "I32Array" := if_pos (spelling_mem_narrowUnsigned.mp hn)
      rw [← hk]
      exact harray
  · intro size he
    rw [AbiBase.kind, stem_of_integer (.inl rfl) he]
  · intro size he
    rw [AbiBase.kind, stem_of_integer (.inr rfl) he]
    cases b.fitsI32
    · exact .inr rfl
    · exact .inl rfl

theorem builtin_abi_arrays_written_int64 :
    ((∃ r, builtin.resolveByTarget runtimeToAbi "int64" = .ok r) ∧ ¬IsAbiArray "int64") ∧
    ∀ length, ∃ array, builtin.abiCodeFromRuntime "x" (abiArrayOf "int64" length) = .ok array ∧
      ConstructedBy array "SignedBigIntArray" := by
  have hrules : builtin.rules runtimeToAbi = .ok runtimeToAbiRules := rfl
  have hfound : ∃ r, runtimeToAbiRules.find? (·.accepts .target "int64") = some r :=
    Option.isSome_iff_exists.mp (by decide +kernel)
  have h : ∃ r, builtin.resolveByTarget runtimeToAbi "int64" = .ok r := by
    obtain ⟨r, hr⟩ := hfound
    exact ⟨r, (resolve_eq_ok_iff hrules).mpr hr⟩
  have hs : ¬IsAbiArray "int64" := fun h => absurd (bracket_mem_of_isAbiArray h) (by decide)
  refine ⟨⟨h, hs⟩, fun length => ?_⟩
  obtain ⟨kind, hscalar, harray, -, -⟩ := builtin_abi_arrays_written h hs
  obtain ⟨scalar, hcode, hkind⟩ := hscalar "x"
  have hknown : builtin.abiCodeFromRuntime "x" "int64" =
      .ok "ethereum.Value.fromSignedBigInt(x)" := by decide +kernel
  obtain rfl := Except.ok.inj (hcode.symm.trans hknown)
  obtain rfl := (hkind "SignedBigInt").mp ⟨by decide, "x", by simp⟩
  obtain ⟨array, hwritten, hk, -⟩ := harray length "x"
  exact ⟨array, hwritten, hk.mpr (by decide)⟩

/-- One unsigned integer of 8 bits is written as an unsigned one, an array of them is not. -/
theorem builtin_abi_arrays_written_uint8 :
    builtin.abiCodeFromRuntime "x" "uint8" =
      .ok "ethereum.Value.fromUnsignedBigInt(BigInt.fromI32(x))" ∧
    ConstructedBy "ethereum.Value.fromUnsignedBigInt(BigInt.fromI32(x))" "UnsignedBigInt" ∧
    builtin.abiCodeFromRuntime "x" "uint8[]" = .ok "ethereum.Value.fromI32Array(x)" ∧
    ¬ConstructedBy "ethereum.Value.fromI32Array(x)" "UnsignedBigIntArray" := by
  refine ⟨by decide +kernel, ⟨by decide, "BigInt.fromI32(x)", by simp⟩, by decide +kernel, ?_⟩
  intro h
  have hsigned : ConstructedBy "ethereum.Value.fromI32Array(x)" "I32Array" :=
    ⟨by decide, "x", by simp⟩
  exact absurd (hsigned.unique h) (by decide)

end Table
end TypeExchange
