import TypeExchange.Proofs.Builtin.AbiWriting
import TypeExchange.Proofs.Builtin.ValueRows
import TypeExchange.Proofs.Table.Narrowing

/-! The built-in table finds the narrowest rule. A few types stand for all: whatever is looked up,
the rules of a list treat it as they treat one of these. -/
namespace TypeExchange

/-- Types between which no rule tells a difference: their sizes and lengths may differ, but not
whether they have one, nor whether 32 bits are enough. -/
structure AbiBase.Alike (a b : AbiBase) : Prop where
  stem : a.stem = b.stem
  narrow : a.fitsI32 = b.fitsI32
  unsized : a.size.chars.isEmpty = b.size.chars.isEmpty

structure AbiType.Alike (t u : AbiType) : Prop where
  base : t.base.Alike u.base
  array : t.length.isSome = u.length.isSome

namespace Builtin

/-- A test that makes no difference between types that are alike. -/
def Respects (kind : AbiBase → Bool) : Prop := ∀ a b : AbiBase, a.Alike b → kind a = kind b

theorem respects_anySize (s : AbiStem) : Respects (ofStem s anySize) := by
  intro a b h
  simp only [ofStem, anySize, h.stem]

theorem respects_unsized (s : AbiStem) : Respects (ofStem s unsized) := by
  intro a b h
  simp only [ofStem, unsized, h.stem, h.unsized]

theorem respects_sized (s : AbiStem) : Respects (ofStem s sized) := by
  intro a b h
  simp only [ofStem, sized, h.stem, h.unsized]

theorem respects_narrow (s : AbiStem) : Respects (ofStem s (narrowSize s)) := by
  have hnarrow : ∀ a : AbiBase, ofStem s (narrowSize s) a = (a.stem == s && a.fitsI32) := by
    intro a
    cases hs : a.stem == s with
    | true =>
      obtain rfl := beq_iff_eq.mp hs
      simp [ofStem, narrowSize, AbiBase.fitsI32]
    | false => simp [ofStem, hs]
  intro a b h
  rw [hnarrow, hnarrow, h.stem, h.narrow]

theorem respects_integer : Respects integer := by
  intro a b h
  rw [integer, integer, respects_anySize .int a b h, respects_anySize .uint a b h]

theorem Respects.scalar {kind : AbiBase → Bool} (hk : Respects kind) {t u : AbiType}
    (h : t.Alike u) : scalar kind t = scalar kind u := by
  rw [Builtin.scalar, Builtin.scalar, hk _ _ h.base, ← Option.not_isSome, ← Option.not_isSome,
    h.array]

theorem Respects.array {kind : AbiBase → Bool} (hk : Respects kind) {t u : AbiType}
    (h : t.Alike u) : array kind t = array kind u := by
  rw [Builtin.array, Builtin.array, hk _ _ h.base, h.array]

theorem abiToRuntimeKinds_respect {t u : AbiType} (h : t.Alike u) :
    ∀ k ∈ abiToRuntimeKinds, k t = k u := by
  have hnarrow : ∀ s : AbiStem, Respects (ofStem s (· ∈ s.narrow)) := respects_narrow
  simp only [abiToRuntimeKinds, List.forall_mem_cons, List.not_mem_nil, false_implies,
    implies_true, and_true, (respects_anySize _).scalar h, (respects_anySize _).array h,
    (hnarrow _).scalar h, (hnarrow _).array h, respects_integer.scalar h, respects_integer.array h]

theorem runtimeToAbiKinds_respect {t u : AbiType} (h : t.Alike u) :
    ∀ k ∈ runtimeToAbiKinds, k t = k u := by
  simp only [runtimeToAbiKinds, List.forall_mem_cons, List.not_mem_nil, false_implies,
    implies_true, and_true, (respects_anySize _).scalar h, (respects_anySize _).array h,
    (respects_narrow _).scalar h, (respects_narrow _).array h, (respects_unsized _).scalar h,
    (respects_unsized _).array h, (respects_sized _).scalar h, (respects_sized _).array h]

/-- A base type of each stem, of the integers a narrow and a wide one, and bytes with and without
a size. -/
def sampleBases : List AbiBase := [
  ⟨.address, ⟨[], by simp⟩, rfl⟩,
  ⟨.bool, ⟨[], by simp⟩, rfl⟩,
  ⟨.byte, ⟨[], by simp⟩, rfl⟩,
  ⟨.string, ⟨[], by simp⟩, rfl⟩,
  ⟨.tuple, ⟨[], by simp⟩, rfl⟩,
  ⟨.bytes, ⟨[], by simp⟩, trivial⟩,
  ⟨.bytes, ⟨['4'], by simp⟩, trivial⟩,
  ⟨.int, ⟨['8'], by simp⟩, List.cons_ne_nil _ _⟩,
  ⟨.int, ⟨['6', '4'], by simp⟩, List.cons_ne_nil _ _⟩,
  ⟨.uint, ⟨['8'], by simp⟩, List.cons_ne_nil _ _⟩,
  ⟨.uint, ⟨['6', '4'], by simp⟩, List.cons_ne_nil _ _⟩]

def sampleTypes : List AbiType :=
  sampleBases.flatMap fun b => [⟨b, none⟩, ⟨b, some ⟨[], by simp⟩⟩]

theorem exists_sampleBase (a : AbiBase) : ∃ b ∈ sampleBases, a.Alike b := by
  obtain ⟨stem, size, hsize⟩ := a
  have hempty : size.chars = [] → size.chars.isEmpty = true := List.isEmpty_iff.mpr
  have hsized : size.chars ≠ [] → size.chars.isEmpty = false := List.isEmpty_eq_false_iff.mpr
  cases stem with
  | address => exact ⟨_, List.mem_of_getElem? (i := 0) rfl, rfl, rfl, hempty hsize⟩
  | bool => exact ⟨_, List.mem_of_getElem? (i := 1) rfl, rfl, rfl, hempty hsize⟩
  | byte => exact ⟨_, List.mem_of_getElem? (i := 2) rfl, rfl, rfl, hempty hsize⟩
  | string => exact ⟨_, List.mem_of_getElem? (i := 3) rfl, rfl, rfl, hempty hsize⟩
  | tuple => exact ⟨_, List.mem_of_getElem? (i := 4) rfl, rfl, rfl, hempty hsize⟩
  | bytes =>
    by_cases h : size.chars = []
    · exact ⟨_, List.mem_of_getElem? (i := 5) rfl, rfl, rfl, hempty h⟩
    · exact ⟨_, List.mem_of_getElem? (i := 6) rfl, rfl, rfl, hsized h⟩
  | int =>
    by_cases h : size.chars ∈ AbiStem.int.narrow
    · exact ⟨_, List.mem_of_getElem? (i := 7) rfl, rfl, decide_eq_true h, hsized hsize⟩
    · exact ⟨_, List.mem_of_getElem? (i := 8) rfl, rfl, decide_eq_false h, hsized hsize⟩
  | uint =>
    by_cases h : size.chars ∈ AbiStem.uint.narrow
    · exact ⟨_, List.mem_of_getElem? (i := 9) rfl, rfl, decide_eq_true h, hsized hsize⟩
    · exact ⟨_, List.mem_of_getElem? (i := 10) rfl, rfl, decide_eq_false h, hsized hsize⟩

theorem exists_sampleType (t : AbiType) : ∃ u ∈ sampleTypes, t.Alike u := by
  obtain ⟨b, hb, h⟩ := exists_sampleBase t.base
  cases ht : t.length with
  | none => exact ⟨⟨b, none⟩, List.mem_flatMap.mpr ⟨b, hb, by simp⟩, h, by rw [ht]⟩
  | some length =>
    exact ⟨⟨b, some ⟨[], by simp⟩⟩, List.mem_flatMap.mpr ⟨b, hb, by simp⟩, h, by rw [ht]; rfl⟩

theorem acceptWritten_of_names {side : Side} {rules : List Rule} {kinds : List (AbiType → Bool)}
    (h : List.Forall₂ (fun r k => Names (Rule.pattern r side) k) rules kinds) :
    AcceptWritten AbiType.spelling side rules kinds := by
  refine h.imp fun r k hn => ?_
  ext name
  exact (hn name).trans (exists_congr fun t => and_congr_right fun _ => eq_comm)

theorem represent_sampleTypes {kinds : List (AbiType → Bool)}
    (h : ∀ {t u : AbiType}, t.Alike u → ∀ k ∈ kinds, k t = k u) :
    Represent sampleTypes kinds := by
  intro t
  obtain ⟨u, hu, halike⟩ := exists_sampleType t
  exact ⟨u, hu, h halike⟩

theorem abiToRuntime_ordered : OrderedOn sampleTypes abiToRuntimeKinds := by decide +kernel

theorem runtimeToAbi_ordered : OrderedOn sampleTypes runtimeToAbiKinds := by decide +kernel

/-- What the rules of a list test of a name. -/
def tests (rules : List Rule) (side : Side) : List (String → Bool) :=
  rules.map fun r name => r.accepts side name

theorem acceptWritten_tests (rules : List Rule) (side : Side) :
    AcceptWritten id side rules (tests rules side) := by
  apply List.forall₂_map_right_iff.mpr
  apply List.forall₂_same.mpr
  intro r _
  exact (Set.image_id _).symm

/-- Where some rules accept known names only, and the others have one of a few wide patterns, the
known names stand for all with a name of each kind that the wide patterns tell apart. -/
theorem represent_tests {rules : List Rule} {side : Side} {known others : List String}
    {wide : List Pattern}
    (hrules : ∀ r ∈ rules, (∀ name, r.accepts side name = true → name ∈ known) ∨
      r.pattern side ∈ wide)
    (hothers : ∀ sample ∈ others, sample ∉ known)
    (hwide : ∀ name, ∃ sample ∈ others, ∀ p ∈ wide, p.accepts name = p.accepts sample) :
    Represent (known ++ others) (tests rules side) := by
  intro name
  by_cases hname : name ∈ known
  · exact ⟨name, List.mem_append_left _ hname, fun _ _ => rfl⟩
  obtain ⟨sample, hs, he⟩ := hwide name
  refine ⟨sample, List.mem_append_right _ hs, fun k hk => ?_⟩
  obtain ⟨r, hr, rfl⟩ := List.mem_map.mp hk
  rcases hrules r hr with hr | hr
  · have hnone : ∀ other, other ∉ known → r.accepts side other = false := by
      intro other ho
      exact Bool.eq_false_iff.mpr (mt (hr other) ho)
    exact (hnone name hname).trans (hnone sample (hothers sample hs)).symm
  · exact he _ hr

/-- A list without a rule of its own, a name without one, and what is no type. -/
def otherValues : List String := ["[Token]", "Token", ""]

theorem exists_otherValue (name : String) : ∃ sample ∈ otherValues,
    ∀ p ∈ [listForm, anyName], p.accepts name = p.accepts sample := by
  have hlist : listForm.accepts "[Token]" = true ∧ anyName.accepts "[Token]" = true := by
    decide +kernel
  have hname : listForm.accepts "Token" = false ∧ anyName.accepts "Token" = true := by
    decide +kernel
  have hnone : listForm.accepts "" = false ∧ anyName.accepts "" = false := by decide +kernel
  simp only [List.forall_mem_cons, List.not_mem_nil, false_implies, implies_true, and_true]
  cases hl : listForm.accepts name with
  | true =>
    -- A list has its brackets at least, so it is a name too.
    obtain ⟨element, -, rfl⟩ := accepts_listForm_iff.mp hl
    have ha : anyName.accepts (listOf element) = true :=
      accepts_anyName_iff.mpr (hasText_listOf element)
    exact ⟨"[Token]", by decide, hlist.1.symm, ha.trans hlist.2.symm⟩
  | false =>
    cases ha : anyName.accepts name with
    | true => exact ⟨"Token", by decide, hname.1.symm, hname.2.symm⟩
    | false => exact ⟨"", by decide, hnone.1.symm, hnone.2.symm⟩

theorem valueToRuntime_represent :
    Represent (ownTypes ++ otherValues) (tests valueToRuntimeRules .source) := by
  have hsource : ∀ r ∈ valueToRuntimeRules,
      r.source ∈ ownPatterns ∨ r.source ∈ [listForm, anyName] := by decide +kernel
  exact represent_tests (fun r hr => (hsource r hr).imp_left fun hp _ => mem_ownTypes hp)
    (by decide) exists_otherValue

theorem valueToRuntime_ordered :
    OrderedOn (ownTypes ++ otherValues) (tests valueToRuntimeRules .source) := by decide +kernel

/-- An array without a rule of its own, and what is no type. -/
def otherRuntimeTypes : List String := ["Array<Address>", ""]

theorem exists_otherRuntimeType (name : String) : ∃ sample ∈ otherRuntimeTypes,
    ∀ p ∈ [arrayForm], p.accepts name = p.accepts sample := by
  have harray : arrayForm.accepts "Array<Address>" = true := by decide +kernel
  have hnone : arrayForm.accepts "" = false := by decide +kernel
  simp only [List.forall_mem_singleton]
  cases ha : arrayForm.accepts name with
  | true => exact ⟨_, by decide, harray.symm⟩
  | false => exact ⟨_, by decide, hnone.symm⟩

theorem runtimeToValue_represent :
    Represent (storedTypes ++ otherRuntimeTypes) (tests runtimeToValueRules .source) := by
  have hsource : ∀ r ∈ runtimeToValueRules,
      (∀ name, r.accepts .source name = true → name ∈ storedTypes) ∨ r.source ∈ [arrayForm] := by
    intro r hr
    by_cases hs : r.source = arrayForm
    · exact .inr (List.mem_singleton.mpr hs)
    refine .inl fun name ha => ?_
    by_contra hname
    rw [not_accepts_of_not_stored hname hr hs] at ha
    contradiction
  exact represent_tests hsource (by decide) exists_otherRuntimeType

theorem runtimeToValue_ordered :
    OrderedOn (storedTypes ++ otherRuntimeTypes) (tests runtimeToValueRules .source) := by decide +kernel

end Builtin

namespace Table

open Builtin

/-- The built-in table looks ABI types, value types and the runtime types that are stored up among
rules that stand before all wider ones. -/
theorem builtin_narrowestFirst :
    builtin.NarrowestFirst abiToRuntime .source abiToRuntimeRules ∧
    builtin.NarrowestFirst runtimeToAbi .target runtimeToAbiRules ∧
    builtin.NarrowestFirst valueToRuntime .source valueToRuntimeRules ∧
    builtin.NarrowestFirst runtimeToValue .source runtimeToValueRules := by
  refine ⟨?_, ?_, ?_, ?_⟩
  · exact narrowestFirst_of_orderedOn rfl spelling_injective
      (acceptWritten_of_names abiToRuntime_names)
      (represent_sampleTypes abiToRuntimeKinds_respect) abiToRuntime_ordered
  · exact narrowestFirst_of_orderedOn rfl spelling_injective
      (acceptWritten_of_names runtimeToAbi_names)
      (represent_sampleTypes runtimeToAbiKinds_respect) runtimeToAbi_ordered
  · exact narrowestFirst_of_orderedOn rfl Function.injective_id (acceptWritten_tests _ _)
      valueToRuntime_represent valueToRuntime_ordered
  · exact narrowestFirst_of_orderedOn rfl Function.injective_id (acceptWritten_tests _ _)
      runtimeToValue_represent runtimeToValue_ordered

end Table
end TypeExchange
