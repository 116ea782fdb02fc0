import TypeExchange.Proofs.Builtin.ListTypes

/-! Which rule reads a value type, and which stores a value of a runtime type, on every name. The
rules for lists and for arrays of any kind take what is written on one line between brackets. -/
namespace TypeExchange

namespace Builtin

/-- The rule that reads a value type. -/
inductive ReadBy : String → Rule → Prop where
  | scalar {s : Scalar} (hs : s ∈ scalars) :
      ReadBy s.name ⟨lit s.name, lit s.type, .method ("to" ++ s.reader), none⟩
  | list {s : Scalar} (hs : s ∈ scalars) (hl : s.name ≠ unlisted)
      (valid : (Regex.ofText s.listExpression).isOk = true) :
      ReadBy (listOf s.name) ⟨re s.listExpression valid, lit (arrayOf s.type),
        .method ("to" ++ s.reader ++ "Array"), none⟩
  | otherList {element : String} (h : IsLine element)
      (hs : element ∉ (scalars.map Scalar.name).erase unlisted) :
      ReadBy (listOf element) ⟨listForm, lit "Array<string>", .method "toStringArray", none⟩
  | other {name : String} (h : HasText name) (hs : name ∉ scalars.map Scalar.name)
      (hl : ¬∃ element, IsLine element ∧ name = listOf element) :
      ReadBy name ⟨anyName, lit "string", .method "toString", none⟩

theorem hasText_listOf (element : String) : HasText (listOf element) :=
  ⟨'[', by simp [listOf], by decide⟩

theorem hasText_own : ∀ name ∈ ownTypes, HasText name := by
  have h : ∀ name ∈ ownTypes, name.toList.any (· != '\n') = true := by decide
  intro name hname
  obtain ⟨c, hc, hline⟩ := List.any_eq_true.mp (h name hname)
  exact ⟨c, hc, bne_iff_ne.mp hline⟩

theorem found_of_readBy {name : String} {r : Rule} (h : ReadBy name r) :
    valueToRuntimeRules.find? (·.accepts .source name) = some r := by
  cases h with
  | scalar hs => exact found_scalar _ hs
  | list hs hl valid => exact found_list _ hs hl valid
  | otherList h hs =>
    rw [find?_read_of_not_own (mt (listOf_mem_ownTypes_iff h.1).mp hs),
      if_pos (accepts_listForm_iff.mpr ⟨_, h, rfl⟩)]
  | other h hs hl =>
    have hown : name ∉ ownTypes := by
      intro hn
      rw [ownTypes_eq, List.mem_append] at hn
      rcases hn with hn | hn
      · exact hs hn
      · obtain ⟨element, he, rfl⟩ := List.mem_map.mp hn
        have hline : ∀ v ∈ scalars.map Scalar.name, v ≠ "" ∧ '\n' ∉ v.toList := by decide +kernel
        exact hl ⟨element, hline element (List.mem_of_mem_erase he), rfl⟩
    rw [find?_read_of_not_own hown, if_neg (mt accepts_listForm_iff.mp hl),
      if_pos (accepts_anyName_iff.mpr h)]

theorem exists_readBy {name : String} (h : HasText name) : ∃ r, ReadBy name r := by
  by_cases hs : name ∈ scalars.map Scalar.name
  · obtain ⟨s, hscalar, rfl⟩ := List.mem_map.mp hs
    exact ⟨_, .scalar hscalar⟩
  by_cases hl : ∃ element, IsLine element ∧ name = listOf element
  · obtain ⟨element, hline, rfl⟩ := hl
    by_cases he : element ∈ (scalars.map Scalar.name).erase unlisted
    · obtain ⟨hne, hmem⟩ := (List.Nodup.mem_erase_iff (by decide)).mp he
      obtain ⟨s, hscalar, rfl⟩ := List.mem_map.mp hmem
      exact ⟨_, .list hscalar hne (valid_listExpression s hscalar)⟩
    · exact ⟨_, .otherList hline he⟩
  · exact ⟨_, .other h hs hl⟩

/-- A name without text is neither read nor stored. -/
theorem not_accepts_of_not_hasText {name : String} (h : ¬HasText name) :
    name ∉ ownTypes ∧ listForm.accepts name = false ∧ anyName.accepts name = false := by
  refine ⟨fun hn => h (hasText_own name hn), ?_, ?_⟩
  · rw [Bool.eq_false_iff]
    intro ha
    obtain ⟨element, -, rfl⟩ := accepts_listForm_iff.mp ha
    exact h (hasText_listOf element)
  · rw [Bool.eq_false_iff]
    exact mt accepts_anyName_iff.mp h

theorem find?_read_eq_none_iff {name : String} :
    valueToRuntimeRules.find? (·.accepts .source name) = none ↔ ¬HasText name := by
  constructor
  · intro hnone h
    obtain ⟨r, hr⟩ := exists_readBy h
    rw [found_of_readBy hr] at hnone
    contradiction
  · intro h
    obtain ⟨hown, hl, ha⟩ := not_accepts_of_not_hasText h
    rw [find?_read_of_not_own hown, hl, ha]
    rfl

theorem hasText_of_found {name : String} {r : Rule}
    (h : valueToRuntimeRules.find? (·.accepts .source name) = some r) : HasText name := by
  by_contra hn
  rw [find?_read_eq_none_iff.mpr hn] at h
  contradiction

/-- Names with text are read, each by one rule. -/
theorem found_iff_readBy {name : String} {r : Rule} :
    valueToRuntimeRules.find? (·.accepts .source name) = some r ↔ ReadBy name r := by
  refine ⟨fun hr => ?_, found_of_readBy⟩
  obtain ⟨r', hread⟩ := exists_readBy (hasText_of_found hr)
  rw [found_of_readBy hread] at hr
  exact Option.some.inj hr ▸ hread

theorem exists_stored_iff {name : String} :
    (∃ r, runtimeToValueRules.find? (·.accepts .target name) = some r) ↔ HasText name := by
  constructor
  · rintro ⟨r, hr⟩
    by_contra h
    obtain ⟨hown, hl, ha⟩ := not_accepts_of_not_hasText h
    rw [find?_of_not_own hown, hl, ha] at hr
    contradiction
  · intro h
    by_cases hown : name ∈ ownTypes
    · have hstored : ∀ v ∈ ownTypes,
          (runtimeToValueRules.find? (·.accepts .target v)).isSome = true := by decide +kernel
      exact Option.isSome_iff_exists.mp (hstored name hown)
    · rw [find?_of_not_own hown, if_pos (accepts_anyName_iff.mpr h)]
      split
      next => exact ⟨_, rfl⟩
      next => exact ⟨_, rfl⟩

/-- A scalar of the runtime with the value type it is stored as, what its constructor is called
after, and the code of its initial value. -/
structure RuntimeScalar where
  name : String
  valueType : String
  maker : String
  initial : String

def runtimeScalars : List RuntimeScalar := [
  ⟨"Bytes", "Bytes", "Bytes", "Bytes.empty()"⟩, ⟨"Address", "Bytes", "Bytes", "Address.zero()"⟩,
  ⟨"boolean", "Boolean", "Boolean", "false"⟩, ⟨"i32", "Int", "I32", "0"⟩,
  ⟨"i64", "Int8", "I64", "0"⟩, ⟨"BigInt", "BigInt", "BigInt", "BigInt.zero()"⟩,
  ⟨"string", "String", "String", "''"⟩,
  ⟨"BigDecimal", "BigDecimal", "BigDecimal", "BigDecimal.zero()"⟩]

/-- The scalars whose arrays have rules of their own. -/
def arrayElements : List String := ["Bytes", "boolean", "i32", "BigInt", "BigDecimal", "string"]

/-- The expression for the value types that an array is stored as. -/
def RuntimeScalar.listExpression (s : RuntimeScalar) : String :=
  "^\\[" ++ (if s.name = "string" then ".+" else s.valueType) ++ "\\]$"

theorem arrayForm_valid : (Regex.ofText "^Array<.+>$").isOk = true := by decide +kernel

def arrayForm : Pattern := re "^Array<.+>$" arrayForm_valid

def storedArrays : Rule :=
  ⟨arrayForm, listForm, .call "Value.fromArray", some "new Array(0)"⟩

/-- The rule that stores a value of a runtime type. -/
inductive StoredBy : String → Rule → Prop where
  | scalar {s : RuntimeScalar} (hs : s ∈ runtimeScalars) :
      StoredBy s.name
        ⟨lit s.name, lit s.valueType, .call ("Value.from" ++ s.maker), some s.initial⟩
  | value : StoredBy "Value" unwrapped
  | array {s : RuntimeScalar} (hs : s ∈ runtimeScalars) (ha : s.name ∈ arrayElements)
      (valid : (Regex.ofText s.listExpression).isOk = true) :
      StoredBy (arrayOf s.name) ⟨lit (arrayOf s.name), re s.listExpression valid,
        .call ("Value.from" ++ s.maker ++ "Array"), some "new Array(0)"⟩
  | otherArray {element : String} (h : IsLine element) (ha : element ∉ arrayElements) :
      StoredBy (arrayOf element) storedArrays

theorem accepts_arrayForm_iff {name : String} :
    arrayForm.accepts name = true ↔ ∃ element, IsLine element ∧ name = arrayOf element :=
  accepts_between (by decide +kernel)

theorem found_runtimeScalar : ∀ s ∈ runtimeScalars,
    runtimeToValueRules.find? (·.accepts .source s.name) = some
      ⟨lit s.name, lit s.valueType, .call ("Value.from" ++ s.maker), some s.initial⟩ := by
  simp only [runtimeScalars, List.forall_mem_cons, List.not_mem_nil, false_implies, implies_true,
    and_true]
  exact ⟨find?_of_findIdx? (i := 0) (by decide +kernel) rfl,
    find?_of_findIdx? (i := 1) (by decide +kernel) rfl,
    find?_of_findIdx? (i := 2) (by decide +kernel) rfl,
    find?_of_findIdx? (i := 3) (by decide +kernel) rfl,
    find?_of_findIdx? (i := 4) (by decide +kernel) rfl,
    find?_of_findIdx? (i := 5) (by decide +kernel) rfl,
    find?_of_findIdx? (i := 6) (by decide +kernel) rfl,
    find?_of_findIdx? (i := 7) (by decide +kernel) rfl⟩

theorem found_array : ∀ s ∈ runtimeScalars, s.name ∈ arrayElements →
    ∀ valid : (Regex.ofText s.listExpression).isOk = true,
      runtimeToValueRules.find? (·.accepts .source (arrayOf s.name)) =
        some ⟨lit (arrayOf s.name), re s.listExpression valid,
          .call ("Value.from" ++ s.maker ++ "Array"), some "new Array(0)"⟩ := by
  simp only [runtimeScalars, List.forall_mem_cons, List.not_mem_nil, false_implies, implies_true,
    and_true]
  exact ⟨fun _ _ => find?_of_findIdx? (i := 8) (by decide +kernel) rfl,
    fun h => absurd h (by decide),
    fun _ _ => find?_of_findIdx? (i := 9) (by decide +kernel) rfl,
    fun _ _ => find?_of_findIdx? (i := 10) (by decide +kernel) rfl,
    fun h => absurd h (by decide),
    fun _ _ => find?_of_findIdx? (i := 11) (by decide +kernel) rfl,
    fun _ _ => find?_of_findIdx? (i := 13) (by decide +kernel) rfl,
    fun _ _ => find?_of_findIdx? (i := 12) (by decide +kernel) rfl⟩

theorem found_value : runtimeToValueRules.find? (·.accepts .source "Value") = some unwrapped :=
  find?_of_findIdx? (i := 15) (by decide +kernel) rfl

/-- The runtime types that have rules of their own. -/
def storedTypes : List String :=
  runtimeScalars.map RuntimeScalar.name ++ "Value" :: arrayElements.map arrayOf

theorem not_accepts_of_not_stored {name : String} (h : name ∉ storedTypes) {r : Rule}
    (hr : r ∈ runtimeToValueRules) (hs : r.source ≠ arrayForm) :
    r.accepts .source name = false := by
  have hliteral : ∀ r ∈ runtimeToValueRules, r.source ≠ arrayForm →
      ∃ known ∈ storedTypes, r.source = .literal known := by decide +kernel
  obtain ⟨known, hk, he⟩ := hliteral r hr hs
  rw [Rule.accepts, Rule.pattern, he, Pattern.accepts, beq_eq_false_iff_ne]
  rintro rfl
  exact h hk

/-- How a runtime type without rules of its own is stored. -/
theorem find?_stored_of_not_own {name : String} (h : name ∉ storedTypes) :
    runtimeToValueRules.find? (·.accepts .source name) =
      if arrayForm.accepts name then some storedArrays else none := by
  have hfirst : (runtimeToValueRules.take 14).find? (·.accepts .source name) = none := by
    have hsource : ∀ r ∈ runtimeToValueRules.take 14, r.source ≠ arrayForm := by decide +kernel
    rw [List.find?_eq_none]
    intro r hr
    rw [not_accepts_of_not_stored h (List.mem_of_mem_take hr) (hsource r hr)]
    exact Bool.false_ne_true
  have hlast : unwrapped.accepts .source name = false :=
    not_accepts_of_not_stored h (List.mem_of_getElem? (i := 15) rfl) (by decide +kernel)
  have hd : runtimeToValueRules.drop 14 = [storedArrays, unwrapped] := rfl
  rw [← List.take_append_drop 14 runtimeToValueRules, List.find?_append, hfirst, Option.none_or, hd]
  have harrays : storedArrays.accepts .source name = arrayForm.accepts name := rfl
  cases ha : arrayForm.accepts name with
  | true => simp [harrays, ha]
  | false => simp [harrays, ha, hlast]

theorem arrayOf_injective : Function.Injective arrayOf := by
  intro v w h
  simpa [arrayOf, ← String.toList_inj] using h

theorem arrayOf_mem_storedTypes_iff {element : String} :
    arrayOf element ∈ storedTypes ↔ element ∈ arrayElements := by
  have hplain : ∀ name ∈ runtimeScalars.map RuntimeScalar.name ++ ["Value"],
      '<' ∉ name.toList := by decide +kernel
  have hs : storedTypes = (runtimeScalars.map RuntimeScalar.name ++ ["Value"]) ++
      arrayElements.map arrayOf := rfl
  rw [hs, List.mem_append, List.mem_map_of_injective arrayOf_injective, or_iff_right]
  intro h
  exact hplain _ h (by simp [arrayOf])

theorem found_of_storedBy {name : String} {r : Rule} (h : StoredBy name r) :
    runtimeToValueRules.find? (·.accepts .source name) = some r := by
  cases h with
  | scalar hs => exact found_runtimeScalar _ hs
  | value => exact found_value
  | array hs ha valid => exact found_array _ hs ha valid
  | otherArray h ha =>
    rw [find?_stored_of_not_own (mt arrayOf_mem_storedTypes_iff.mp ha),
      if_pos (accepts_arrayForm_iff.mpr ⟨_, h, rfl⟩)]

theorem valid_runtimeListExpression : ∀ s ∈ runtimeScalars,
    (Regex.ofText s.listExpression).isOk = true := by
  decide +kernel

theorem exists_storedBy_array {element : String} (h : IsLine element) :
    ∃ r, StoredBy (arrayOf element) r := by
  by_cases ha : element ∈ arrayElements
  · have hscalar : ∀ name ∈ arrayElements, name ∈ runtimeScalars.map RuntimeScalar.name := by
      decide
    obtain ⟨s, hs, rfl⟩ := List.mem_map.mp (hscalar element ha)
    exact ⟨_, .array hs ha (valid_runtimeListExpression s hs)⟩
  · exact ⟨_, .otherArray h ha⟩

/-- A runtime type is a scalar, or that of the arrays of what is written on one line. -/
def IsStored (name : String) : Prop :=
  name ∈ runtimeScalars.map RuntimeScalar.name ∨ name = "Value" ∨
    ∃ element, IsLine element ∧ name = arrayOf element

theorem exists_storedBy {name : String} (h : IsStored name) : ∃ r, StoredBy name r := by
  rcases h with h | rfl | ⟨element, hline, rfl⟩
  · obtain ⟨s, hs, rfl⟩ := List.mem_map.mp h
    exact ⟨_, .scalar hs⟩
  · exact ⟨_, .value⟩
  · exact exists_storedBy_array hline

theorem isStored_of_found {name : String} {r : Rule}
    (h : runtimeToValueRules.find? (·.accepts .source name) = some r) : IsStored name := by
  by_cases hown : name ∈ storedTypes
  · rw [storedTypes, List.mem_append, List.mem_cons] at hown
    rcases hown with hs | hv | ha
    · exact .inl hs
    · exact .inr (.inl hv)
    · obtain ⟨element, he, rfl⟩ := List.mem_map.mp ha
      have hline : ∀ v ∈ arrayElements, v ≠ "" ∧ '\n' ∉ v.toList := by decide
      exact .inr (.inr ⟨element, hline element he, rfl⟩)
  · rw [find?_stored_of_not_own hown] at h
    split at h
    next ha => exact .inr (.inr (accepts_arrayForm_iff.mp ha))
    next => contradiction

theorem found_iff_storedBy {name : String} {r : Rule} :
    runtimeToValueRules.find? (·.accepts .source name) = some r ↔ StoredBy name r := by
  refine ⟨fun hr => ?_, found_of_storedBy⟩
  obtain ⟨r', hs⟩ := exists_storedBy (isStored_of_found hr)
  rw [found_of_storedBy hs] at hr
  exact Option.some.inj hr ▸ hs

end Builtin

namespace Table

open Builtin

/-- Every name with some text is a value type. A scalar is read by its own rule, and so are the
lists of all scalars but `Int8`; other lists are read as lists of strings, and other names as
strings. The value types that values are stored as are the same. Of the runtime types nine scalars
are stored, and the arrays of whatever is written on one line, six of them by rules of their own. -/
theorem builtin_value_rows (name : String) :
    (builtin.resolveBySource valueToRuntime name = .error (.noMatch valueToRuntime name .source) ↔
      ¬HasText name) ∧
    (∀ r, builtin.resolveBySource valueToRuntime name = .ok r ↔ ReadBy name r) ∧
    ((∃ r, builtin.resolveBySource valueToRuntime name = .ok r) ↔ HasText name) ∧
    ((∃ r, builtin.resolveByTarget runtimeToValue name = .ok r) ↔ HasText name) ∧
    (∀ r, builtin.resolveBySource runtimeToValue name = .ok r ↔ StoredBy name r) ∧
    ((∃ r, builtin.resolveBySource runtimeToValue name = .ok r) ↔ IsStored name) := by
  have hread : builtin.rules valueToRuntime = .ok valueToRuntimeRules := rfl
  have hstore : builtin.rules runtimeToValue = .ok runtimeToValueRules := rfl
  have hreadBy : ∀ r, builtin.resolveBySource valueToRuntime name = .ok r ↔ ReadBy name r :=
    fun r => (resolve_eq_ok_iff hread).trans found_iff_readBy
  have hstoredBy : ∀ r, builtin.resolveBySource runtimeToValue name = .ok r ↔ StoredBy name r :=
    fun r => (resolve_eq_ok_iff hstore).trans found_iff_storedBy
  have htarget : ∀ r, builtin.resolveByTarget runtimeToValue name = .ok r ↔
      runtimeToValueRules.find? (·.accepts .target name) = some r :=
    fun r => resolve_eq_ok_iff hstore
  simp only [hreadBy, hstoredBy, htarget, implies_true, true_and]
  refine ⟨?_, ?_, exists_stored_iff, ?_⟩
  · rw [resolveBySource, resolve_eq_noMatch_iff hread]
    exact find?_read_eq_none_iff
  · refine ⟨?_, exists_readBy⟩
    rintro ⟨r, hr⟩
    exact hasText_of_found (found_of_readBy hr)
  · refine ⟨?_, exists_storedBy⟩
    rintro ⟨r, hr⟩
    exact isStored_of_found (found_of_storedBy hr)

/-- Brackets around nothing, or around the end of a line, make no list. -/
example : builtin.runtimeTypeForValue "[]" = .ok "string" ∧
    builtin.runtimeTypeForValue "[\n]" = .ok "string" := by decide +kernel

end Table
end TypeExchange
