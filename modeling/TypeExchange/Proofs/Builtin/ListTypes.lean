import TypeExchange.Proofs.Builtin.ValueTypes
import TypeExchange.Proofs.Regex.Denotation

/-! How lists of value types are read. The type and the method for a list are those for its elements,
lifted to arrays, except for the lists of one scalar that have no rule of their own. -/
namespace TypeExchange

namespace Builtin

open Regex

/-- The name of the lists of a type. -/
def listOf (element : String) : String := "[" ++ element ++ "]"

/-- The name of the arrays of a runtime type. -/
def arrayOf (element : String) : String := "Array<" ++ element ++ ">"

/-- Whether a name is that of lists of something. -/
def IsList (name : String) : Prop := ∃ element, element ≠ "" ∧ name = listOf element

/-- The characters of a line. -/
def lineChars : CharSet := .compl (.single '\n')

theorem contains_lineChars {c : Char} : lineChars.contains c = true ↔ c ≠ '\n' := by
  simp [lineChars, contains_compl, contains_single]

/-- Whether a name has a character that ends no line. -/
def HasText (name : String) : Prop := ∃ c ∈ name.toList, c ≠ '\n'

/-- Whether a name is some text on one line. -/
def IsLine (name : String) : Prop := name ≠ "" ∧ '\n' ∉ name.toList

/-- An expression for text between two words. -/
theorem accepts_between {p : Pattern} {opening closing : String}
    (hp : p.plain? = some
      (word opening.toList (.seq (several lineChars) (word closing.toList .empty))))
    {name : String} : p.accepts name = true ↔
      ∃ element, IsLine element ∧ name = opening ++ element ++ closing := by
  have hline : ∀ cs : List Char, (∀ c ∈ cs, lineChars.contains c = true) ↔ '\n' ∉ cs := by
    intro cs
    simp only [contains_lineChars]
    exact ⟨fun h hc => h _ hc rfl, fun h c hc he => h (he ▸ hc)⟩
  rw [Pattern.accepts_iff_mem_language hp, mem_language_word]
  simp only [language, Language.mem_mul, Language.mem_one, mem_language_several,
    mem_language_word, hline, exists_eq_left, List.append_nil]
  constructor
  · rintro ⟨_, ⟨cs, hcs, rfl⟩, hname⟩
    refine ⟨String.ofList cs, ?_, ?_⟩
    · simpa [IsLine] using hcs
    · simp [← String.toList_inj, hname]
  · rintro ⟨element, ⟨hne, hcs⟩, rfl⟩
    exact ⟨_, ⟨element.toList, ⟨by simpa using hne, hcs⟩, rfl⟩, by simp⟩

theorem accepts_listForm_iff {name : String} :
    listForm.accepts name = true ↔ ∃ element, IsLine element ∧ name = listOf element :=
  accepts_between (by decide +kernel)

theorem accepts_anyName_iff {name : String} : anyName.accepts name = true ↔ HasText name := by
  have hp : anyName = .expression ".+" (several lineChars) := by decide +kernel
  rw [hp, Pattern.accepts, isMatch_iff_spans]
  constructor
  · rintro ⟨i, j, -, -, n, hn, -, hr⟩
    obtain ⟨n, rfl⟩ := Nat.exists_eq_add_of_le' hn
    obtain ⟨k, ⟨-, c, hc, hset⟩, -⟩ := hr
    exact ⟨c, List.mem_of_getElem? hc, contains_lineChars.mp hset⟩
  · rintro ⟨c, hc, hline⟩
    obtain ⟨i, hi, rfl⟩ := List.getElem_of_mem hc
    refine ⟨i, i + 1, Nat.le_succ i, hi, 1, Nat.le_refl 1, by simp, i + 1, ?_, rfl⟩
    exact ⟨rfl, name.toList[i], List.getElem?_eq_getElem hi, contains_lineChars.mpr hline⟩

/-- The first rule for a value type names this runtime type, and reads it by the method that is
called after `reader`. -/
def Reads (name type reader : String) : Prop :=
  ∃ pattern, valueToRuntimeRules.find? (·.accepts .source name) =
    some ⟨pattern, lit type, .method ("to" ++ reader), none⟩

/-- A scalar with the runtime type that it is read as, and what its method is called after. -/
structure Scalar where
  name : String
  type : String
  reader : String

def scalars : List Scalar := [
  ⟨"Bytes", "Bytes", "Bytes"⟩, ⟨"Boolean", "boolean", "Boolean"⟩, ⟨"Int", "i32", "I32"⟩,
  ⟨"Int8", "i64", "I64"⟩, ⟨"BigInt", "BigInt", "BigInt"⟩, ⟨"ID", "string", "String"⟩,
  ⟨"String", "string", "String"⟩, ⟨"BigDecimal", "BigDecimal", "BigDecimal"⟩]

/-- The scalar whose lists have no rule of their own. -/
def unlisted : String := "Int8"

/-- The expression for the lists of a scalar. Identifiers and strings share theirs. -/
def Scalar.listExpression (s : Scalar) : String :=
  "^\\[" ++ (if s.type = "string" then "(ID|String)" else s.name) ++ "\\]$"

theorem valid_listExpression : ∀ s ∈ scalars,
    (Regex.ofText s.listExpression).isOk = true := by
  decide +kernel

theorem found_scalar : ∀ s ∈ scalars, valueToRuntimeRules.find? (·.accepts .source s.name) =
    some ⟨lit s.name, lit s.type, .method ("to" ++ s.reader), none⟩ := by
  simp only [scalars, List.forall_mem_cons, List.not_mem_nil, false_implies, implies_true, and_true]
  exact ⟨find?_of_findIdx? (i := 0) (by decide +kernel) rfl,
    find?_of_findIdx? (i := 1) (by decide +kernel) rfl,
    find?_of_findIdx? (i := 2) (by decide +kernel) rfl,
    find?_of_findIdx? (i := 3) (by decide +kernel) rfl,
    find?_of_findIdx? (i := 4) (by decide +kernel) rfl,
    find?_of_findIdx? (i := 5) (by decide +kernel) rfl,
    find?_of_findIdx? (i := 6) (by decide +kernel) rfl,
    find?_of_findIdx? (i := 7) (by decide +kernel) rfl⟩

theorem found_list : ∀ s ∈ scalars, s.name ≠ unlisted →
    ∀ valid : (Regex.ofText s.listExpression).isOk = true,
      valueToRuntimeRules.find? (·.accepts .source (listOf s.name)) =
        some ⟨re s.listExpression valid, lit (arrayOf s.type),
          .method ("to" ++ s.reader ++ "Array"), none⟩ := by
  simp only [scalars, List.forall_mem_cons, List.not_mem_nil, false_implies, implies_true, and_true]
  exact ⟨fun _ _ => find?_of_findIdx? (i := 8) (by decide +kernel) rfl,
    fun _ _ => find?_of_findIdx? (i := 9) (by decide +kernel) rfl,
    fun _ _ => find?_of_findIdx? (i := 10) (by decide +kernel) rfl,
    fun h => absurd rfl h,
    fun _ _ => find?_of_findIdx? (i := 11) (by decide +kernel) rfl,
    fun _ _ => find?_of_findIdx? (i := 12) (by decide +kernel) rfl,
    fun _ _ => find?_of_findIdx? (i := 12) (by decide +kernel) rfl,
    fun _ _ => find?_of_findIdx? (i := 13) (by decide +kernel) rfl⟩

theorem reads_scalar {s : Scalar} (hs : s ∈ scalars) : Reads s.name s.type s.reader :=
  ⟨_, found_scalar s hs⟩

theorem reads_list {s : Scalar} (hs : s ∈ scalars) (hl : s.name ≠ unlisted) :
    Reads (listOf s.name) (arrayOf s.type) (s.reader ++ "Array") := by
  rw [Reads, ← String.append_assoc]
  exact ⟨_, found_list s hs hl (valid_listExpression s hs)⟩

theorem reads_unlisted : Reads unlisted "i64" "I64" :=
  reads_scalar (s := ⟨unlisted, "i64", "I64"⟩) (List.mem_of_getElem? (i := 3) rfl)

theorem reads_unlisted_list : Reads (listOf unlisted) "Array<string>" "StringArray" :=
  ⟨_, find?_of_findIdx? (i := 14) (by decide +kernel) rfl⟩

theorem listOf_injective : Function.Injective listOf := by
  intro v w h
  simpa [listOf, ← String.toList_inj] using h

/-- The types with rules of their own are the scalars and lists of scalars. -/
theorem ownTypes_eq : ownTypes =
    scalars.map Scalar.name ++ ((scalars.map Scalar.name).erase unlisted).map listOf := by
  decide +kernel

theorem isList_listOf {v : String} (hne : v ≠ "") : IsList (listOf v) := ⟨v, hne, rfl⟩

theorem brackets_of_isList {v : String} (h : IsList v) :
    v.toList.head? = some '[' ∧ v.toList.getLast? = some ']' := by
  obtain ⟨element, -, rfl⟩ := h
  constructor
  · simp [listOf]
  · rw [listOf, String.toList_append]
    exact List.getLast?_concat

theorem not_isList_scalar {v : String} (h : v ∈ scalars.map Scalar.name) : ¬IsList v := by
  have hhead : ∀ name ∈ scalars.map Scalar.name, name.toList.head? ≠ some '[' := by decide +kernel
  intro hlist
  exact hhead v h (brackets_of_isList hlist).1

theorem mem_ownTypes_iff {v : String} (hlist : ¬IsList v) :
    v ∈ ownTypes ↔ v ∈ scalars.map Scalar.name := by
  rw [ownTypes_eq, List.mem_append, or_iff_left_iff_imp]
  intro h
  have hlists : ∀ w ∈ scalars.map Scalar.name, w ≠ "" := by decide +kernel
  obtain ⟨w, hw, rfl⟩ := List.mem_map.mp h
  exact absurd (isList_listOf (hlists w (List.mem_of_mem_erase hw))) hlist

theorem listOf_mem_ownTypes_iff {v : String} (hne : v ≠ "") :
    listOf v ∈ ownTypes ↔ v ∈ (scalars.map Scalar.name).erase unlisted := by
  rw [ownTypes_eq, List.mem_append, List.mem_map_of_injective listOf_injective, or_iff_right]
  intro hs
  exact not_isList_scalar hs (isList_listOf hne)

/-- The rule for the lists of a type names the array of the runtime type of its elements. -/
theorem reads_lifted {v : String} (hne : v ≠ "") (hline : '\n' ∉ v.toList) (hlist : ¬IsList v)
    (hv : v ≠ unlisted) : ∃ type reader, Reads v type reader ∧
      Reads (listOf v) (arrayOf type) (reader ++ "Array") := by
  by_cases hs : v ∈ scalars.map Scalar.name
  · obtain ⟨s, hscalar, rfl⟩ := List.mem_map.mp hs
    exact ⟨s.type, s.reader, reads_scalar hscalar, reads_list hscalar hv⟩
  · -- Neither the name nor that of its lists has a rule, so the rules for any name apply.
    have hown := find?_read_of_not_own fun h => hs ((mem_ownTypes_iff hlist).mp h)
    have hownList := find?_read_of_not_own fun h =>
      hs (List.mem_of_mem_erase ((listOf_mem_ownTypes_iff hne).mp h))
    obtain ⟨c, hc⟩ := List.exists_mem_of_ne_nil v.toList (by simpa using hne)
    have hany : anyName.accepts v = true :=
      accepts_anyName_iff.mpr ⟨c, hc, fun h => hline (h ▸ hc)⟩
    have hform : ¬listForm.accepts v = true := by
      intro h
      obtain ⟨element, ⟨he, -⟩, rfl⟩ := accepts_listForm_iff.mp h
      exact hlist (isList_listOf he)
    rw [if_neg hform, if_pos hany] at hown
    rw [if_pos (accepts_listForm_iff.mpr ⟨v, ⟨hne, hline⟩, rfl⟩)] at hownList
    exact ⟨"string", "String", ⟨_, hown⟩, ⟨_, hownList⟩⟩

end Builtin

namespace Table

theorem runtimeTypeForValue_of_reads {name type reader : String}
    (h : Builtin.Reads name type reader) : builtin.runtimeTypeForValue name = .ok type := by
  have hrules : builtin.rules valueToRuntime = .ok Builtin.valueToRuntimeRules := rfl
  obtain ⟨pattern, hr⟩ := h
  rw [runtimeTypeForValue, typeFor_eq, (resolve_eq_ok_iff hrules).mpr hr]
  rfl

theorem runtimeCodeFromValue_of_reads {name type reader : String}
    (h : Builtin.Reads name type reader) (code : String) :
    builtin.runtimeCodeFromValue code name = .ok (code ++ ".to" ++ reader ++ "()") := by
  have hrules : builtin.rules valueToRuntime = .ok Builtin.valueToRuntimeRules := rfl
  obtain ⟨pattern, hr⟩ := h
  have hcode : code ++ ".to" ++ reader ++ "()" = code ++ "." ++ ("to" ++ reader) ++ "()" := by
    simp [← String.toList_inj]
  rw [hcode]
  exact convertForward_of_find? hrules hr code none

/-- Code shows after what the method is called that it calls. -/
theorem reader_unique {code reader reader' : String}
    (h : code ++ ".to" ++ reader ++ "()" = code ++ ".to" ++ reader' ++ "()") :
    reader = reader' := by
  simpa [← String.toList_inj] using h

/-- A list of values is read as the array of the runtime type that its elements are read as, by the
method for arrays of that type, except a list of `Int8`, which is read as one of strings. -/
theorem builtin_lists_lift {v : String} (hne : v ≠ "") (hline : '\n' ∉ v.toList)
    (hlist : ¬Builtin.IsList v) :
    (∃ type, builtin.runtimeTypeForValue v = .ok type ∧
      (builtin.runtimeTypeForValue (Builtin.listOf v) = .ok (Builtin.arrayOf type) ↔
        v ≠ "Int8")) ∧
    (∃ reader, ∀ code,
      builtin.runtimeCodeFromValue code v = .ok (code ++ ".to" ++ reader ++ "()")) ∧
    (∀ code reader,
      builtin.runtimeCodeFromValue code v = .ok (code ++ ".to" ++ reader ++ "()") →
      (builtin.runtimeCodeFromValue code (Builtin.listOf v) =
        .ok (code ++ ".to" ++ reader ++ "Array()") ↔ v ≠ "Int8")) ∧
    (v = "Int8" → builtin.runtimeTypeForValue (Builtin.listOf v) = .ok "Array<string>" ∧
      ∀ code, builtin.runtimeCodeFromValue code (Builtin.listOf v) =
        .ok (code ++ ".toStringArray()")) := by
  have harray : ∀ code reader : String,
      code ++ ".to" ++ reader ++ "Array()" = code ++ ".to" ++ (reader ++ "Array") ++ "()" := by
    intro code reader
    simp [← String.toList_inj]
  by_cases hv : v = Builtin.unlisted
  · subst hv
    have htype := runtimeTypeForValue_of_reads Builtin.reads_unlisted_list
    have hcode := runtimeCodeFromValue_of_reads Builtin.reads_unlisted_list
    refine ⟨⟨"i64", runtimeTypeForValue_of_reads Builtin.reads_unlisted, ?_⟩,
      ⟨"I64", runtimeCodeFromValue_of_reads Builtin.reads_unlisted⟩, ?_, fun _ => ⟨htype, ?_⟩⟩
    · rw [htype]
      decide
    · intro code reader h
      rw [runtimeCodeFromValue_of_reads Builtin.reads_unlisted] at h
      obtain rfl := reader_unique (Except.ok.inj h)
      rw [hcode, harray]
      refine iff_of_false (fun he => ?_) (fun hne => hne rfl)
      exact absurd (reader_unique (Except.ok.inj he)) (by decide)
    · intro code
      rw [hcode]
      simp [← String.toList_inj]
  · obtain ⟨type, reader, hread, hlifted⟩ := Builtin.reads_lifted hne hline hlist hv
    have hcode := runtimeCodeFromValue_of_reads hread
    refine ⟨⟨type, runtimeTypeForValue_of_reads hread,
      iff_of_true (runtimeTypeForValue_of_reads hlifted) hv⟩, ⟨reader, hcode⟩, ?_,
      fun h => absurd h hv⟩
    intro code reader' h
    rw [hcode] at h
    obtain rfl := reader_unique (Except.ok.inj h)
    rw [harray]
    exact iff_of_true (runtimeCodeFromValue_of_reads hlifted code) hv

/-- A bracket on one side makes no list. -/
theorem builtin_lists_lift_bracket :
    ("[Token" ≠ "" ∧ '\n' ∉ "[Token".toList ∧ ¬Builtin.IsList "[Token") ∧
    builtin.runtimeTypeForValue "[[Token]" = .ok "Array<string>" ∧
    builtin.runtimeCodeFromValue "x" "[[Token]" = .ok "x.toStringArray()" := by
  have hne : "[Token" ≠ "" := by decide
  have hline : '\n' ∉ "[Token".toList := by decide
  have hlist : ¬Builtin.IsList "[Token" := fun h =>
    absurd (Builtin.brackets_of_isList h).2 (by decide)
  have htype : builtin.runtimeTypeForValue "[Token" = .ok "string" := by decide +kernel
  have hcode : builtin.runtimeCodeFromValue "x" "[Token" =
      .ok ("x" ++ ".to" ++ "String" ++ "()") := by decide +kernel
  obtain ⟨⟨type, ht, hlifted⟩, -, hread, -⟩ := builtin_lists_lift hne hline hlist
  obtain rfl := Except.ok.inj (ht.symm.trans htype)
  exact ⟨⟨hne, hline, hlist⟩, hlifted.mpr (by decide), (hread "x" "String" hcode).mpr (by decide)⟩

/-- Elements of `Int8` are read as 64-bit integers, but their lists are not. -/
theorem builtin_lists_lift_unlisted :
    builtin.runtimeTypeForValue "Int8" = .ok "i64" ∧
    builtin.runtimeCodeFromValue "x" "Int8" = .ok "x.toI64()" ∧
    builtin.runtimeTypeForValue "[Int8]" ≠ .ok "Array<i64>" ∧
    builtin.runtimeCodeFromValue "x" "[Int8]" ≠ .ok "x.toI64Array()" := by
  decide +kernel

end Table
end TypeExchange
