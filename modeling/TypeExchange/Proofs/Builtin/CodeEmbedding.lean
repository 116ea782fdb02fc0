import TypeExchange.Proofs.Builtin.AbiArrays

/-! What the built-in converters do with the code that they are given. It stands once, as it is, in
the code that they make, and only those that read tuples look at the context. -/
namespace TypeExchange

namespace Converter

/-- With this context, the code stands between two texts. -/
def Embeds (c : Converter) (context : Option String) : Prop :=
  ∃ before after, ∀ code, c.convert code context = before ++ code ++ after

/-- The code stands between the same two texts with every context. -/
def IgnoresContext (c : Converter) : Prop :=
  ∃ before after, ∀ code context, c.convert code context = before ++ code ++ after

/-- The context names a class of tuples, and the code that is made shows which. -/
structure ShowsClass (c : Converter) : Prop where
  embeds : ∀ context, c.Embeds context
  absent : ∀ code, c.convert code none = c.convert code (some "ethereum.Tuple")
  distinct : ∀ code, Function.Injective fun name => c.convert code (some name)

theorem IgnoresContext.embeds {c : Converter} (h : c.IgnoresContext) (context : Option String) :
    c.Embeds context := by
  obtain ⟨before, after, h⟩ := h
  exact ⟨before, after, fun code => h code context⟩

theorem IgnoresContext.convert_eq {c : Converter} (h : c.IgnoresContext) (code : String)
    (context context' : Option String) : c.convert code context = c.convert code context' := by
  obtain ⟨before, after, h⟩ := h
  rw [h, h]

theorem Embeds.injective {c : Converter} {context : Option String} (h : c.Embeds context) :
    Function.Injective fun code => c.convert code context := by
  obtain ⟨before, after, h⟩ := h
  intro code code' he
  simpa [h, ← String.toList_inj] using he

theorem ShowsClass.convert_ne {c : Converter} (h : c.ShowsClass) (code : String) :
    ∃ context context', c.convert code context ≠ c.convert code context' :=
  ⟨some "A", some "B", (h.distinct code).ne (by decide)⟩

theorem ignoresContext_identity : identity.IgnoresContext := by
  refine ⟨"", "", fun code _ => ?_⟩
  simp [identity]

theorem ignoresContext_method (name : String) : (method name).IgnoresContext := by
  refine ⟨"", "." ++ name ++ "()", fun code _ => ?_⟩
  simp [method, String.append_assoc]

theorem ignoresContext_call (function : String) : (call function).IgnoresContext :=
  ⟨function ++ "(", ")", fun _ _ => rfl⟩

theorem ignoresContext_unsignedFromI32 : Builtin.unsignedFromI32.IgnoresContext :=
  ⟨"ethereum.Value.fromUnsignedBigInt(BigInt.fromI32(", "))", fun _ _ => rfl⟩

theorem showsClass_tuple : tuple.ShowsClass where
  embeds context := ⟨"changetype<" ++ context.getD tupleClass ++ ">(", ".toTuple())", fun _ => rfl⟩
  absent _ := rfl
  distinct := by
    intro code name name' he
    simpa [tuple, ← String.toList_inj] using he

theorem showsClass_tupleArray : tupleArray.ShowsClass where
  embeds context := by
    refine ⟨"", ".toTupleArray<" ++ context.getD tupleClass ++ ">()", fun code => ?_⟩
    simp [tupleArray, String.append_assoc]
  absent _ := rfl
  distinct := by
    intro code name name' he
    simpa [tupleArray, ← String.toList_inj] using he

end Converter

namespace Builtin

/-- The sources of the rules that read a tuple and an array of tuples. -/
def tupleSources : List String := ["tuple", "^tuple\\[([0-9]+)?\\]$"]

/-- Whether a rule of a pair reads tuples or arrays of them. -/
def ReadsTuples (pair : SystemPair) (r : Rule) : Prop :=
  pair = Table.abiToRuntime ∧ r.source.text ∈ tupleSources

theorem rules_builtin {pair : SystemPair} {rules : List Rule}
    (h : Table.builtin.rules pair = .ok rules) :
    pair = Table.abiToRuntime ∧ rules = abiToRuntimeRules ∨
    pair = Table.runtimeToAbi ∧ rules = runtimeToAbiRules ∨
    pair = Table.valueToRuntime ∧ rules = valueToRuntimeRules ∨
    pair = Table.runtimeToValue ∧ rules = runtimeToValueRules := by
  obtain ⟨source, target⟩ := pair
  cases source <;> cases target
  case abi.runtime => exact .inl ⟨rfl, (Except.ok.inj h).symm⟩
  case runtime.abi => exact .inr (.inl ⟨rfl, (Except.ok.inj h).symm⟩)
  case value.runtime => exact .inr (.inr (.inl ⟨rfl, (Except.ok.inj h).symm⟩))
  case runtime.value => exact .inr (.inr (.inr ⟨rfl, (Except.ok.inj h).symm⟩))
  all_goals contradiction

theorem text_lit (name : String) : (lit name).text = name := rfl

theorem text_re {text : String} {valid : (Regex.ofText text).isOk = true} :
    (re text valid).text = text := by
  unfold re Pattern.ofValid
  split
  rfl

theorem ignoresContext_abiToRuntime : ∀ r ∈ abiToRuntimeRules, r.source.text ∉ tupleSources →
    r.converter.IgnoresContext := by
  simp only [abiToRuntimeRules, List.forall_mem_cons, List.not_mem_nil, false_implies,
    implies_true, and_true, Converter.ignoresContext_method]
  simp [text_lit, text_re, tupleSources]

theorem showsClass_abiToRuntime : ∀ r ∈ abiToRuntimeRules, r.source.text ∈ tupleSources →
    r.converter.ShowsClass := by
  simp only [abiToRuntimeRules, List.forall_mem_cons, List.not_mem_nil, false_implies,
    implies_true, and_true, Converter.showsClass_tuple, Converter.showsClass_tupleArray]
  simp [text_lit, text_re, tupleSources]

theorem ignoresContext_runtimeToAbi : ∀ r ∈ runtimeToAbiRules, r.converter.IgnoresContext := by
  simp only [runtimeToAbiRules, List.forall_mem_cons, List.not_mem_nil, false_implies,
    implies_true, and_true, Converter.ignoresContext_call,
    Converter.ignoresContext_unsignedFromI32]

theorem ignoresContext_valueToRuntime :
    ∀ r ∈ valueToRuntimeRules, r.converter.IgnoresContext := by
  simp only [valueToRuntimeRules, List.forall_mem_cons, List.not_mem_nil, false_implies,
    implies_true, and_true, Converter.ignoresContext_method]

theorem ignoresContext_runtimeToValue :
    ∀ r ∈ runtimeToValueRules, r.converter.IgnoresContext := by
  simp only [runtimeToValueRules, List.forall_mem_cons, List.not_mem_nil, false_implies,
    implies_true, and_true, Converter.ignoresContext_call, Converter.ignoresContext_identity]

section
variable {pair : SystemPair} {rules : List Rule} {r : Rule}

theorem ignoresContext_of_mem (h : Table.builtin.rules pair = .ok rules) (hr : r ∈ rules)
    (ht : ¬ReadsTuples pair r) : r.converter.IgnoresContext := by
  rcases rules_builtin h with ⟨rfl, rfl⟩ | ⟨rfl, rfl⟩ | ⟨rfl, rfl⟩ | ⟨rfl, rfl⟩
  · exact ignoresContext_abiToRuntime r hr fun hs => ht ⟨rfl, hs⟩
  · exact ignoresContext_runtimeToAbi r hr
  · exact ignoresContext_valueToRuntime r hr
  · exact ignoresContext_runtimeToValue r hr

theorem showsClass_of_mem (h : Table.builtin.rules pair = .ok rules) (hr : r ∈ rules)
    (ht : ReadsTuples pair r) : r.converter.ShowsClass := by
  obtain ⟨rfl, hs⟩ := ht
  obtain rfl : abiToRuntimeRules = rules := Except.ok.inj h
  exact showsClass_abiToRuntime r hr hs

theorem embeds_of_mem (h : Table.builtin.rules pair = .ok rules) (hr : r ∈ rules)
    (context : Option String) : r.converter.Embeds context := by
  by_cases ht : ReadsTuples pair r
  · exact (showsClass_of_mem h hr ht).embeds context
  · exact (ignoresContext_of_mem h hr ht).embeds context

end

/-- Whether a name is that of tuples or of arrays of tuples. -/
def IsTupleType (name : String) : Prop :=
  name = "tuple" ∨ ∃ length, name = abiArrayOf "tuple" length

theorem isTupleType_iff {name : String} :
    IsTupleType name ↔ ∃ t : AbiType, t.base.stem = .tuple ∧ name = t.spelling := by
  have htuple : "tuple" = AbiBase.spelling ⟨.tuple, ⟨[], by simp⟩, rfl⟩ := by decide
  constructor
  · rintro (rfl | ⟨length, rfl⟩)
    · exact ⟨⟨_, none⟩, rfl, htuple⟩
    · refine ⟨⟨⟨.tuple, ⟨[], by simp⟩, rfl⟩, some length⟩, rfl, ?_⟩
      rw [spelling_array, ← htuple]
  · rintro ⟨⟨b, _ | length⟩, hb, rfl⟩
    · exact .inl (spelling_eq_tuple_iff.mpr hb)
    · exact .inr ⟨length, by rw [spelling_array, spelling_eq_tuple_iff.mpr hb]⟩

theorem isTupleType_spelling {t : AbiType} : IsTupleType t.spelling ↔ t.base.stem = .tuple := by
  rw [isTupleType_iff]
  constructor
  · rintro ⟨u, hu, he⟩
    rwa [spelling_injective he]
  · intro h
    exact ⟨t, h, rfl⟩

theorem showsClass_converter {t : AbiType} (h : t.base.stem = .tuple) :
    t.converter.ShowsClass := by
  unfold AbiType.converter
  cases t.length with
  | none =>
    rw [AbiBase.converter, if_pos h]
    exact Converter.showsClass_tuple
  | some length =>
    rw [AbiBase.arrayConverter, if_pos h]
    exact Converter.showsClass_tupleArray

theorem ignoresContext_converter {t : AbiType} (h : t.base.stem ≠ .tuple) :
    t.converter.IgnoresContext := by
  unfold AbiType.converter
  cases t.length with
  | none =>
    rw [AbiBase.converter, if_neg h]
    exact Converter.ignoresContext_method _
  | some length =>
    rw [AbiBase.arrayConverter, if_neg h]
    exact Converter.ignoresContext_method _

end Builtin

namespace Table

open Builtin

theorem runtimeCodeFromAbi_of_ne_spelling {name : String} (h : ∀ t : AbiType, name ≠ t.spelling)
    (code : String) (context : Option String) :
    builtin.runtimeCodeFromAbi code name context = .error (.noMatch abiToRuntime name .source) := by
  have hrules : builtin.rules abiToRuntime = .ok abiToRuntimeRules := rfl
  have hnone := find?_eq_none_of_ne_spelling abiToRuntime_names h
  rw [runtimeCodeFromAbi, convertForward_eq, (resolve_eq_noMatch_iff hrules).mpr hnone, error_map]

/-- Whatever rule of the built-in table a name finds, on either side, its converter puts the code
once, as it is, between two texts, so that no two codes become one. Only for the rules that read
tuples do the texts depend on the context: no context counts as the class of all tuples, and no two
classes give one code. So the context matters for reading an ABI type just where that is a tuple or
an array of tuples. -/
theorem builtin_code_embedded :
    (∀ pair side name r, builtin.resolve pair side name = .ok r →
      ∃ d, builtin.descriptor pair side name = .ok d ∧
        (∀ context, d.converter.Embeds context ∧
          Function.Injective fun code => d.convert code context) ∧
        (¬ReadsTuples pair r → d.converter.IgnoresContext) ∧
        (ReadsTuples pair r → d.converter.ShowsClass)) ∧
    ∀ name, (∀ code context context', builtin.runtimeCodeFromAbi code name context =
      builtin.runtimeCodeFromAbi code name context') ↔ ¬IsTupleType name := by
  constructor
  · intro pair side name r h
    obtain ⟨rules, hrules, hr⟩ := exists_rules_of_resolve h
    have hconverter : (r.descriptor pair side name).converter = r.converter := by
      cases side <;> rfl
    refine ⟨r.descriptor pair side name, by rw [descriptor, h, ok_bind]; rfl, ?_, ?_, ?_⟩
    · intro context
      have he := embeds_of_mem hrules hr context
      rw [← hconverter] at he
      exact ⟨he, he.injective⟩
    · rw [hconverter]
      exact ignoresContext_of_mem hrules hr
    · rw [hconverter]
      exact showsClass_of_mem hrules hr
  · intro name
    by_cases hname : ∃ t : AbiType, name = t.spelling
    · obtain ⟨t, rfl⟩ := hname
      simp only [runtimeCodeFromAbi_spelling, Except.ok.injEq, isTupleType_spelling]
      constructor
      · intro h htuple
        obtain ⟨context, context', hne⟩ := (showsClass_converter htuple).convert_ne ""
        exact hne (h "" context context')
      · intro htuple
        exact (ignoresContext_converter htuple).convert_eq
    · have hfails := runtimeCodeFromAbi_of_ne_spelling (not_exists.mp hname)
      simp only [hfails, implies_true, true_iff]
      rw [isTupleType_iff]
      rintro ⟨t, -, he⟩
      exact hname ⟨t, he⟩

end Table
end TypeExchange
