import TypeExchange.Proofs.Table.Operations

/-! The lookups of a name on one side of a pair agree. They all succeed, and use one rule, or they
all fail, and for one reason. -/
namespace TypeExchange.Table

/-- A name on the source side is answered from this rule alone. -/
structure AnswersSource (t : Table) (pair : SystemPair) (name : String) (r : Rule) : Prop where
  rule : t.resolveBySource pair name = .ok r
  descriptor : t.findFromType pair name =
    .ok ⟨⟨pair.source, name⟩, ⟨pair.target, r.target.text⟩, r.converter⟩
  type : t.typeFor pair name = .ok r.target.text
  code : ∀ code context,
    t.convertForward pair code name context = .ok (r.converter.convert code context)
  initial : t.initializedValue pair name = .ok (r.converter.convert (r.init.getD "") none)
  initial_code : t.initializedValue pair name =
    t.convertForward pair (r.init.getD "") name none

structure RefusesSource (t : Table) (pair : SystemPair) (name : String) (e : Failure) : Prop where
  rule : t.resolveBySource pair name = .error e
  descriptor : t.findFromType pair name = .error e
  type : t.typeFor pair name = .error e
  code : ∀ code context, t.convertForward pair code name context = .error e
  initial : t.initializedValue pair name = .error e

/-- A name on the target side is answered from this rule alone. -/
structure AnswersTarget (t : Table) (pair : SystemPair) (name : String) (r : Rule) : Prop where
  rule : t.resolveByTarget pair name = .ok r
  descriptor : t.findToType pair name =
    .ok ⟨⟨pair.source, r.source.text⟩, ⟨pair.target, name⟩, r.converter⟩
  code : ∀ code, t.convertBackward pair code name = .ok (r.converter.convert code none)

structure RefusesTarget (t : Table) (pair : SystemPair) (name : String) (e : Failure) : Prop where
  rule : t.resolveByTarget pair name = .error e
  descriptor : t.findToType pair name = .error e
  code : ∀ code, t.convertBackward pair code name = .error e

/-- The operations for one pair each are those for any pair. -/
structure NamedOperations (t : Table) : Prop where
  runtimeTypeForAbi : ∀ name, t.runtimeTypeForAbi name = t.typeFor ⟨.abi, .runtime⟩ name
  abiTypeForRuntime : ∀ name, t.abiTypeForRuntime name = t.typeFor ⟨.runtime, .abi⟩ name
  runtimeCodeFromAbi : ∀ code name context, t.runtimeCodeFromAbi code name context =
    t.convertForward ⟨.abi, .runtime⟩ code name context
  abiCodeFromRuntime : ∀ code name,
    t.abiCodeFromRuntime code name = t.convertBackward ⟨.runtime, .abi⟩ code name
  runtimeTypeForValue : ∀ name, t.runtimeTypeForValue name = t.typeFor ⟨.value, .runtime⟩ name
  valueTypeForRuntime : ∀ name, t.valueTypeForRuntime name = t.typeFor ⟨.runtime, .value⟩ name
  runtimeCodeFromValue : ∀ code name, t.runtimeCodeFromValue code name =
    t.convertForward ⟨.value, .runtime⟩ code name none
  valueCodeFromRuntime : ∀ code name,
    t.valueCodeFromRuntime code name = t.convertBackward ⟨.runtime, .value⟩ code name
  initialValueFromRuntime : ∀ name,
    t.initialValueFromRuntime name = t.initializedValue ⟨.runtime, .value⟩ name

section
variable {t : Table} {pair : SystemPair} {name : String} {r : Rule} {e : Failure}

theorem answersSource (h : t.resolve pair .source name = .ok r) : t.AnswersSource pair name r := by
  have hcode : ∀ code context,
      t.convertForward pair code name context = .ok (r.converter.convert code context) := by
    intro code context
    rw [convertForward_eq, h, ok_map]
  have hinitial : t.initializedValue pair name =
      .ok (r.converter.convert (r.init.getD "") none) := by
    rw [initializedValue_eq, h, ok_map]
  exact
    { rule := h
      descriptor := by
        rw [findFromType_eq, h, ok_map]
        rfl
      type := by rw [typeFor_eq, h, ok_map]
      code := hcode
      initial := hinitial
      initial_code := by rw [hinitial, hcode] }

theorem refusesSource (h : t.resolve pair .source name = .error e) :
    t.RefusesSource pair name e where
  rule := h
  descriptor := by rw [findFromType_eq, h, error_map]
  type := by rw [typeFor_eq, h, error_map]
  code := by
    intro code context
    rw [convertForward_eq, h, error_map]
  initial := by rw [initializedValue_eq, h, error_map]

theorem answersTarget (h : t.resolve pair .target name = .ok r) :
    t.AnswersTarget pair name r where
  rule := h
  descriptor := by
    rw [findToType_eq, h, ok_map]
    rfl
  code := by
    intro code
    rw [convertBackward_eq, h, ok_map]

theorem refusesTarget (h : t.resolve pair .target name = .error e) :
    t.RefusesTarget pair name e where
  rule := h
  descriptor := by rw [findToType_eq, h, error_map]
  code := by
    intro code
    rw [convertBackward_eq, h, error_map]

end

/-- On every table the lookups of a name succeed together and use one rule, or fail together with
one failure, on each of its sides. The operations for one pair do what those for any pair do. -/
theorem lookups_agree (t : Table) (pair : SystemPair) (name : String) :
    ((∃ r, t.AnswersSource pair name r) ∨ ∃ e, t.RefusesSource pair name e) ∧
    ((∃ r, t.AnswersTarget pair name r) ∨ ∃ e, t.RefusesTarget pair name e) ∧
    t.NamedOperations := by
  refine ⟨?_, ?_, ?_⟩
  · cases h : t.resolve pair .source name with
    | ok r => exact .inl ⟨r, answersSource h⟩
    | error e => exact .inr ⟨e, refusesSource h⟩
  · cases h : t.resolve pair .target name with
    | ok r => exact .inl ⟨r, answersTarget h⟩
    | error e => exact .inr ⟨e, refusesTarget h⟩
  · constructor <;> intros <;> rfl

end TypeExchange.Table
