import TypeExchange.Config.File
import TypeExchange.Proofs.Config.Interpretation

/-! Where the building of a table fails. The components of a configuration are compiled in the
order of the document, and the first that fails decides. -/
namespace TypeExchange

/-- What is compiled of a rule. -/
inductive Slot where
  | pattern (side : Side)
  | convert
  deriving DecidableEq, Repr

def Slot.rank : Slot → Nat
  | pattern .source => 0
  | pattern .target => 1
  | convert => 2

section
variable {P : Slot → Prop}

theorem Slot.forall_lt_target :
    (∀ slot, slot.rank < (pattern .target).rank → P slot) ↔ P (pattern .source) := by
  constructor
  · intro h
    exact h _ (by decide)
  · rintro h ((_ | _) | _) hlt
    · exact h
    · exact absurd hlt (by decide)
    · exact absurd hlt (by decide)

theorem Slot.forall_lt_convert :
    (∀ slot, slot.rank < convert.rank → P slot) ↔ P (pattern .source) ∧ P (pattern .target) := by
  constructor
  · intro h
    exact ⟨h _ (by decide), h _ (by decide)⟩
  · rintro ⟨hs, ht⟩ ((_ | _) | _) hlt
    · exact hs
    · exact ht
    · exact absurd hlt (by decide)

end

/-- Where a component stands. Entries and rules are counted from zero. -/
structure Place where
  entry : Nat
  rule : Nat
  slot : Slot
  deriving DecidableEq, Repr

/-- The order of the document: within a rule the source comes first and the template last. -/
instance : LT Place :=
  ⟨fun p q => p.entry < q.entry ∨ (p.entry = q.entry ∧
    (p.rule < q.rule ∨ (p.rule = q.rule ∧ p.slot.rank < q.slot.rank)))⟩

theorem Place.lt_iff {p q : Place} :
    p < q ↔ p.entry < q.entry ∨ (p.entry = q.entry ∧
      (p.rule < q.rule ∨ (p.rule = q.rule ∧ p.slot.rank < q.slot.rank))) := Iff.rfl

inductive Component where
  | pattern (p : PatternConfig)
  | template (text : String)
  deriving DecidableEq, Repr

/-- Expressions that are none fail, and texts that are no templates. -/
inductive Component.Fails : Component → Failure → Prop
  | pattern {text : String} {fault : Regex.Fault} (h : Regex.ofText text = .error fault) :
      Fails (.pattern (.expression text)) (.pattern text fault.message)
  | template {text : String} {fault : TemplateFault} (h : Template.parse text = .error fault) :
      Fails (.template text) (.config (.template fault))

def RuleConfig.component (r : RuleConfig) : Slot → Component
  | .pattern .source => .pattern r.source
  | .pattern .target => .pattern r.target
  | .convert => .template r.convert

/-- The component of a rule fails, and those before it do not. -/
structure RuleConfig.FirstFailure (r : RuleConfig) (slot : Slot) (e : Failure) : Prop where
  fails : (r.component slot).Fails e
  earlier : ∀ slot', slot'.rank < slot.rank → ∀ e', ¬(r.component slot').Fails e'

namespace TableConfig

def component? (c : TableConfig) (p : Place) : Option Component := do
  let pair ← c.conversions[p.entry]?
  let rule ← pair.rules[p.rule]?
  return rule.component p.slot

/-- The component at a place fails, and none before it does. -/
structure FirstFailure (c : TableConfig) (p : Place) (component : Component) (e : Failure) :
    Prop where
  place : c.component? p = some component
  fails : component.Fails e
  earlier : ∀ q < p, ∀ other, c.component? q = some other → ∀ e', ¬other.Fails e'

theorem component?_eq_some_iff {c : TableConfig} {p : Place} {component : Component} :
    c.component? p = some component ↔
      ∃ pair rule, c.conversions[p.entry]? = some pair ∧ pair.rules[p.rule]? = some rule ∧
        rule.component p.slot = component := by
  simp [component?, Option.bind_eq_some_iff]

end TableConfig

theorem PatternConfig.compile_eq_error_iff {p : PatternConfig} {e : Failure} :
    p.compile = .error e ↔ (Component.pattern p).Fails e := by
  cases p with
  | literal name =>
    constructor
    · intro h
      contradiction
    · intro h
      cases h
  | expression text =>
    constructor
    · intro h
      cases hr : Regex.ofText text with
      | ok r => simp [PatternConfig.compile, Pattern.ofExpression, hr] at h
      | error fault =>
        simp only [PatternConfig.compile, Pattern.ofExpression, hr, Except.error.injEq] at h
        exact h ▸ .pattern hr
    · intro h
      cases h with
      | pattern hr => simp only [PatternConfig.compile, Pattern.ofExpression, hr]

theorem Template.parseConfig_eq_error_iff {s : String} {e : Failure} :
    Template.parseConfig s = .error e ↔ (Component.template s).Fails e := by
  constructor
  · intro h
    cases hp : Template.parse s with
    | ok t => simp [Template.parseConfig, hp] at h
    | error fault =>
      simp only [Template.parseConfig, hp, Except.error.injEq] at h
      exact h ▸ .template hp
  · intro h
    cases h with
    | template hp => simp only [Template.parseConfig, hp]

theorem PatternConfig.compiles_iff {p : PatternConfig} :
    (∃ pattern, p.compile = .ok pattern) ↔ ∀ e, ¬(Component.pattern p).Fails e := by
  simp only [exists_ok_iff, ne_eq, compile_eq_error_iff]

theorem Template.parsesConfig_iff {s : String} :
    (∃ t, Template.parseConfig s = .ok t) ↔ ∀ e, ¬(Component.template s).Fails e := by
  simp only [exists_ok_iff, ne_eq, parseConfig_eq_error_iff]

namespace RuleConfig

/-- A rule fails with the first of its components that fails. -/
theorem compile_eq_error_iff {r : RuleConfig} {e : Failure} :
    r.compile = .error e ↔ ∃ slot, r.FirstFailure slot e := by
  have hc : r.compile = .error e ↔
      (Component.pattern r.source).Fails e ∨
      (∀ e', ¬(Component.pattern r.source).Fails e') ∧
        ((Component.pattern r.target).Fails e ∨
        (∀ e', ¬(Component.pattern r.target).Fails e') ∧
          (Component.template r.convert).Fails e) := by
    simp only [compile, bind_eq_error_iff, PatternConfig.compile_eq_error_iff,
      Template.parseConfig_eq_error_iff, ← PatternConfig.compiles_iff, pure, Except.pure,
      reduceCtorEq, and_false, exists_false, or_false, exists_and_right]
  rw [hc]
  constructor
  · rintro (h | ⟨hs, h | ⟨ht, h⟩⟩)
    · exact ⟨.pattern .source, h, fun _ hlt => absurd hlt (Nat.not_lt_zero _)⟩
    · exact ⟨.pattern .target, h, Slot.forall_lt_target.mpr hs⟩
    · exact ⟨.convert, h, Slot.forall_lt_convert.mpr ⟨hs, ht⟩⟩
  · rintro ⟨(_ | _) | _, h, hearlier⟩
    · exact .inl h
    · exact .inr ⟨Slot.forall_lt_target.mp hearlier, .inl h⟩
    · obtain ⟨hs, ht⟩ := Slot.forall_lt_convert.mp hearlier
      exact .inr ⟨hs, .inr ⟨ht, h⟩⟩

theorem compiles_iff {r : RuleConfig} :
    (∃ rule, r.compile = .ok rule) ↔ ∀ slot e, ¬(r.component slot).Fails e := by
  constructor
  · rintro ⟨rule, h⟩
    unfold compile at h
    obtain ⟨source, hs, h⟩ := bind_eq_ok_iff.mp h
    obtain ⟨target, ht, h⟩ := bind_eq_ok_iff.mp h
    obtain ⟨template, hc, -⟩ := bind_eq_ok_iff.mp h
    rintro ((_ | _) | _)
    · exact PatternConfig.compiles_iff.mp ⟨source, hs⟩
    · exact PatternConfig.compiles_iff.mp ⟨target, ht⟩
    · exact Template.parsesConfig_iff.mp ⟨template, hc⟩
  · intro h
    rw [exists_ok_iff]
    intro e he
    obtain ⟨slot, hf⟩ := compile_eq_error_iff.mp he
    exact h slot e hf.fails

end RuleConfig

theorem compileRules_eq_mapM (rs : List RuleConfig) :
    compileRules rs = rs.mapM RuleConfig.compile := by
  induction rs with
  | nil => rfl
  | cons r rest ih => rw [compileRules, List.mapM_cons, ih]

theorem compilePairs_eq_mapM (ps : List PairConfig) :
    compilePairs ps = ps.mapM fun p => (compileRules p.rules).map (.rules p.pair) := by
  induction ps with
  | nil => rfl
  | cons p rest ih =>
    rw [compilePairs, List.mapM_cons, ih]
    cases compileRules p.rules <;> rfl

theorem compileRules_compiles_iff {rs : List RuleConfig} :
    (∃ rules, compileRules rs = .ok rules) ↔
      ∀ r ∈ rs, ∀ slot e, ¬(r.component slot).Fails e := by
  rw [compileRules_eq_mapM, mapM_isOk_iff]
  simp only [RuleConfig.compiles_iff]

theorem compileRules_eq_error_iff {rs : List RuleConfig} {e : Failure} :
    compileRules rs = .error e ↔
      ∃ (j : Nat) (r : RuleConfig) (slot : Slot), rs[j]? = some r ∧ r.FirstFailure slot e ∧
        ∀ j' < j, ∀ r', rs[j']? = some r' → ∀ slot' e', ¬(r'.component slot').Fails e' := by
  rw [compileRules_eq_mapM, mapM_eq_error_iff]
  simp only [RuleConfig.compile_eq_error_iff, RuleConfig.compiles_iff]
  constructor
  · rintro ⟨j, r, hr, ⟨slot, hf⟩, hearlier⟩
    exact ⟨j, r, slot, hr, hf, hearlier⟩
  · rintro ⟨j, r, slot, hr, hf, hearlier⟩
    exact ⟨j, r, hr, ⟨slot, hf⟩, hearlier⟩

theorem rulesStep_compiles_iff {p : PairConfig} :
    (∃ s, (compileRules p.rules).map (Table.Step.rules p.pair) = .ok s) ↔
      ∀ r ∈ p.rules, ∀ slot e, ¬(r.component slot).Fails e := by
  rw [← compileRules_compiles_iff]
  cases compileRules p.rules <;> simp

theorem compilePairs_eq_error_iff {ps : List PairConfig} {e : Failure} :
    compilePairs ps = .error e ↔
      ∃ (i : Nat) (p : PairConfig), ps[i]? = some p ∧ compileRules p.rules = .error e ∧
        ∀ i' < i, ∀ p', ps[i']? = some p' → ∀ r ∈ p'.rules, ∀ slot e',
          ¬(r.component slot).Fails e' := by
  rw [compilePairs_eq_mapM, mapM_eq_error_iff]
  simp only [map_eq_error_iff, rulesStep_compiles_iff]

namespace TableConfig

/-- A table is built where no component fails. -/
theorem build_isOk_iff {c : TableConfig} :
    (∃ t, c.build = .ok t) ↔
      ∀ p component, c.component? p = some component → ∀ e, ¬component.Fails e := by
  have hb : (∃ t, c.build = .ok t) ↔ ∃ steps, compilePairs c.conversions = .ok steps := by
    unfold build
    cases compilePairs c.conversions <;> simp [pure, Except.pure]
  rw [hb, compilePairs_eq_mapM, mapM_isOk_iff]
  simp only [rulesStep_compiles_iff]
  constructor
  · rintro h p component hplace
    obtain ⟨pair, rule, hpair, hrule, rfl⟩ := component?_eq_some_iff.mp hplace
    exact h pair (List.mem_of_getElem? hpair) rule (List.mem_of_getElem? hrule) p.slot
  · intro h pair hpair rule hrule slot
    obtain ⟨i, hi⟩ := List.mem_iff_getElem?.mp hpair
    obtain ⟨j, hj⟩ := List.mem_iff_getElem?.mp hrule
    exact h ⟨i, j, slot⟩ _ (component?_eq_some_iff.mpr ⟨pair, rule, hi, hj, rfl⟩)

/-- The first component that fails in the order of the document decides. -/
theorem build_eq_error_iff {c : TableConfig} {e : Failure} :
    c.build = .error e ↔ ∃ p component, c.FirstFailure p component e := by
  have hb : c.build = .error e ↔ compilePairs c.conversions = .error e := by
    unfold build
    cases compilePairs c.conversions <;> simp [pure, Except.pure]
  rw [hb, compilePairs_eq_error_iff]
  constructor
  · rintro ⟨i, pair, hp, hf, hpairs⟩
    obtain ⟨j, rule, slot, hr, hf, hrules⟩ := compileRules_eq_error_iff.mp hf
    refine ⟨⟨i, j, slot⟩, _, component?_eq_some_iff.mpr ⟨pair, rule, hp, hr, rfl⟩, hf.fails, ?_⟩
    rintro ⟨i', j', slot'⟩ hlt other ho
    obtain ⟨pair', rule', hp', hr', rfl⟩ := component?_eq_some_iff.mp ho
    rcases Place.lt_iff.mp hlt with hi | ⟨rfl, hj | ⟨rfl, hs⟩⟩
    · exact hpairs i' hi pair' hp' rule' (List.mem_of_getElem? hr') slot'
    · obtain rfl := Option.some.inj (hp.symm.trans hp')
      exact hrules j' hj rule' hr' slot'
    · obtain rfl := Option.some.inj (hp.symm.trans hp')
      obtain rfl := Option.some.inj (hr.symm.trans hr')
      exact hf.earlier slot' hs
  · rintro ⟨⟨i, j, slot⟩, component, hplace, hf, hearlier⟩
    obtain ⟨pair, rule, hp, hr, rfl⟩ := component?_eq_some_iff.mp hplace
    -- A component before this one is sought where it would stand.
    have hno : ∀ {i' j' slot' pair' rule'}, (⟨i', j', slot'⟩ : Place) < ⟨i, j, slot⟩ →
        c.conversions[i']? = some pair' → pair'.rules[j']? = some rule' →
        ∀ e', ¬(rule'.component slot').Fails e' := by
      intro i' j' slot' pair' rule' hlt hp' hr'
      exact hearlier _ hlt _ (component?_eq_some_iff.mpr ⟨pair', rule', hp', hr', rfl⟩)
    refine ⟨i, pair, hp, compileRules_eq_error_iff.mpr ⟨j, rule, slot, hr, ⟨hf, ?_⟩, ?_⟩, ?_⟩
    · intro slot' hs
      exact hno (.inr ⟨rfl, .inr ⟨rfl, hs⟩⟩) hp hr
    · intro j' hj rule' hr' slot'
      exact hno (.inr ⟨rfl, .inl hj⟩) hp hr'
    · intro i' hi pair' hp' rule' hr' slot'
      obtain ⟨j', hr'⟩ := List.mem_iff_getElem?.mp hr'
      exact hno (.inl hi) hp' hr'

theorem validate_of_ofYaml {text : String} {c : TableConfig} (h : ofYaml text = .ok c) :
    c.validate = .ok () := by
  unfold ofYaml at h
  split at h
  next c' _ =>
    obtain ⟨⟨⟩, hv, h⟩ := bind_eq_ok_iff.mp h
    obtain rfl := Except.ok.inj h
    exact hv
  next => contradiction

theorem validate_of_ofFile {file : Except FileFault ByteArray} {c : TableConfig}
    (h : ofFile file = .ok c) : c.validate = .ok () := by
  obtain ⟨text, -, h⟩ := bind_eq_ok_iff.mp h
  exact validate_of_ofYaml h

/-- The templates of a configuration that was accepted do not fail. -/
theorem FirstFailure.pattern_of_validate {c : TableConfig} (hv : c.validate = .ok ()) {p : Place}
    {component : Component} {e : Failure} (h : c.FirstFailure p component e) :
    ∃ text fault, component = .pattern (.expression text) ∧
      Regex.ofText text = .error fault ∧ e = .pattern text fault.message := by
  cases h.fails with
  | pattern hr => exact ⟨_, _, rfl, hr, rfl⟩
  | template ht =>
    obtain ⟨pair, rule, hp, hr, hc⟩ := component?_eq_some_iff.mp h.place
    have hvalid := (validate_eq_ok_iff.mp hv).rules pair (List.mem_of_getElem? hp)
    obtain ⟨t, hparse⟩ := (hvalid.2 rule (List.mem_of_getElem? hr)).convert
    rcases p with ⟨i, j, (_ | _) | _⟩
    · contradiction
    · contradiction
    · obtain rfl := Component.template.inj hc
      rw [hparse] at ht
      contradiction

/-- Building a table fails where some component of the configuration does, with the failure of the
first of them in the order of the document. Otherwise all rules of all entries get into the table,
in their order. Of a configuration that was accepted only expressions can fail. -/
theorem build_first_failure (c : TableConfig) :
    ((∃ e, c.build = .error e) ↔
      ∃ p component, c.component? p = some component ∧ ∃ e, component.Fails e) ∧
    (∀ e, c.build = .error e ↔ ∃ p component, c.FirstFailure p component e) ∧
    (∀ t, c.build = .ok t →
      ∃ steps, List.Forall₂ PairConfig.Realizes c.conversions steps ∧ t = .ofSteps steps) ∧
    (c.validate = .ok () ∨ (∃ text, ofYaml text = .ok c) ∨ (∃ file, ofFile file = .ok c) →
      (∀ fault, c.build ≠ .error (.config fault)) ∧
      ((∃ t, c.build = .ok t) ∨ ∃ p text, ∃ fault : Regex.Fault,
        c.FirstFailure p (.pattern (.expression text)) (.pattern text fault.message) ∧
        c.build = .error (.pattern text fault.message))) := by
  refine ⟨?_, fun e => build_eq_error_iff, fun t => exists_steps_of_build, ?_⟩
  · constructor
    · rintro ⟨e, h⟩
      obtain ⟨p, component, hf⟩ := build_eq_error_iff.mp h
      exact ⟨p, component, hf.place, e, hf.fails⟩
    · rintro ⟨p, component, hplace, e, hf⟩
      cases hb : c.build with
      | error e' => exact ⟨e', rfl⟩
      | ok t => exact absurd hf (build_isOk_iff.mp ⟨t, hb⟩ p component hplace e)
  · intro h
    have hv : c.validate = .ok () := by
      rcases h with h | ⟨text, h⟩ | ⟨file, h⟩
      · exact h
      · exact validate_of_ofYaml h
      · exact validate_of_ofFile h
    cases hb : c.build with
    | ok t => exact ⟨fun _ => by simp, .inl ⟨t, rfl⟩⟩
    | error e =>
      obtain ⟨p, component, hf⟩ := build_eq_error_iff.mp hb
      obtain ⟨text, fault, rfl, -, rfl⟩ := hf.pattern_of_validate hv
      exact ⟨fun _ => by simp, .inr ⟨p, text, fault, hf, rfl⟩⟩

/-- The target comes before the template beside it, and before the entries that follow. -/
example : build ⟨[
    ⟨⟨.abi, .runtime⟩, [⟨.expression "a", .literal "b", "\x7bcode\x7d", none⟩,
      ⟨.literal "bool", .expression "(", "\x7b", none⟩]⟩,
    ⟨⟨.abi, .runtime⟩, [⟨.expression "[", .literal "b", "\x7d", none⟩]⟩]⟩ =
    .error (.pattern "(" "unclosed group") := by cbv

end TableConfig
end TypeExchange
