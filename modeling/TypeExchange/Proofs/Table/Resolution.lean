import Mathlib.Data.List.Induction
import Mathlib.Tactic.Common
import TypeExchange.Proofs.Results
import TypeExchange.Table

/-! Lookups in a table that was made step by step. For each pair the rules that its steps passed,
one step after the other, are searched in order, whatever other steps stand between them. -/
namespace TypeExchange.Table

/-- The pair that a step names. -/
def Step.pair : Step → SystemPair
  | .rule pair _ | .rules pair _ => pair

/-- The rules that a step passes. -/
def Step.passed : Step → List Rule
  | .rule _ r => [r]
  | .rules _ rs => rs

/-- The steps that name a pair, in their order. -/
def stepsOn (pair : SystemPair) (steps : List Step) : List Step := steps.filter (·.pair = pair)

/-- The rules that were passed for a pair, step after step. -/
def passedFor (pair : SystemPair) (steps : List Step) : List Rule :=
  (stepsOn pair steps).flatMap Step.passed

/-- The rule at place `i` matches, and none before it does. -/
structure FirstMatch (rules : List Rule) (side : Side) (name : String) (i : Nat) (rule : Rule) :
    Prop where
  place : rules[i]? = some rule
  hit : rule.accepts side name = true
  earlier : ∀ j < i, ∀ r, rules[j]? = some r → r.accepts side name = false

/-- On a pair, two tables answer every lookup alike. -/
structure AgreeOn (t u : Table) (pair : SystemPair) : Prop where
  hasPair : t.hasPair pair = u.hasPair pair
  rules : t.rules pair = u.rules pair
  locate : ∀ side name, t.locate pair side name = u.locate pair side name
  resolve : ∀ side name, t.resolve pair side name = u.resolve pair side name
  descriptor : ∀ side name, t.descriptor pair side name = u.descriptor pair side name
  initializer : ∀ name, t.initializer pair name = u.initializer pair name

/-- On a pair, what one table finds the other finds too. -/
structure KeptOn (t u : Table) (pair : SystemPair) : Prop where
  locate : ∀ {side name found}, t.locate pair side name = .ok found →
    u.locate pair side name = .ok found
  resolve : ∀ {side name r}, t.resolve pair side name = .ok r → u.resolve pair side name = .ok r
  descriptor : ∀ {side name d}, t.descriptor pair side name = .ok d →
    u.descriptor pair side name = .ok d
  initializer : ∀ {name code}, t.initializer pair name = .ok code →
    u.initializer pair name = .ok code

theorem AgreeOn.of_rules? {t u : Table} {pair : SystemPair} (h : t.rules? pair = u.rules? pair) :
    AgreeOn t u pair := by
  have hr : t.rules pair = u.rules pair := by simp only [Table.rules, h]
  have hs : ∀ side name, t.resolve pair side name = u.resolve pair side name := by
    intro side name
    simp only [Table.resolve, hr]
  exact
    { hasPair := by simp only [Table.hasPair, h]
      rules := hr
      locate := by
        intro side name
        simp only [Table.locate, hr]
      resolve := hs
      descriptor := by
        intro side name
        simp only [Table.descriptor, hs]
      initializer := by
        intro name
        simp only [Table.initializer, resolveBySource, hs] }

theorem lookup_extendEntries (pair p : SystemPair) (rules : List Rule) (entries : List Entry) :
    (extendEntries pair rules entries).lookup p =
      if p = pair then some ((entries.lookup pair).getD [] ++ rules) else entries.lookup p := by
  induction entries with
  | nil =>
    by_cases h : p = pair
    · simp [extendEntries, h]
    · simp [extendEntries, h]
  | cons e rest ih =>
    obtain ⟨q, rs⟩ := e
    rw [extendEntries]
    split
    next hq =>
      subst hq
      by_cases h : p = q
      · simp [h]
      · simp [h, List.lookup_cons, beq_eq_false_iff_ne.mpr h]
    next hq =>
      have hpq : (pair == q) = false := beq_eq_false_iff_ne.mpr (Ne.symm hq)
      rw [List.lookup_cons, List.lookup_cons, List.lookup_cons, hpq, ih]
      by_cases h : p = pair
      · subst h
        simp [hpq]
      · simp [h]

/-- What one step does to the rules of any pair. -/
theorem rules?_apply (t : Table) (s : Step) (p : SystemPair) :
    (t.apply s).rules? p =
      if p = s.pair then some ((t.rules? p).getD [] ++ s.passed) else t.rules? p := by
  have h : (t.apply s).rules? p = (extendEntries s.pair s.passed t.entries).lookup p := by
    cases s <;> rfl
  rw [h, lookup_extendEntries]
  by_cases hp : p = s.pair
  · simp [hp, rules?]
  · simp [hp, rules?]

theorem ofSteps_concat (steps : List Step) (s : Step) :
    ofSteps (steps ++ [s]) = (ofSteps steps).apply s := by
  simp [ofSteps, List.foldl_append]

theorem stepsOn_concat (pair : SystemPair) (steps : List Step) (s : Step) :
    stepsOn pair (steps ++ [s]) = stepsOn pair steps ++ if pair = s.pair then [s] else [] := by
  by_cases h : s.pair = pair
  · simp [stepsOn, h]
  · simp [stepsOn, h, Ne.symm h]

theorem stepsOn_eq_nil {pair : SystemPair} {steps : List Step} :
    stepsOn pair steps = [] ↔ ∀ s ∈ steps, s.pair ≠ pair := by
  simp [stepsOn]

theorem stepsOn_ne_nil {pair : SystemPair} {steps : List Step} :
    stepsOn pair steps ≠ [] ↔ ∃ s ∈ steps, s.pair = pair := by
  simp [stepsOn]

/-- What a run of steps leaves for any pair. -/
theorem rules?_ofSteps (steps : List Step) (p : SystemPair) :
    (ofSteps steps).rules? p =
      if stepsOn p steps = [] then none else some (passedFor p steps) := by
  induction steps using List.reverseRecOn with
  | nil => rfl
  | append_singleton steps s ih =>
    rw [ofSteps_concat, rules?_apply, ih, passedFor, passedFor, stepsOn_concat]
    by_cases hp : p = s.pair
    · subst hp
      by_cases hs : stepsOn s.pair steps = [] <;> simp [hs]
    · simp [hp]

example (r s : Rule) : (ofSteps [.rule ⟨.abi, .runtime⟩ r, .rules ⟨.value, .abi⟩ [],
    .rules ⟨.abi, .runtime⟩ [s, r]]).rules? ⟨.abi, .runtime⟩ = some [r, s, r] := rfl

theorem rules_ofSteps_of_stepsOn_eq_nil {steps : List Step} {pair : SystemPair}
    (h : stepsOn pair steps = []) :
    (ofSteps steps).rules pair = .error (.unsupportedPair pair) := by
  have hr := rules?_ofSteps steps pair
  rw [if_pos h] at hr
  simp only [Table.rules, hr]

theorem rules_ofSteps {steps : List Step} {pair : SystemPair} (h : stepsOn pair steps ≠ []) :
    (ofSteps steps).rules pair = .ok (passedFor pair steps) := by
  have hr := rules?_ofSteps steps pair
  rw [if_neg h] at hr
  simp only [Table.rules, hr]

theorem FirstMatch.unique {rules : List Rule} {side : Side} {name : String} {i j : Nat}
    {r r' : Rule} (h : FirstMatch rules side name i r) (h' : FirstMatch rules side name j r') :
    i = j := by
  rcases Nat.lt_trichotomy i j with hij | hij | hij
  · have := h'.earlier i hij r h.place
    rw [h.hit] at this
    contradiction
  · exact hij
  · have := h.earlier j hij r' h'.place
    rw [h'.hit] at this
    contradiction

/-- Searching the rules with their places finds the first match with its place. -/
theorem find?_zipIdx_eq_some_iff {rules : List Rule} {side : Side} {name : String} {i : Nat}
    {r : Rule} :
    rules.zipIdx.find? (fun e => e.1.accepts side name) = some (r, i) ↔
      FirstMatch rules side name i r := by
  rw [List.find?_eq_some_iff_getElem]
  constructor
  · rintro ⟨hit, k, hk, he, earlier⟩
    simp only [List.length_zipIdx, List.getElem_zipIdx] at hk he earlier
    obtain ⟨rfl, rfl⟩ := Prod.mk.inj he
    refine ⟨by simp [hk], hit, ?_⟩
    intro j hj r hr
    obtain ⟨_, rfl⟩ := List.getElem?_eq_some_iff.mp hr
    simpa using earlier j (by omega)
  · intro h
    obtain ⟨hi, rfl⟩ := List.getElem?_eq_some_iff.mp h.place
    refine ⟨h.hit, i, by simpa using hi, by simp, ?_⟩
    intro j hj
    have hj' : j < rules.length := Nat.lt_trans hj hi
    simp [h.earlier j hj rules[j] (by simp [hj'])]

theorem find?_zipIdx_eq_none_iff {rules : List Rule} {side : Side} {name : String} :
    rules.zipIdx.find? (fun e => e.1.accepts side name) = none ↔
      ∀ r ∈ rules, r.accepts side name = false := by
  rw [List.find?_eq_none]
  constructor
  · intro h r hr
    obtain ⟨i, hi, rfl⟩ := List.getElem_of_mem hr
    have hm : (rules[i], i) ∈ rules.zipIdx := by simp [List.mem_zipIdx_iff_getElem?, hi]
    simpa using h _ hm
  · intro h e he
    simp [h e.1 (List.fst_mem_of_mem_zipIdx he)]

/-- A lookup finds the rule that stands at the place it is located at. -/
theorem resolve_eq_map_locate (t : Table) (pair : SystemPair) (side : Side) (name : String) :
    t.resolve pair side name = (t.locate pair side name).map Prod.fst := by
  cases h : t.rules pair with
  | error e => simp only [resolve, locate, h, error_bind, error_map]
  | ok rules =>
    have hf : rules.find? (·.accepts side name) =
        (rules.zipIdx.find? (fun e => e.1.accepts side name)).map Prod.fst := by
      rw [show (fun e : Rule × Nat => e.1.accepts side name) =
        (fun r => r.accepts side name) ∘ Prod.fst from rfl, ← List.find?_map, List.zipIdx_map_fst]
    cases hz : rules.zipIdx.find? (fun e => e.1.accepts side name) with
    | none => simp [resolve, locate, h, hf, hz]
    | some found => simp [resolve, locate, h, hf, hz]

section
variable {t : Table} {pair : SystemPair} {rules : List Rule} {side : Side} {name : String}

theorem locate_eq_ok_iff (h : t.rules pair = .ok rules) {i : Nat} {r : Rule} :
    t.locate pair side name = .ok (r, i) ↔ FirstMatch rules side name i r := by
  rw [← find?_zipIdx_eq_some_iff]
  cases hz : rules.zipIdx.find? (fun e => e.1.accepts side name) <;>
    simp [locate, h, hz]

theorem locate_eq_noMatch (h : t.rules pair = .ok rules)
    (hn : ∀ r ∈ rules, r.accepts side name = false) :
    t.locate pair side name = .error (.noMatch pair name side) := by
  simp [locate, h, find?_zipIdx_eq_none_iff.mpr hn]

theorem resolve_eq_noMatch (h : t.rules pair = .ok rules)
    (hn : ∀ r ∈ rules, r.accepts side name = false) :
    t.resolve pair side name = .error (.noMatch pair name side) := by
  rw [resolve_eq_map_locate, locate_eq_noMatch h hn, error_map]

theorem resolve_eq_unsupported (h : t.rules pair = .error (.unsupportedPair pair)) :
    t.resolve pair side name = .error (.unsupportedPair pair) := by
  simp only [resolve, h, error_bind]

theorem exists_firstMatch (h : ∃ r ∈ rules, r.accepts side name = true) :
    ∃ i r, FirstMatch rules side name i r := by
  cases hz : rules.zipIdx.find? (fun e => e.1.accepts side name) with
  | none =>
    obtain ⟨r, hr, hit⟩ := h
    rw [find?_zipIdx_eq_none_iff.mp hz r hr] at hit
    contradiction
  | some found => exact ⟨found.2, found.1, find?_zipIdx_eq_some_iff.mp hz⟩

/-- A first match stays the first when rules are added behind it. -/
theorem FirstMatch.append {i : Nat} {r : Rule} (h : FirstMatch rules side name i r)
    (more : List Rule) : FirstMatch (rules ++ more) side name i r := by
  obtain ⟨hi, hr⟩ := List.getElem?_eq_some_iff.mp h.place
  refine ⟨by rw [List.getElem?_append_left hi, h.place], h.hit, ?_⟩
  intro j hj r' hr'
  rw [List.getElem?_append_left (Nat.lt_trans hj hi)] at hr'
  exact h.earlier j hj r' hr'

theorem KeptOn.of_error {u : Table} {e : Failure} (h : t.rules pair = .error e) :
    KeptOn t u pair := by
  have hr : ∀ side name, t.resolve pair side name = .error e := by
    intro side name
    simp only [Table.resolve, h, error_bind]
  refine ⟨?_, ?_, ?_, ?_⟩
  · intro side name found hf
    simp only [Table.locate, h] at hf
    contradiction
  · intro side name r hf
    rw [hr] at hf
    contradiction
  · intro side name d hf
    simp only [Table.descriptor, hr] at hf
    contradiction
  · intro name code hf
    simp only [Table.initializer, resolveBySource, hr] at hf
    contradiction

/-- Rules that are added behind those of a pair change nothing that was found. -/
theorem KeptOn.of_append {u : Table} {more : List Rule} (h : t.rules pair = .ok rules)
    (hu : u.rules pair = .ok (rules ++ more)) : KeptOn t u pair := by
  have hl : ∀ {side name found}, t.locate pair side name = .ok found →
      u.locate pair side name = .ok found := by
    intro side name found hf
    exact (locate_eq_ok_iff hu).mpr (((locate_eq_ok_iff h).mp hf).append more)
  have hr : ∀ {side name r}, t.resolve pair side name = .ok r →
      u.resolve pair side name = .ok r := by
    intro side name r hr
    rw [resolve_eq_map_locate] at hr ⊢
    cases hf : t.locate pair side name with
    | error e => rw [hf] at hr; contradiction
    | ok found => rw [hl hf, ← hr, hf]
  refine ⟨hl, hr, ?_, ?_⟩
  · intro side name d hd
    unfold Table.descriptor at hd ⊢
    cases hf : t.resolve pair side name with
    | error e => rw [hf] at hd; contradiction
    | ok r => rw [hr hf, ← hd, hf]
  · intro name code hc
    unfold Table.initializer resolveBySource at hc ⊢
    cases hf : t.resolve pair .source name with
    | error e => rw [hf] at hc; contradiction
    | ok r => rw [hr hf, ← hc, hf]

end

/-- A further step changes nothing that was found. -/
theorem keptOn_ofSteps_concat (steps : List Step) (s : Step) (pair : SystemPair) :
    KeptOn (ofSteps steps) (ofSteps (steps ++ [s])) pair := by
  by_cases h : stepsOn pair steps = []
  · exact .of_error (rules_ofSteps_of_stepsOn_eq_nil h)
  · have h' : stepsOn pair (steps ++ [s]) ≠ [] := by
      rw [stepsOn_concat]
      exact List.append_ne_nil_of_left_ne_nil h _
    apply KeptOn.of_append (rules_ofSteps h)
    rw [rules_ofSteps h', passedFor, stepsOn_concat, List.flatMap_append]
    rfl

theorem agreeOn_ofSteps {steps steps' : List Step} {pair : SystemPair}
    (h : stepsOn pair steps = stepsOn pair steps') :
    AgreeOn (ofSteps steps) (ofSteps steps') pair := by
  apply AgreeOn.of_rules?
  rw [rules?_ofSteps, rules?_ofSteps, passedFor, passedFor, h]

/-- The rules that the steps passed for a pair, in their order, answer every lookup on it: the
first that matches is found, and the failure tells a pair that no step names from a name that no
rule matches. Only the steps on a pair count for it, and a further step only adds to what can be
found. -/
theorem resolve_ofSteps (steps : List Step) (pair : SystemPair) (side : Side) (name : String) :
    ((∀ s ∈ steps, s.pair ≠ pair) →
      (ofSteps steps).resolve pair side name = .error (.unsupportedPair pair)) ∧
    ((∃ s ∈ steps, s.pair = pair) →
      (∀ r ∈ passedFor pair steps, r.accepts side name = false) →
      (ofSteps steps).resolve pair side name = .error (.noMatch pair name side)) ∧
    ((∃ r ∈ passedFor pair steps, r.accepts side name = true) →
      ∃ i r, FirstMatch (passedFor pair steps) side name i r ∧
        (∀ j r', FirstMatch (passedFor pair steps) side name j r' → j = i) ∧
        (ofSteps steps).locate pair side name = .ok (r, i) ∧
        (ofSteps steps).resolve pair side name = .ok r) ∧
    (∀ steps', (∀ p, stepsOn p steps' = stepsOn p steps) →
      ∀ p, AgreeOn (ofSteps steps') (ofSteps steps) p) ∧
    (∀ s, KeptOn (ofSteps steps) (ofSteps (steps ++ [s])) pair) ∧
    (∀ s, s.pair ≠ pair → AgreeOn (ofSteps (steps ++ [s])) (ofSteps steps) pair) := by
  refine ⟨?_, ?_, ?_, ?_, ?_, ?_⟩
  · intro hs
    exact resolve_eq_unsupported (rules_ofSteps_of_stepsOn_eq_nil (stepsOn_eq_nil.mpr hs))
  · intro hs hn
    exact resolve_eq_noMatch (rules_ofSteps (stepsOn_ne_nil.mpr hs)) hn
  · intro hex
    obtain ⟨i, r, hf⟩ := exists_firstMatch hex
    have hne : stepsOn pair steps ≠ [] := by
      rintro he
      obtain ⟨r, hr, _⟩ := hex
      simp [passedFor, he] at hr
    have hl := (locate_eq_ok_iff (rules_ofSteps hne)).mpr hf
    refine ⟨i, r, hf, fun j r' hf' => hf'.unique hf, hl, ?_⟩
    rw [resolve_eq_map_locate, hl, ok_map]
  · intro steps' h p
    exact agreeOn_ofSteps (h p)
  · intro s
    exact keptOn_ofSteps_concat steps s pair
  · intro s hs
    apply agreeOn_ofSteps
    rw [stepsOn_concat, if_neg (Ne.symm hs), List.append_nil]

end TypeExchange.Table
