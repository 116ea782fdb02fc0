import Mathlib.Data.List.Forall2
import TypeExchange.Proofs.Config.Validation
import TypeExchange.Proofs.Table.Operations
import TypeExchange.Proofs.Table.Pairs
import TypeExchange.Proofs.Template.Grammar

/-! Configurations that are interpreted as they stand, and the tables that are built from them,
which answer alike. -/
namespace TypeExchange

/-- Copies the text of a template with code and context put in. -/
def Template.substitute (code : List Char) (context : Option (List Char)) :
    List Char → List Char
  | [] => []
  | '\x7b' :: '\x7b' :: rest => '\x7b' :: substitute code context rest
  | '\x7d' :: '\x7d' :: rest => '\x7d' :: substitute code context rest
  | '\x7b' :: 'c' :: 'o' :: 'd' :: 'e' :: '\x7d' :: rest => code ++ substitute code context rest
  | '\x7b' :: 'c' :: 'o' :: 'n' :: 't' :: 'e' :: 'x' :: 't' :: '\x7d' :: rest =>
    context.getD [] ++ substitute code context rest
  | c :: rest => c :: substitute code context rest

/-- A literal matches the whole of a name, an expression any part of it. What is no expression
matches nothing. -/
def PatternConfig.accepts : PatternConfig → String → Bool
  | literal name, candidate => name == candidate
  | expression text, candidate =>
    match Regex.ofText text with
    | .ok r => r.isMatch candidate
    | .error _ => false

def PatternConfig.isLiteral : PatternConfig → Bool
  | literal _ => true
  | expression _ => false

namespace RuleConfig

def pattern (r : RuleConfig) : Side → PatternConfig
  | .source => r.source
  | .target => r.target

def accepts (r : RuleConfig) (side : Side) (name : String) : Bool := (r.pattern side).accepts name

/-- The code that the rule's text makes. -/
def emit (r : RuleConfig) (code : String) (context : Option String) : String :=
  String.ofList
    (Template.substitute code.toList (context.map String.toList) r.convert.toList)

/-- A rule of a table does what a rule of a configuration says. -/
structure Realizes (r : RuleConfig) (rule : Rule) : Prop where
  accepts : ∀ side name, rule.accepts side name = r.accepts side name
  text : ∀ side, (rule.pattern side).text = (r.pattern side).text
  isLiteral : ∀ side, (rule.pattern side).isLiteral = (r.pattern side).isLiteral
  convert : ∀ code context, rule.converter.convert code context = r.emit code context
  init : rule.init = r.init

end RuleConfig

namespace TableConfig

/-- The entries for a pair, in their order. -/
def entriesOn (c : TableConfig) (pair : SystemPair) : List PairConfig :=
  c.conversions.filter (·.pair = pair)

/-- The rules of the entries for a pair, one entry after the other. -/
def rulesOn (c : TableConfig) (pair : SystemPair) : List RuleConfig :=
  (c.entriesOn pair).flatMap (·.rules)

/-- The first rule for a pair that matches. -/
def find (c : TableConfig) (pair : SystemPair) (side : Side) (name : String) :
    Except Failure RuleConfig :=
  if c.entriesOn pair = [] then .error (.unsupportedPair pair)
  else match (c.rulesOn pair).find? (·.accepts side name) with
    | some r => .ok r
    | none => .error (.noMatch pair name side)

def typeFor (c : TableConfig) (pair : SystemPair) (name : String) : Except Failure String :=
  (c.find pair .source name).map (·.target.text)

def convertForward (c : TableConfig) (pair : SystemPair) (code name : String)
    (context : Option String) : Except Failure String :=
  (c.find pair .source name).map (·.emit code context)

def convertBackward (c : TableConfig) (pair : SystemPair) (code name : String) :
    Except Failure String :=
  (c.find pair .target name).map (·.emit code none)

def initializedValue (c : TableConfig) (pair : SystemPair) (name : String) :
    Except Failure String :=
  (c.find pair .source name).map fun r => r.emit (r.init.getD "") none

end TableConfig

namespace Template

variable (code : List Char) (context : Option (List Char))

theorem substitute_char {c : Char} (ho : c ≠ '\x7b') (hc : c ≠ '\x7d') (rest : List Char) :
    substitute code context (c :: rest) = c :: substitute code context rest := by
  rw [substitute]
  · exact fun _ h => absurd h ho
  · exact fun _ h => absurd h hc
  · exact fun _ h => absurd h ho
  · exact fun _ h => absurd h ho

theorem substitute_spelling_append (t : TemplateToken) (rest : List Char) :
    substitute code context (t.spelling ++ rest) =
      t.rendering code context ++ substitute code context rest := by
  cases t with
  | char c =>
    by_cases ho : c = '\x7b'
    · subst ho
      rfl
    · by_cases hc : c = '\x7d'
      · subst hc
        rfl
      · rw [TemplateToken.spelling, if_neg (not_or.mpr ⟨ho, hc⟩)]
        exact substitute_char code context ho hc rest
  | code => rfl
  | context => rfl

theorem substitute_spell (ts : List TemplateToken) :
    substitute code context (spell ts) = ts.flatMap (TemplateToken.rendering code context) := by
  induction ts with
  | nil => rfl
  | cons t ts ih =>
    rw [spell, List.flatMap_cons, substitute_spelling_append, List.flatMap_cons]
    rw [spell] at ih
    rw [ih]

theorem render_eq_substitute {s : String} {t : Template} (h : parse s = .ok t) (code : String)
    (context : Option String) :
    t.render code context =
      String.ofList (substitute code.toList (context.map String.toList) s.toList) := by
  obtain ⟨ts, hs, -⟩ := parse_eq_ok_iff.mp h
  rw [render_of_spell h hs, hs, substitute_spell]

end Template

/-- What a written pattern can be compiled to. -/
theorem PatternConfig.compile_eq_ok_iff {p : PatternConfig} {pattern : Pattern} :
    p.compile = .ok pattern ↔
      (∃ name, p = .literal name ∧ pattern = .literal name) ∨
      ∃ text r, p = .expression text ∧ Regex.ofText text = .ok r ∧
        pattern = .expression text r := by
  cases p with
  | literal name => simp [PatternConfig.compile, eq_comm]
  | expression text =>
    cases hr : Regex.ofText text with
    | error fault => simp [PatternConfig.compile, Pattern.ofExpression, hr]
    | ok r => simp [PatternConfig.compile, Pattern.ofExpression, hr, eq_comm]

theorem PatternConfig.realized {p : PatternConfig} {pattern : Pattern}
    (h : p.compile = .ok pattern) :
    (∀ name, pattern.accepts name = p.accepts name) ∧ pattern.text = p.text ∧
      pattern.isLiteral = p.isLiteral := by
  rcases compile_eq_ok_iff.mp h with ⟨name, rfl, rfl⟩ | ⟨text, r, rfl, hr, rfl⟩
  · exact ⟨fun _ => rfl, rfl, rfl⟩
  · refine ⟨fun name => ?_, rfl, rfl⟩
    simp only [Pattern.accepts, PatternConfig.accepts, hr]

theorem Template.parseConfig_eq_ok_iff {s : String} {t : Template} :
    Template.parseConfig s = .ok t ↔ Template.parse s = .ok t := by
  unfold Template.parseConfig
  cases h : Template.parse s <;> simp

theorem RuleConfig.realizes_of_compile {r : RuleConfig} {rule : Rule} (h : r.compile = .ok rule) :
    r.Realizes rule := by
  unfold RuleConfig.compile at h
  obtain ⟨source, hs, h⟩ := bind_eq_ok_iff.mp h
  obtain ⟨target, ht, h⟩ := bind_eq_ok_iff.mp h
  obtain ⟨template, hc, h⟩ := bind_eq_ok_iff.mp h
  obtain rfl := Except.ok.inj h
  obtain ⟨hsa, hst, hsl⟩ := PatternConfig.realized hs
  obtain ⟨hta, htt, htl⟩ := PatternConfig.realized ht
  refine ⟨?_, ?_, ?_, ?_, rfl⟩
  · intro side name
    cases side with
    | source => exact hsa name
    | target => exact hta name
  · intro side
    cases side with
    | source => exact hst
    | target => exact htt
  · intro side
    cases side with
    | source => exact hsl
    | target => exact htl
  · intro code context
    exact Template.render_eq_substitute (Template.parseConfig_eq_ok_iff.mp hc) code context

theorem realizes_of_compileRules {rs : List RuleConfig} {rules : List Rule}
    (h : compileRules rs = .ok rules) : List.Forall₂ RuleConfig.Realizes rs rules := by
  induction rs generalizing rules with
  | nil =>
    obtain rfl := Except.ok.inj h
    exact .nil
  | cons r rest ih =>
    rw [compileRules] at h
    obtain ⟨rule, hr, h⟩ := bind_eq_ok_iff.mp h
    obtain ⟨rules', hrest, h⟩ := bind_eq_ok_iff.mp h
    obtain rfl := Except.ok.inj h
    exact .cons (RuleConfig.realizes_of_compile hr) (ih hrest)

/-- A step passes the rules of an entry for the entry's pair. -/
structure PairConfig.Realizes (p : PairConfig) (s : Table.Step) : Prop where
  pair : s.pair = p.pair
  rules : List.Forall₂ RuleConfig.Realizes p.rules s.passed

theorem realizes_of_compilePairs {ps : List PairConfig} {steps : List Table.Step}
    (h : compilePairs ps = .ok steps) : List.Forall₂ PairConfig.Realizes ps steps := by
  induction ps generalizing steps with
  | nil =>
    obtain rfl := Except.ok.inj h
    exact .nil
  | cons p rest ih =>
    rw [compilePairs] at h
    obtain ⟨rules, hr, h⟩ := bind_eq_ok_iff.mp h
    obtain ⟨steps', hrest, h⟩ := bind_eq_ok_iff.mp h
    obtain rfl := Except.ok.inj h
    exact .cons ⟨rfl, realizes_of_compileRules hr⟩ (ih hrest)

section
variable {ps : List PairConfig} {steps : List Table.Step}

/-- Entries and steps for one pair correspond. -/
theorem realizes_filter (h : List.Forall₂ PairConfig.Realizes ps steps) (pair : SystemPair) :
    List.Forall₂ PairConfig.Realizes (ps.filter (·.pair = pair)) (Table.stepsOn pair steps) := by
  induction h with
  | nil => exact .nil
  | @cons p s ps steps hp hps ih =>
    by_cases hpair : p.pair = pair
    · have hs : s.pair = pair := hp.pair.trans hpair
      simp only [Table.stepsOn, List.filter_cons, hpair, hs, decide_true, if_true]
      exact .cons hp ih
    · have hs : s.pair ≠ pair := fun he => hpair (hp.pair.symm.trans he)
      simpa [Table.stepsOn, List.filter_cons, hpair, hs] using ih

theorem realizes_flatMap (h : List.Forall₂ PairConfig.Realizes ps steps) :
    List.Forall₂ RuleConfig.Realizes (ps.flatMap (·.rules)) (steps.flatMap (·.passed)) := by
  induction h with
  | nil => exact .nil
  | cons hp hps ih =>
    rw [List.flatMap_cons, List.flatMap_cons]
    exact List.rel_append hp.rules ih

end

/-- Corresponding lists of rules are searched alike. -/
theorem find?_realizes {rs : List RuleConfig} {rules : List Rule}
    (h : List.Forall₂ RuleConfig.Realizes rs rules) (side : Side) (name : String) :
    Option.Rel RuleConfig.Realizes (rs.find? (·.accepts side name))
      (rules.find? (·.accepts side name)) := by
  induction h with
  | nil => exact .none
  | @cons r rule rs rules hr hrs ih =>
    rw [List.find?_cons, List.find?_cons, hr.accepts]
    cases r.accepts side name with
    | true => exact .some hr
    | false => exact ih

section
variable {c : TableConfig} {t : Table}

theorem exists_steps_of_build (h : c.build = .ok t) :
    ∃ steps, List.Forall₂ PairConfig.Realizes c.conversions steps ∧ t = .ofSteps steps := by
  unfold TableConfig.build at h
  obtain ⟨steps, hs, h⟩ := bind_eq_ok_iff.mp h
  exact ⟨steps, realizes_of_compilePairs hs, (Except.ok.inj h).symm⟩

/-- Configuration and table know the same pairs, with corresponding rules. -/
theorem rules_of_build (h : c.build = .ok t) (pair : SystemPair) :
    (c.entriesOn pair = [] ∧ t.rules pair = .error (.unsupportedPair pair)) ∨
    (c.entriesOn pair ≠ [] ∧ ∃ rules, t.rules pair = .ok rules ∧
      List.Forall₂ RuleConfig.Realizes (c.rulesOn pair) rules) := by
  obtain ⟨steps, hs, rfl⟩ := exists_steps_of_build h
  have hp := realizes_filter hs pair
  by_cases he : c.entriesOn pair = []
  · left
    rw [← TableConfig.entriesOn, he, List.forall₂_nil_left_iff] at hp
    exact ⟨he, Table.rules_ofSteps_of_stepsOn_eq_nil hp⟩
  · right
    have hne : Table.stepsOn pair steps ≠ [] := by
      intro hn
      rw [hn, List.forall₂_nil_right_iff] at hp
      exact he hp
    exact ⟨he, _, Table.rules_ofSteps hne, realizes_flatMap hp⟩

/-- What the configuration finds, the table finds, and they fail alike. -/
theorem resolve_of_build (h : c.build = .ok t) (pair : SystemPair) (side : Side) (name : String) :
    (∃ e, c.find pair side name = .error e ∧ t.resolve pair side name = .error e) ∨
    ∃ r rule, c.find pair side name = .ok r ∧ t.resolve pair side name = .ok rule ∧
      r.Realizes rule := by
  rcases rules_of_build h pair with ⟨he, hr⟩ | ⟨he, rules, hr, hrel⟩
  · left
    exact ⟨_, if_pos he, Table.resolve_eq_unsupported hr⟩
  · have hf := find?_realizes hrel side name
    simp only [TableConfig.find, if_neg he, Table.resolve, hr, ok_bind]
    cases hc : (c.rulesOn pair).find? (·.accepts side name) with
    | none =>
      cases ht : rules.find? (·.accepts side name) with
      | none => exact .inl ⟨_, rfl, rfl⟩
      | some rule =>
        rw [hc, ht] at hf
        contradiction
    | some r =>
      cases ht : rules.find? (·.accepts side name) with
      | none =>
        rw [hc, ht] at hf
        contradiction
      | some rule =>
        rw [hc, ht] at hf
        obtain ⟨hr⟩ := hf
        exact .inr ⟨r, rule, rfl, rfl, hr⟩

/-- Whatever is made of a found rule is the same for both. -/
theorem map_resolve_of_build {α : Type} {f : RuleConfig → α} {g : Rule → α} (h : c.build = .ok t)
    (hfg : ∀ r rule, r.Realizes rule → g rule = f r) (pair : SystemPair) (side : Side)
    (name : String) : (t.resolve pair side name).map g = (c.find pair side name).map f := by
  rcases resolve_of_build h pair side name with ⟨e, hc, ht⟩ | ⟨r, rule, hc, ht, hr⟩
  · rw [hc, ht, error_map, error_map]
  · rw [hc, ht, ok_map, ok_map, hfg r rule hr]

/-- A pair fails as unsupported where no entry names it. -/
theorem resolve_eq_unsupported_iff_of_build (h : c.build = .ok t) (pair : SystemPair) (side : Side)
    (name : String) : t.resolve pair side name = .error (.unsupportedPair pair) ↔
      ∀ p ∈ c.conversions, p.pair ≠ pair := by
  have he : c.entriesOn pair = [] ↔ ∀ p ∈ c.conversions, p.pair ≠ pair := by
    simp [TableConfig.entriesOn]
  rw [← he]
  rcases rules_of_build h pair with ⟨hnil, hr⟩ | ⟨hne, rules, hr, -⟩
  · simp [hnil, Table.resolve_eq_unsupported hr]
  · simp only [hne, iff_false, Table.resolve, hr, ok_bind]
    split <;> simp

theorem hasPair_of_build (h : c.build = .ok t) (pair : SystemPair) :
    t.hasPair pair = true ↔ pair ∈ c.conversions.map (·.pair) := by
  have he : c.entriesOn pair = [] ↔ pair ∉ c.conversions.map (·.pair) := by
    simp [TableConfig.entriesOn]
  rw [Table.hasPair_iff]
  rcases rules_of_build h pair with ⟨hnil, hr⟩ | ⟨hne, rules, hr, -⟩
  · simp only [hr, reduceCtorEq, exists_false, false_iff]
    exact he.mp hnil
  · simp only [hr, Except.ok.injEq, exists_eq', true_iff]
    by_contra hn
    exact hne (he.mpr hn)

/-- Where no pair has two entries, an entry is the only one for its pair. -/
theorem filter_pair_of_nodup {ps : List PairConfig} (h : (ps.map (·.pair)).Nodup) {p : PairConfig}
    (hp : p ∈ ps) : ps.filter (·.pair = p.pair) = [p] := by
  induction ps with
  | nil => contradiction
  | cons q rest ih =>
    rw [List.map_cons, List.nodup_cons] at h
    rcases List.mem_cons.mp hp with rfl | hp
    · have hn : rest.filter (·.pair = p.pair) = [] := by
        rw [List.filter_eq_nil_iff]
        intro q hq hqp
        exact h.1 (List.mem_map.mpr ⟨q, hq, of_decide_eq_true hqp⟩)
      simp [hn]
    · have hq : q.pair ≠ p.pair := fun he => h.1 (List.mem_map.mpr ⟨p, hp, he.symm⟩)
      simp [hq, ih h.2 hp]

theorem length_pairs_of_build (h : c.build = .ok t) (hd : (c.conversions.map (·.pair)).Nodup) :
    t.pairs.length = c.conversions.length := by
  have hperm : t.pairs.Perm (c.conversions.map (·.pair)) := by
    rw [List.perm_ext_iff_of_nodup t.nodup_pairs hd]
    intro p
    rw [Table.mem_pairs, hasPair_of_build h]
  rw [hperm.length_eq, List.length_map]

end

/-- A table that is built from a configuration answers as the configuration itself does when it
is interpreted: for each pair, the rules of its entries are searched in the order of the document,
and the text of the first that matches is copied with code and context put in. If the
configuration was accepted, the table has one pair for each entry, with the entry's rules. -/
theorem build_refines (c : TableConfig) (t : Table) (h : c.build = .ok t) :
    (∀ pair name, t.typeFor pair name = c.typeFor pair name) ∧
    (∀ pair code name context,
      t.convertForward pair code name context = c.convertForward pair code name context) ∧
    (∀ pair code name, t.convertBackward pair code name = c.convertBackward pair code name) ∧
    (∀ pair name, t.initializedValue pair name = c.initializedValue pair name) ∧
    (∀ pair side name, t.resolve pair side name = .error (.unsupportedPair pair) ↔
      ∀ p ∈ c.conversions, p.pair ≠ pair) ∧
    (c.validate = .ok () →
      1 ≤ c.conversions.length ∧ c.conversions.length ≤ 9 ∧
      t.pairs.length = c.conversions.length ∧
      ∀ p ∈ c.conversions, ∃ rules, t.rules p.pair = .ok rules ∧
        List.Forall₂ RuleConfig.Realizes p.rules rules) := by
  refine ⟨?_, ?_, ?_, ?_, ?_, ?_⟩
  · intro pair name
    rw [Table.typeFor_eq, TableConfig.typeFor]
    exact map_resolve_of_build h (fun r rule hr => hr.text .target) pair .source name
  · intro pair code name context
    rw [Table.convertForward_eq, TableConfig.convertForward]
    exact map_resolve_of_build h (fun r rule hr => hr.convert code context) pair .source name
  · intro pair code name
    rw [Table.convertBackward_eq, TableConfig.convertBackward]
    exact map_resolve_of_build h (fun r rule hr => hr.convert code none) pair .target name
  · intro pair name
    rw [Table.initializedValue_eq, TableConfig.initializedValue]
    apply map_resolve_of_build h _ pair .source name
    intro r rule hr
    rw [hr.init, hr.convert]
  · exact resolve_eq_unsupported_iff_of_build h
  · intro hv
    have hv := TableConfig.validate_eq_ok_iff.mp hv
    refine ⟨List.length_pos_iff.mpr hv.nonempty, ?_, length_pairs_of_build h hv.distinct, ?_⟩
    · rw [← List.length_map (·.pair)]
      exact SystemPair.length_le_of_nodup hv.distinct
    · intro p hp
      have he : c.entriesOn p.pair = [p] := filter_pair_of_nodup hv.distinct hp
      rcases rules_of_build h p.pair with ⟨hnil, -⟩ | ⟨-, rules, hr, hrel⟩
      · rw [he] at hnil
        contradiction
      · refine ⟨rules, hr, ?_⟩
        simpa [TableConfig.rulesOn, he] using hrel

/-- Two entries for one pair with another between them. -/
def splitConfig : TableConfig := ⟨[
  ⟨⟨.abi, .runtime⟩, [⟨.literal "bool", .literal "boolean", "\x7bcode\x7d", none⟩]⟩,
  ⟨⟨.value, .runtime⟩, []⟩,
  ⟨⟨.abi, .runtime⟩, [
    ⟨.expression "int(8|16)$", .literal "i32", "\x7bcode\x7d.toI32()", some "0"⟩,
    ⟨.expression "int", .literal "BigInt", "\x7b\x7b\x7bcontext\x7d\x7d\x7d", none⟩]⟩]⟩

/-- A valid configuration with two entries. -/
def pairwiseConfig : TableConfig := ⟨[
  ⟨⟨.abi, .runtime⟩, [⟨.literal "bool", .literal "boolean", "\x7bcode\x7d", none⟩]⟩,
  ⟨⟨.value, .runtime⟩, [
    ⟨.expression "^Int[0-9]?$", .literal "i32", "\x7bcode\x7d.toI32()", some "0"⟩,
    ⟨.literal "Bytes", .literal "Bytes", "\x7bcode\x7d.toBytes()", none⟩]⟩]⟩

theorem build_refines_split :
    (∃ t, splitConfig.build = .ok t ∧
      t.convertForward ⟨.abi, .runtime⟩ "x" "uint16" none = .ok "x.toI32()" ∧
      t.convertForward ⟨.abi, .runtime⟩ "x" "int24" (some "\x7bcode\x7d") =
        .ok "\x7b\x7bcode\x7d\x7d" ∧
      t.initializedValue ⟨.abi, .runtime⟩ "int8" = .ok "0.toI32()") ∧
    ∃ t, pairwiseConfig.build = .ok t ∧ t.pairs.length = 2 ∧
      t.convertBackward ⟨.abi, .runtime⟩ "x" "boolean" = .ok "x" ∧
      ∃ first second, t.rules ⟨.value, .runtime⟩ = .ok [first, second] ∧
        first.accepts .source "Int8" = true ∧ first.init = some "0" ∧
        second.accepts .source "Int8" = false ∧ second.init = none := by
  constructor
  · obtain ⟨t, h⟩ := exists_ok_of_isOk (x := splitConfig.build) (by decide +kernel)
    obtain ⟨-, hf, -, hi, -⟩ := build_refines splitConfig t h
    refine ⟨t, h, ?_, ?_, ?_⟩
    · rw [hf]
      decide +kernel
    · rw [hf]
      decide +kernel
    · rw [hi]
      decide +kernel
  · obtain ⟨t, h⟩ := exists_ok_of_isOk (x := pairwiseConfig.build) (by decide +kernel)
    obtain ⟨-, -, hback, -, -, hvalid⟩ := build_refines pairwiseConfig t h
    obtain ⟨-, -, hlength, hrules⟩ := hvalid (by decide +kernel)
    obtain ⟨rules, hr, hrel⟩ := hrules _ (List.mem_cons_of_mem _ List.mem_cons_self)
    obtain ⟨first, rest, hfirst, hrest, rfl⟩ := List.forall₂_cons_left_iff.mp hrel
    obtain ⟨second, rest, hsecond, hnil, rfl⟩ := List.forall₂_cons_left_iff.mp hrest
    obtain rfl := List.forall₂_nil_left_iff.mp hnil
    refine ⟨t, h, hlength, ?_, first, second, hr, ?_, hfirst.init, ?_, hsecond.init⟩
    · rw [hback]
      decide +kernel
    · rw [hfirst.accepts]
      decide +kernel
    · rw [hsecond.accepts]
      decide +kernel

end TypeExchange
