import Mathlib.Data.List.Nodup
import Mathlib.Tactic.Common
import TypeExchange.Config.Json
import TypeExchange.Proofs.Results

/-! The JSON values that write a configuration. What a value may be is said level by level, without
the readers, which accept these values and nothing else. -/
namespace TypeExchange

/-- A record is written as an object, whose keys are distinct names of fields, or as an array with
the first of the fields in their order. `field` gives the fields that are there. -/
inductive Json.Record (names : List String) : Json → (String → Option Json) → Prop
  | object {members : List (String × Json)} (distinct : (members.map Prod.fst).Nodup)
      (known : ∀ name ∈ members.map Prod.fst, name ∈ names) :
      Record names (.object members) (fun name => members.lookup name)
  | array {items : List Json} (few : items.length ≤ names.length) :
      Record names (.array items) (fun name => (names.zip items).lookup name)

section
variable {α : Type} (written : α → Json → Prop) (x : α)

/-- A field that has to be there writes a value. -/
def Given : Option Json → Prop
  | some v => written x v
  | none => False

/-- A field writes a value, which is known where the field is missing. -/
def GivenOr (default : α) : Option Json → Prop
  | some v => written x v
  | none => x = default

/-- An array writes a list, item by item. -/
def WrittenList (xs : List α) (v : Json) : Prop :=
  ∃ items, v = .array items ∧ List.Forall₂ written xs items

end

def WrittenText (s : String) (v : Json) : Prop := v = .string s

/-- A text that may be missing is written as a string or as null. -/
def WrittenOptional : Option String → Json → Prop
  | some s, v => v = .string s
  | none, v => v = .null

/-- A system is written by any of its names. -/
def TypeSystem.WrittenAs (s : TypeSystem) (v : Json) : Prop :=
  ∃ name, v = .string name ∧ TypeSystem.normalize name = .ok s

/-- A name is written as a string, an expression under a key of an object, which may have others. -/
def PatternConfig.WrittenAs : PatternConfig → Json → Prop
  | literal name, v => v = .string name
  | expression text, v =>
    ∃ members, v = .object members ∧ members.lookup "pattern" = some (.string text)

@[mk_iff]
structure RuleConfig.WrittenIn (r : RuleConfig) (field : String → Option Json) : Prop where
  source : Given PatternConfig.WrittenAs r.source (field "source")
  target : Given PatternConfig.WrittenAs r.target (field "target")
  convert : GivenOr WrittenText r.convert "\x7bcode\x7d" (field "convert")
  init : GivenOr WrittenOptional r.init none (field "init")

def RuleConfig.WrittenAs (r : RuleConfig) (v : Json) : Prop :=
  ∃ field, v.Record ["source", "target", "convert", "init"] field ∧ r.WrittenIn field

@[mk_iff]
structure PairConfig.WrittenIn (p : PairConfig) (field : String → Option Json) : Prop where
  source : Given TypeSystem.WrittenAs p.pair.source (field "from")
  target : Given TypeSystem.WrittenAs p.pair.target (field "to")
  rules : GivenOr (WrittenList RuleConfig.WrittenAs) p.rules [] (field "rules")

def PairConfig.WrittenAs (p : PairConfig) (v : Json) : Prop :=
  ∃ field, v.Record ["from", "to", "rules"] field ∧ p.WrittenIn field

/-- The schema of configurations. -/
def TableConfig.WrittenAs (c : TableConfig) (v : Json) : Prop :=
  ∃ field, v.Record ["conversions"] field ∧
    Given (WrittenList PairConfig.WrittenAs) c.conversions (field "conversions")

namespace Json

variable {names : List String} {field : String → Option Json}

theorem record_object_iff {members : List (String × Json)} :
    (object members).Record names field ↔ (members.map Prod.fst).Nodup ∧
      (∀ name ∈ members.map Prod.fst, name ∈ names) ∧ field = (members.lookup ·) := by
  constructor
  · rintro ⟨distinct, known⟩
    exact ⟨distinct, known, rfl⟩
  · rintro ⟨distinct, known, rfl⟩
    exact .object distinct known

theorem record_array_iff {items : List Json} :
    (array items).Record names field ↔
      items.length ≤ names.length ∧ field = ((names.zip items).lookup ·) := by
  constructor
  · intro h
    cases h with
    | array few => exact ⟨few, rfl⟩
  · rintro ⟨few, rfl⟩
    exact .array few

end Json

namespace Config

section
variable {α : Type} {read : Json → Except SchemaFault α} {written : α → Json → Prop}

/-- What a reader makes of a field that may be missing. -/
def Reads (read : Json → Except SchemaFault α) : Option Json → Option α → Prop
  | some v, x => ∃ y, read v = .ok y ∧ x = some y
  | none, x => x = none

theorem reads_some_iff (h : ∀ v x, read v = .ok x ↔ written x v) {field : Option Json} {x : α} :
    Reads read field (some x) ↔ Given written x field := by
  cases field with
  | none => simp [Reads, Given]
  | some v => simp [Reads, Given, h]

theorem reads_getD_iff (h : ∀ v x, read v = .ok x ↔ written x v) {field : Option Json}
    {x default : α} :
    (∃ o, Reads read field o ∧ o.getD default = x) ↔ GivenOr written x default field := by
  cases field with
  | none => simp [Reads, GivenOr, eq_comm]
  | some v => simp [Reads, GivenOr, h]

/-- Sets one field to the values under its key, one member after the other. -/
def gather (name : String) (read : Json → Except SchemaFault α) (old : Option α) :
    List (String × Json) → Except SchemaFault (Option α)
  | [] => .ok old
  | (key, v) :: rest => do
    if key = name then gather name read (← setOnce key old (read v)) rest
    else gather name read old rest

theorem setOnce_eq_ok_iff {name : String} {old x : Option α} {new : Except SchemaFault α} :
    setOnce name old new = .ok x ↔ old = none ∧ ∃ y, new = .ok y ∧ x = some y := by
  cases old with
  | some y => simp [setOnce]
  | none => cases new <;> simp [setOnce, pure, Except.pure, eq_comm]

theorem gather_some_eq_ok_iff {name : String} {y : α} {members : List (String × Json)}
    {x : Option α} :
    gather name read (some y) members = .ok x ↔
      name ∉ members.map Prod.fst ∧ x = some y := by
  induction members with
  | nil => simp [gather, eq_comm]
  | cons m rest ih =>
    obtain ⟨key, v⟩ := m
    by_cases hk : key = name
    · simp [gather, hk, setOnce]
    · simp [gather, hk, ih, Ne.symm hk]

/-- A key that comes once gives its value. -/
theorem gather_eq_ok_iff {name : String} {members : List (String × Json)} {x : Option α} :
    gather name read none members = .ok x ↔
      (members.map Prod.fst).count name ≤ 1 ∧ Reads read (members.lookup name) x := by
  induction members with
  | nil => simp [gather, Reads, eq_comm]
  | cons m rest ih =>
    obtain ⟨key, v⟩ := m
    by_cases hk : key = name
    · subst hk
      simp only [gather, if_true, bind_eq_ok_iff, setOnce_eq_ok_iff, true_and, List.map_cons,
        List.count_cons_self, List.lookup_cons_self, Reads]
      have hc : (rest.map Prod.fst).count key + 1 ≤ 1 ↔ key ∉ rest.map Prod.fst := by
        rw [← List.count_eq_zero]
        omega
      rw [hc]
      constructor
      · rintro ⟨_, ⟨y, hy, rfl⟩, h⟩
        obtain ⟨hn, rfl⟩ := gather_some_eq_ok_iff.mp h
        exact ⟨hn, y, hy, rfl⟩
      · rintro ⟨hn, y, hy, rfl⟩
        exact ⟨some y, ⟨y, hy, rfl⟩, gather_some_eq_ok_iff.mpr ⟨hn, rfl⟩⟩
    · have hne : (name == key) = false := beq_eq_false_iff_ne.mpr (Ne.symm hk)
      simp [gather, hk, ih, List.lookup_cons, hne]

end

/-- Among known names, distinct keys are keys that each come once. -/
theorem nodup_iff_of_known {keys names : List String} (h : ∀ key ∈ keys, key ∈ names) :
    keys.Nodup ↔ ∀ name ∈ names, keys.count name ≤ 1 := by
  rw [List.nodup_iff_count_le_one]
  constructor
  · intro hc name _
    exact hc name
  · intro hc name
    by_cases hn : name ∈ keys
    · exact hc name (h name hn)
    · rw [List.count_eq_zero.mpr hn]
      omega

theorem readString_eq_ok_iff (v : Json) (s : String) :
    readString v = .ok s ↔ WrittenText s v := by
  cases v <;> simp [readString, WrittenText]

theorem readOptional_eq_ok_iff (v : Json) (o : Option String) :
    readOptional v = .ok o ↔ WrittenOptional o v := by
  cases v <;> cases o <;> simp [readOptional, readString, WrittenOptional, pure, Except.pure]

theorem readSystem_eq_ok_iff (v : Json) (s : TypeSystem) :
    readSystem v = .ok s ↔ s.WrittenAs v := by
  have hname : ∀ name : String,
      (TypeSystem.ofName name).mapError SchemaFault.system = .ok s ↔
        TypeSystem.normalize name = .ok s := by
    intro name
    rw [TypeSystem.normalize]
    cases TypeSystem.ofName name <;> simp [Except.mapError]
  simp [readSystem, bind_eq_ok_iff, readString_eq_ok_iff, WrittenText, TypeSystem.WrittenAs, hname]

theorem readPattern_object_eq_ok_iff {members : List (String × Json)} {p : PatternConfig} :
    readPattern (.object members) = .ok p ↔
      ∃ text, members.lookup "pattern" = some (.string text) ∧ p = .expression text := by
  rw [readPattern]
  split
  next s hs => simp [hs, eq_comm]
  next hs =>
    constructor
    · intro h
      contradiction
    · rintro ⟨text, ht, -⟩
      exact absurd ht (hs text)

theorem readPattern_eq_ok_iff (v : Json) (p : PatternConfig) :
    readPattern v = .ok p ↔ p.WrittenAs v := by
  cases v with
  | object members =>
    rw [readPattern_object_eq_ok_iff]
    cases p <;> simp [PatternConfig.WrittenAs, eq_comm]
  | _ => cases p <;> simp [readPattern, PatternConfig.WrittenAs, eq_comm]

theorem readList_eq_ok_iff {α : Type} {read : Json → Except SchemaFault α}
    {written : α → Json → Prop} (h : ∀ v x, read v = .ok x ↔ written x v) {items : List Json}
    {xs : List α} : readList read items = .ok xs ↔ List.Forall₂ written xs items := by
  induction items generalizing xs with
  | nil => simp [readList, eq_comm]
  | cons v rest ih =>
    cases xs <;> simp [readList, bind_eq_ok_iff, h, ih, pure, Except.pure]

theorem readSequence_eq_ok_iff {α : Type} {read : Json → Except SchemaFault α}
    {written : α → Json → Prop} (h : ∀ v x, read v = .ok x ↔ written x v) (v : Json)
    (xs : List α) : readSequence read v = .ok xs ↔ WrittenList written xs v := by
  cases v <;> simp [readSequence, WrittenList, readList_eq_ok_iff h]

theorem RuleFields.visitAll_eq_ok_iff {f g : RuleFields} {members : List (String × Json)} :
    f.visitAll members = .ok g ↔
      (∀ name ∈ members.map Prod.fst, name ∈ ["source", "target", "convert", "init"]) ∧
      gather "source" readPattern f.source members = .ok g.source ∧
      gather "target" readPattern f.target members = .ok g.target ∧
      gather "convert" readString f.convert members = .ok g.convert ∧
      gather "init" readOptional f.init members = .ok g.init := by
  induction members generalizing f with
  | nil =>
    cases f
    cases g
    simp [RuleFields.visitAll, gather]
  | cons m rest ih =>
    obtain ⟨key, v⟩ := m
    rw [RuleFields.visitAll, RuleFields.visit.eq_def, List.map_cons, List.forall_mem_cons]
    split
    case h_5 hs ht hc hi =>
      have hkey : key ∉ ["source", "target", "convert", "init"] := by
        simpa using ⟨hs, ht, hc, hi⟩
      simp only [hkey, false_and, error_bind, reduceCtorEq]
    all_goals
      simp only [bind_eq_ok_iff, bind_assoc, ok_bind, pure, Except.pure, ih, gather,
        String.reduceEq, if_true, if_false, List.mem_cons, true_or, or_true, true_and]
      tauto

theorem defaultConvert_eq : defaultConvert = "\x7bcode\x7d" := rfl

theorem RuleFields.finish_eq_ok_iff {f : RuleFields} {r : RuleConfig} :
    f.finish = .ok r ↔ f.source = some r.source ∧ f.target = some r.target ∧
      f.convert.getD defaultConvert = r.convert ∧ f.init.getD none = r.init := by
  obtain ⟨s, t, c, i⟩ := f
  cases s <;> cases t <;> cases r <;> simp [RuleFields.finish, require, pure, Except.pure]

theorem readRule_object_eq_ok_iff {members : List (String × Json)} {r : RuleConfig} :
    readRule (.object members) = .ok r ↔ r.WrittenAs (.object members) := by
  simp only [readRule, bind_eq_ok_iff, RuleFields.visitAll_eq_ok_iff, gather_eq_ok_iff,
    RuleFields.finish_eq_ok_iff, RuleConfig.WrittenAs, Json.record_object_iff]
  constructor
  · rintro ⟨f, ⟨known, ⟨ns, hs⟩, ⟨nt, ht⟩, ⟨nc, hc⟩, ni, hi⟩, es, et, ec, ei⟩
    rw [es] at hs
    rw [et] at ht
    refine ⟨_, ⟨?_, known, rfl⟩, ?_, ?_, ?_, ?_⟩
    · rw [nodup_iff_of_known known]
      simp [ns, nt, nc, ni]
    · exact (reads_some_iff readPattern_eq_ok_iff).mp hs
    · exact (reads_some_iff readPattern_eq_ok_iff).mp ht
    · exact (reads_getD_iff readString_eq_ok_iff).mp ⟨_, hc, ec⟩
    · exact (reads_getD_iff readOptional_eq_ok_iff).mp ⟨_, hi, ei⟩
  · rintro ⟨_, ⟨distinct, known, rfl⟩, hs, ht, hc, hi⟩
    obtain ⟨c, hc, ec⟩ := (reads_getD_iff readString_eq_ok_iff).mpr hc
    obtain ⟨i, hi, ei⟩ := (reads_getD_iff readOptional_eq_ok_iff).mpr hi
    have hs := (reads_some_iff readPattern_eq_ok_iff).mpr hs
    have ht := (reads_some_iff readPattern_eq_ok_iff).mpr ht
    have once : ∀ name, (members.map Prod.fst).count name ≤ 1 :=
      List.nodup_iff_count_le_one.mp distinct
    exact ⟨⟨r.source, r.target, c, i⟩,
      ⟨known, ⟨once _, hs⟩, ⟨once _, ht⟩, ⟨once _, hc⟩, once _, hi⟩, rfl, rfl, ec, ei⟩

theorem readRule_array_eq_ok_iff {items : List Json} {r : RuleConfig} :
    readRule (.array items) = .ok r ↔ r.WrittenAs (.array items) := by
  simp only [RuleConfig.WrittenAs, Json.record_array_iff, and_assoc, exists_and_left,
    exists_eq_left, RuleConfig.writtenIn_iff]
  obtain ⟨source, target, convert, init⟩ := r
  match items with
  | [] | [_] | [_, _] | [_, _, _] | [_, _, _, _] | _ :: _ :: _ :: _ :: _ :: _ =>
    simp [readRule, Given, GivenOr, List.lookup_cons, bind_eq_ok_iff, pure, Except.pure,
      -bind_pure_comp, readPattern_eq_ok_iff, readString_eq_ok_iff, readOptional_eq_ok_iff,
      defaultConvert_eq, @eq_comm _ _ convert, @eq_comm _ _ init]

theorem readRule_eq_ok_iff (v : Json) (r : RuleConfig) : readRule v = .ok r ↔ r.WrittenAs v := by
  cases v with
  | object members => exact readRule_object_eq_ok_iff
  | array items => exact readRule_array_eq_ok_iff
  | _ =>
    simp only [readRule, reduceCtorEq, false_iff]
    rintro ⟨field, h, -⟩
    cases h

theorem PairFields.visitAll_eq_ok_iff {f g : PairFields} {members : List (String × Json)} :
    f.visitAll members = .ok g ↔
      (∀ name ∈ members.map Prod.fst, name ∈ ["from", "to", "rules"]) ∧
      gather "from" readSystem f.source members = .ok g.source ∧
      gather "to" readSystem f.target members = .ok g.target ∧
      gather "rules" (readSequence readRule) f.rules members = .ok g.rules := by
  induction members generalizing f with
  | nil =>
    cases f
    cases g
    simp [PairFields.visitAll, gather]
  | cons m rest ih =>
    obtain ⟨key, v⟩ := m
    rw [PairFields.visitAll, PairFields.visit.eq_def, List.map_cons, List.forall_mem_cons]
    split
    case h_4 hs ht hr =>
      have hkey : key ∉ ["from", "to", "rules"] := by
        simpa using ⟨hs, ht, hr⟩
      simp only [hkey, false_and, error_bind, reduceCtorEq]
    all_goals
      simp only [bind_eq_ok_iff, bind_assoc, ok_bind, pure, Except.pure, ih, gather,
        String.reduceEq, if_true, if_false, List.mem_cons, true_or, or_true, true_and]
      tauto

theorem PairFields.finish_eq_ok_iff {f : PairFields} {p : PairConfig} :
    f.finish = .ok p ↔ f.source = some p.pair.source ∧ f.target = some p.pair.target ∧
      f.rules.getD [] = p.rules := by
  obtain ⟨s, t, r⟩ := f
  obtain ⟨⟨source, target⟩, rules⟩ := p
  cases s <;> cases t <;> simp [PairFields.finish, require, pure, Except.pure, and_assoc]

theorem readPair_object_eq_ok_iff {members : List (String × Json)} {p : PairConfig} :
    readPair (.object members) = .ok p ↔ p.WrittenAs (.object members) := by
  have hrules := readSequence_eq_ok_iff readRule_eq_ok_iff
  simp only [readPair, bind_eq_ok_iff, PairFields.visitAll_eq_ok_iff, gather_eq_ok_iff,
    PairFields.finish_eq_ok_iff, PairConfig.WrittenAs, Json.record_object_iff]
  constructor
  · rintro ⟨f, ⟨known, ⟨ns, hs⟩, ⟨nt, ht⟩, nr, hr⟩, es, et, er⟩
    rw [es] at hs
    rw [et] at ht
    refine ⟨_, ⟨?_, known, rfl⟩, ?_, ?_, ?_⟩
    · rw [nodup_iff_of_known known]
      simp [ns, nt, nr]
    · exact (reads_some_iff readSystem_eq_ok_iff).mp hs
    · exact (reads_some_iff readSystem_eq_ok_iff).mp ht
    · exact (reads_getD_iff hrules).mp ⟨_, hr, er⟩
  · rintro ⟨_, ⟨distinct, known, rfl⟩, hs, ht, hr⟩
    obtain ⟨r, hr, er⟩ := (reads_getD_iff hrules).mpr hr
    have hs := (reads_some_iff readSystem_eq_ok_iff).mpr hs
    have ht := (reads_some_iff readSystem_eq_ok_iff).mpr ht
    have once : ∀ name, (members.map Prod.fst).count name ≤ 1 :=
      List.nodup_iff_count_le_one.mp distinct
    exact ⟨⟨p.pair.source, p.pair.target, r⟩,
      ⟨known, ⟨once _, hs⟩, ⟨once _, ht⟩, once _, hr⟩, rfl, rfl, er⟩

theorem readPair_array_eq_ok_iff {items : List Json} {p : PairConfig} :
    readPair (.array items) = .ok p ↔ p.WrittenAs (.array items) := by
  simp only [PairConfig.WrittenAs, Json.record_array_iff, and_assoc, exists_and_left,
    exists_eq_left, PairConfig.writtenIn_iff]
  obtain ⟨⟨source, target⟩, rules⟩ := p
  match items with
  | [] | [_] | [_, _] | [_, _, _] | _ :: _ :: _ :: _ :: _ =>
    simp [readPair, Given, GivenOr, List.lookup_cons, bind_eq_ok_iff, pure, Except.pure,
      -bind_pure_comp, readSystem_eq_ok_iff, readSequence_eq_ok_iff readRule_eq_ok_iff, and_assoc,
      @eq_comm _ _ rules]

theorem readPair_eq_ok_iff (v : Json) (p : PairConfig) : readPair v = .ok p ↔ p.WrittenAs v := by
  cases v with
  | object members => exact readPair_object_eq_ok_iff
  | array items => exact readPair_array_eq_ok_iff
  | _ =>
    simp only [readPair, reduceCtorEq, false_iff]
    rintro ⟨field, h, -⟩
    cases h

theorem visitTable_eq_ok_iff {old new : Option (List PairConfig)}
    {members : List (String × Json)} :
    visitTable old members = .ok new ↔
      (∀ name ∈ members.map Prod.fst, name ∈ ["conversions"]) ∧
      gather "conversions" (readSequence readPair) old members = .ok new := by
  induction members generalizing old with
  | nil => simp [visitTable, gather]
  | cons m rest ih =>
    obtain ⟨key, v⟩ := m
    rw [visitTable, List.map_cons, List.forall_mem_cons]
    by_cases hk : key = "conversions"
    · simp only [hk, if_true, gather, bind_eq_ok_iff, ih, List.mem_singleton, true_and]
      tauto
    · simp [hk]

theorem readTable_object_eq_ok_iff {members : List (String × Json)} {c : TableConfig} :
    readTable (.object members) = .ok c ↔ c.WrittenAs (.object members) := by
  have hpairs := readSequence_eq_ok_iff readPair_eq_ok_iff
  have hrequire : ∀ o : Option (List PairConfig),
      (require "conversions" o >>= fun ps => (pure ⟨ps⟩ : Except SchemaFault TableConfig)) = .ok c ↔
        o = some c.conversions := by
    intro o
    cases o <;> cases c <;> simp [require, pure, Except.pure]
  simp only [readTable, bind_eq_ok_iff (x := visitTable none members), visitTable_eq_ok_iff,
    gather_eq_ok_iff, hrequire, TableConfig.WrittenAs, Json.record_object_iff]
  constructor
  · rintro ⟨_, ⟨known, n, h⟩, rfl⟩
    refine ⟨_, ⟨?_, known, rfl⟩, (reads_some_iff hpairs).mp h⟩
    rw [nodup_iff_of_known known]
    simpa using n
  · rintro ⟨_, ⟨distinct, known, rfl⟩, h⟩
    have once := List.nodup_iff_count_le_one.mp distinct "conversions"
    exact ⟨_, ⟨known, once, (reads_some_iff hpairs).mpr h⟩, rfl⟩

theorem readTable_eq_ok_iff (v : Json) (c : TableConfig) :
    readTable v = .ok c ↔ c.WrittenAs v := by
  cases v with
  | object members => exact readTable_object_eq_ok_iff
  | array items =>
    have hpairs := readSequence_eq_ok_iff readPair_eq_ok_iff
    simp only [TableConfig.WrittenAs, Json.record_array_iff, and_assoc, exists_and_left,
      exists_eq_left]
    obtain ⟨conversions⟩ := c
    match items with
    | [] | [_] | _ :: _ :: _ =>
      simp [readTable, Given, bind_eq_ok_iff, pure, Except.pure, -bind_pure_comp, hpairs]
  | _ =>
    simp only [readTable, reduceCtorEq, false_iff]
    rintro ⟨field, h, -⟩
    cases h

end Config

namespace TableConfig

theorem ofJson_eq_ok_iff {v : Json} {c : TableConfig} : ofJson v = .ok c ↔ c.WrittenAs v := by
  rw [← Config.readTable_eq_ok_iff, ofJson]
  cases Config.readTable v <;> simp

/-- Just the values of the schema are read, each as the configuration that it writes; any other is
refused as JSON. -/
theorem ofJson_schema (v : Json) :
    (∀ c, ofJson v = .ok c ↔ c.WrittenAs v) ∧
    ((¬∃ c : TableConfig, c.WrittenAs v) → ∃ reason, ofJson v = .error (.json reason)) := by
  refine ⟨fun c => ofJson_eq_ok_iff, ?_⟩
  intro hn
  rw [ofJson]
  cases h : Config.readTable v with
  | error fault => exact ⟨_, rfl⟩
  | ok c => exact absurd ⟨c, (Config.readTable_eq_ok_iff v c).mp h⟩ hn

end TableConfig
end TypeExchange
