import TypeExchange.Config.Yaml
import TypeExchange.Proofs.Yaml.Parsing

/-! The values of documents that write a configuration: mappings with their keys in any order, with
or without the fields that have their defaults, and all texts between double quotes. They are read
as the configuration, and are not nested deep. -/
namespace TypeExchange

open Yaml (Value)

namespace Yaml

/-- The value of a text between double quotes. -/
def Value.quoted (s : String) : Value := .scalar none .double s.toList

/-- The value of a key that stands without quotes. -/
def Value.plain (s : String) : Value := .scalar none .plain s.toList

/-- A record is written as a mapping, whose keys are distinct names of fields in any order. -/
structure Record (names : List String) (v : Value) (fields : List (String × Value)) : Prop where
  eq_mapping : v = .mapping none (fields.map fun f => (.plain f.1, f.2))
  known : ∀ name ∈ fields.map Prod.fst, name ∈ names
  distinct : (fields.map Prod.fst).Nodup

section
variable (fields : List (String × Value)) (name : String) (form : Value → Prop)

/-- There is a field, of this form. -/
def Has : Prop := ∃ v, fields.lookup name = some v ∧ form v

/-- A field has this form. It may only be missing where its value is the default. -/
def HasUnless (isDefault : Prop) : Prop :=
  match fields.lookup name with
  | some v => form v
  | none => isDefault

end

/-- A list is written item by item. -/
def ListForm {α : Type} (form : α → Value → Prop) (xs : List α) (v : Value) : Prop :=
  ∃ items, v = .sequence none items ∧ List.Forall₂ form xs items

end Yaml

open Yaml

/-- A system is written by any of its names. -/
def TypeSystem.YamlForm (s : TypeSystem) (v : Value) : Prop :=
  ∃ name, v = .quoted name ∧ normalize name = .ok s

/-- A name is written as a text, an expression under the one key of a mapping. -/
def PatternConfig.YamlForm : PatternConfig → Value → Prop
  | literal name, v => v = .quoted name
  | expression text, v => v = .mapping none [(.plain "pattern", .quoted text)]

structure RuleConfig.InFields (r : RuleConfig) (fields : List (String × Value)) : Prop where
  source : Has fields "source" r.source.YamlForm
  target : Has fields "target" r.target.YamlForm
  convert : HasUnless fields "convert" (· = .quoted r.convert) (r.convert = "\x7bcode\x7d")
  init : fields.lookup "init" = r.init.map .quoted

def RuleConfig.YamlForm (r : RuleConfig) (v : Value) : Prop :=
  ∃ fields, Record ["source", "target", "convert", "init"] v fields ∧ r.InFields fields

structure PairConfig.InFields (p : PairConfig) (fields : List (String × Value)) : Prop where
  source : Has fields "from" p.pair.source.YamlForm
  target : Has fields "to" p.pair.target.YamlForm
  rules : HasUnless fields "rules" (ListForm RuleConfig.YamlForm p.rules) (p.rules = [])

def PairConfig.YamlForm (p : PairConfig) (v : Value) : Prop :=
  ∃ fields, Record ["from", "to", "rules"] v fields ∧ p.InFields fields

/-- The values of documents that write a configuration. -/
def TableConfig.YamlForm (c : TableConfig) (v : Value) : Prop :=
  ∃ fields, Record ["conversions"] v fields ∧
    Has fields "conversions" (ListForm PairConfig.YamlForm c.conversions)

namespace Config

section
variable {α : Type} {read : Value → Except Fault α} {x : α} {fields : List (String × Value)}
  {name : String} {form : Value → Prop}

theorem yamlText_quoted (s : String) : yamlText (.quoted s) = .ok s :=
  congrArg Except.ok String.ofList_toList

theorem yamlText_plain (s : String) : yamlText (.plain s) = .ok s :=
  congrArg Except.ok String.ofList_toList

theorem yamlOptional_quoted (s : String) : yamlOptional (.quoted s) = .ok (some s) := by
  show (yamlText (.quoted s) >>= _) = _
  rw [yamlText_quoted]
  rfl

theorem yamlFields_map {names : List String} (known : ∀ name ∈ fields.map Prod.fst, name ∈ names)
    (distinct : (fields.map Prod.fst).Nodup) :
    yamlFields names (fields.map fun f => (.plain f.1, f.2)) = .ok fields := by
  induction fields with
  | nil => rfl
  | cons f rest ih =>
    rw [List.map_cons, List.forall_mem_cons] at known
    rw [List.map_cons, List.nodup_cons] at distinct
    have hnew : (rest.lookup f.1).isNone = true := by
      rw [Option.isNone_iff_eq_none, List.lookup_eq_none_iff]
      intro g hg
      rw [bne_iff_ne]
      intro hname
      exact distinct.1 (hname ▸ List.mem_map_of_mem hg)
    rw [List.map_cons, yamlFields, yamlText_plain, ok_bind, ih known.2 distinct.2, ok_bind,
      if_pos ⟨List.contains_iff_mem.mpr known.1, hnew⟩]
    rfl

theorem Record.yamlMapping {names : List String} {v : Value} (h : Record names v fields) :
    yamlMapping names v = .ok fields := by
  rw [h.eq_mapping]
  exact yamlFields_map h.known h.distinct

theorem yamlRequired_of_has (h : Has fields name form) (hr : ∀ v, form v → read v = .ok x) :
    yamlRequired fields name read = .ok x := by
  obtain ⟨v, hv, hf⟩ := h
  rw [yamlRequired, hv]
  exact hr v hf

theorem yamlDefault_of_hasUnless {default : α} (h : HasUnless fields name form (x = default))
    (hr : ∀ v, form v → read v = .ok x) : yamlDefault fields name read default = .ok x := by
  rw [HasUnless] at h
  rw [yamlDefault]
  cases hv : fields.lookup name with
  | some v =>
    rw [hv] at h
    exact hr v h
  | none =>
    rw [hv] at h
    exact congrArg Except.ok h.symm

theorem mapM_of_forall₂ {β : Type} {form : β → Value → Prop} {read : Value → Except Fault β}
    (hr : ∀ x v, form x v → read v = .ok x) {xs : List β} {items : List Value}
    (h : List.Forall₂ form xs items) : items.mapM read = .ok xs := by
  induction h with
  | nil => rfl
  | cons hx _ ih =>
    rw [List.mapM_cons, hr _ _ hx, ok_bind, ih]
    rfl

theorem yamlList_of_form {β : Type} {form : β → Value → Prop} {read : Value → Except Fault β}
    (hr : ∀ x v, form x v → read v = .ok x) {xs : List β} {v : Value} (h : ListForm form xs v) :
    yamlList read v = .ok xs := by
  obtain ⟨items, rfl, h⟩ := h
  exact mapM_of_forall₂ hr h

end

theorem yamlSystem_of_form (s : TypeSystem) (v : Value) (h : s.YamlForm v) :
    yamlSystem v = .ok s := by
  obtain ⟨name, rfl, hname⟩ := h
  rw [yamlSystem, yamlText_quoted, ok_bind]
  cases hs : TypeSystem.ofName name with
  | ok s' =>
    rw [TypeSystem.normalize, hs] at hname
    obtain rfl := Except.ok.inj hname
    rfl
  | error fault =>
    rw [TypeSystem.normalize, hs] at hname
    contradiction

theorem isPlainData_quoted (s : String) : isPlainData (.quoted s) = true := rfl

theorem isPlainData_pattern : isPlainData (.plain "pattern") = true := by decide

theorem isExpressionKey_pattern : isExpressionKey (.plain "pattern") = .ok true := by rfl

theorem yamlExpression_pattern (s : String) :
    yamlExpression none [(.plain "pattern", .quoted s)] = .ok (some s) := by
  rw [Value.quoted, yamlExpression, isExpressionKey_pattern, ok_bind]
  exact congrArg (fun s => Except.ok (some s)) String.ofList_toList

theorem yamlPattern_of_form (p : PatternConfig) (v : Value) (h : p.YamlForm v) :
    yamlPattern v = .ok p := by
  cases p with
  | literal name =>
    obtain rfl := h
    exact congrArg (fun s => Except.ok (PatternConfig.literal s)) String.ofList_toList
  | expression text =>
    obtain rfl := h
    have hdata : isPlainData (.mapping none [(.plain "pattern", .quoted text)]) = true := by
      rw [isPlainData, arePlainEntries, isPlainData_pattern, isPlainData_quoted]
      rfl
    rw [yamlPattern, hdata]
    show (yamlExpression none [(.plain "pattern", .quoted text)] >>= _) = _
    rw [yamlExpression_pattern]
    rfl

theorem yamlRule_of_form (r : RuleConfig) (v : Value) (h : r.YamlForm v) : yamlRule v = .ok r := by
  obtain ⟨fields, hrecord, hs, ht, hc, hi⟩ := h
  have hsource := yamlRequired_of_has hs (yamlPattern_of_form r.source)
  have htarget := yamlRequired_of_has ht (yamlPattern_of_form r.target)
  have hconvert : yamlDefault fields "convert" yamlText defaultConvert = .ok r.convert := by
    apply yamlDefault_of_hasUnless hc
    rintro _ rfl
    exact yamlText_quoted r.convert
  have hinit : yamlDefault fields "init" yamlOptional none = .ok r.init := by
    rw [yamlDefault, hi]
    cases r.init with
    | none => rfl
    | some s => exact yamlOptional_quoted s
  rw [yamlRule, Record.yamlMapping hrecord, ok_bind, hsource, ok_bind, htarget, ok_bind, hconvert,
    ok_bind, hinit]
  rfl

theorem yamlPair_of_form (p : PairConfig) (v : Value) (h : p.YamlForm v) : yamlPair v = .ok p := by
  obtain ⟨fields, hrecord, hs, ht, hr⟩ := h
  have hsource := yamlRequired_of_has hs (yamlSystem_of_form p.pair.source)
  have htarget := yamlRequired_of_has ht (yamlSystem_of_form p.pair.target)
  have hrules := yamlDefault_of_hasUnless hr fun _ => yamlList_of_form yamlRule_of_form
  rw [yamlPair, Record.yamlMapping hrecord, ok_bind, hsource, ok_bind, htarget, ok_bind, hrules]
  rfl

/-- What writes a configuration is read as that configuration. -/
theorem yamlTable_of_form {c : TableConfig} {v : Value} (h : c.YamlForm v) :
    yamlTable v = .ok c := by
  obtain ⟨fields, hrecord, hc⟩ := h
  have hconversions := yamlRequired_of_has hc fun _ => yamlList_of_form yamlPair_of_form
  rw [yamlTable, Record.yamlMapping hrecord, ok_bind, hconversions]
  rfl

end Config

namespace Yaml

section
variable {fields : List (String × Value)} {name : String} {form : Value → Prop} {n : Nat}

theorem Has.nests (h : Has fields name form) (hf : ∀ v, form v → v.Nests n) :
    ∀ v, fields.lookup name = some v → v.Nests n := by
  obtain ⟨w, hw, hform⟩ := h
  intro v hv
  obtain rfl := Option.some.inj (hw.symm.trans hv)
  exact hf w hform

theorem HasUnless.nests {isDefault : Prop} (h : HasUnless fields name form isDefault)
    (hf : ∀ v, form v → v.Nests n) : ∀ v, fields.lookup name = some v → v.Nests n := by
  intro v hv
  rw [HasUnless, hv] at h
  exact hf v h

theorem Record.nests {names : List String} {v : Value} (h : Record names v fields)
    (hf : ∀ name ∈ names, ∀ v, fields.lookup name = some v → v.Nests n) : v.Nests (n + 1) := by
  rw [h.eq_mapping]
  refine .mapping ?_ ?_ <;> rw [List.forall_mem_map]
  · exact fun f _ => .scalar
  · intro f hm
    exact hf f.1 (h.known f.1 (List.mem_map_of_mem hm)) f.2 (lookup_of_mem h.distinct hm)

theorem ListForm.nests {α : Type} {form : α → Value → Prop} {xs : List α} {v : Value}
    (h : ListForm form xs v) (hf : ∀ x v, form x v → v.Nests n) : v.Nests (n + 1) := by
  obtain ⟨items, rfl, h⟩ := h
  refine .sequence ?_
  induction h with
  | nil => exact fun w hw => absurd hw List.not_mem_nil
  | cons hx _ ih => exact List.forall_mem_cons.mpr ⟨hf _ _ hx, ih⟩

end
end Yaml

section
variable {v : Value} {n : Nat}

theorem PatternConfig.YamlForm.nests {p : PatternConfig} (h : p.YamlForm v) : v.Nests (n + 1) := by
  cases p with
  | literal name =>
    obtain rfl := h
    exact .scalar
  | expression text =>
    obtain rfl := h
    refine .mapping ?_ ?_ <;> rw [List.forall_mem_singleton] <;> exact .scalar

theorem RuleConfig.YamlForm.nests {r : RuleConfig} (h : r.YamlForm v) : v.Nests (n + 2) := by
  obtain ⟨fields, hrecord, hs, ht, hc, hi⟩ := h
  apply hrecord.nests
  simp only [List.forall_mem_cons, List.not_mem_nil, false_imp_iff, implies_true, and_true]
  refine ⟨hs.nests fun w hw => hw.nests, ht.nests fun w hw => hw.nests, hc.nests ?_, ?_⟩
  · rintro _ rfl
    exact .scalar
  · intro w hw
    rw [hi, Option.map_eq_some_iff] at hw
    obtain ⟨s, -, rfl⟩ := hw
    exact .scalar

theorem PairConfig.YamlForm.nests {p : PairConfig} (h : p.YamlForm v) : v.Nests (n + 4) := by
  obtain ⟨fields, hrecord, hs, ht, hr⟩ := h
  have hsystem : ∀ (s : TypeSystem) w, s.YamlForm w → w.Nests (n + 3) := by
    rintro s _ ⟨name, rfl, -⟩
    exact .scalar
  apply hrecord.nests
  simp only [List.forall_mem_cons, List.not_mem_nil, false_imp_iff, implies_true, and_true]
  exact ⟨hs.nests (hsystem _), ht.nests (hsystem _),
    hr.nests fun w hw => hw.nests fun r w hw => hw.nests⟩

theorem TableConfig.YamlForm.nests {c : TableConfig} (h : c.YamlForm v) : v.Nests (n + 6) := by
  obtain ⟨fields, hrecord, hc⟩ := h
  apply hrecord.nests
  simp only [List.forall_mem_cons, List.not_mem_nil, false_imp_iff, implies_true, and_true]
  exact hc.nests fun w hw => hw.nests fun p w hw => hw.nests

end

end TypeExchange
