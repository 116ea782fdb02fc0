import TypeExchange.Proofs.Config.Loading
import TypeExchange.Proofs.Config.Serialization
import TypeExchange.Proofs.Config.YamlForm

/-! Configurations as documents in block style. Every configuration has such a document, and all of
its documents are read as its JSON value is. -/
namespace TypeExchange

open Yaml (Value Record ListForm)

namespace Yaml.Block

def Key.ofWord (name : String) (h : name.toList ≠ [] ∧ name.toList.all (IsKeyLetter ·) ∧
    name.toList.length ≤ 1024) : Key := ⟨name, h.1, List.all_iff_forall_prop.mp h.2.1, h.2.2⟩

def Mapping.fields : Mapping → List (String × Value)
  | .last key field => [(key.name, field.value)]
  | .more key field rest => (key.name, field.value) :: rest.fields

def Sequence.ofList (first : Mapping) : List Mapping → Sequence
  | [] => .last first
  | m :: rest => .more first (ofList m rest)

def Field.ofList : List Mapping → Field
  | [] => .noItems
  | m :: rest => .sequence 0 (.ofList m rest)

theorem Mapping.entries_eq (m : Mapping) :
    m.entries = m.fields.map fun f => (.plain f.1, f.2) := by
  cases m with
  | last key field => rfl
  | more key field rest =>
    rw [entries, fields, List.map_cons, ← entries_eq rest]
    rfl

theorem Sequence.items_ofList (first : Mapping) (rest : List Mapping) :
    (ofList first rest).items = (first :: rest).map fun m => .mapping none m.entries := by
  induction rest generalizing first with
  | nil => rfl
  | cons m rest ih =>
    rw [ofList, items, ih]
    rfl

theorem Field.value_ofList (ms : List Mapping) :
    (ofList ms).value = .sequence none (ms.map fun m => .mapping none m.entries) := by
  cases ms with
  | nil => rfl
  | cons m rest => rw [ofList, value, Sequence.items_ofList]

end Yaml.Block

open Yaml.Block

def PatternConfig.field : PatternConfig → Field
  | literal name => .quoted (.ofString name)
  | expression text => .mapping 0 (.last (.ofWord "pattern" (by decide)) (.quoted (.ofString text)))

def RuleConfig.mapping (r : RuleConfig) : Mapping :=
  .more (.ofWord "source" (by decide)) r.source.field <|
  .more (.ofWord "target" (by decide)) r.target.field <|
  match r.init with
  | none => .last (.ofWord "convert" (by decide)) (.quoted (.ofString r.convert))
  | some s => .more (.ofWord "convert" (by decide)) (.quoted (.ofString r.convert))
    (.last (.ofWord "init" (by decide)) (.quoted (.ofString s)))

def PairConfig.mapping (p : PairConfig) : Mapping :=
  .more (.ofWord "from" (by decide)) (.quoted (.ofString p.pair.source.name)) <|
  .more (.ofWord "to" (by decide)) (.quoted (.ofString p.pair.target.name)) <|
  .last (.ofWord "rules" (by decide)) (.ofList (p.rules.map RuleConfig.mapping))

/-- The document that writes all fields of a configuration, in the order of their declaration. -/
def TableConfig.document (c : TableConfig) : Document where
  root := .last (.ofWord "conversions" (by decide)) (.ofList (c.conversions.map PairConfig.mapping))
  endsLine := true

namespace Yaml

theorem Block.Mapping.record (m : Mapping) {names : List String}
    (known : ∀ name ∈ m.fields.map Prod.fst, name ∈ names)
    (distinct : (m.fields.map Prod.fst).Nodup) :
    Record names (.mapping none m.entries) m.fields :=
  ⟨by rw [m.entries_eq], known, distinct⟩

theorem Block.Field.listForm_ofList {α : Type} {form : α → Value → Prop} {f : α → Mapping}
    (h : ∀ x, form x (.mapping none (f x).entries)) (xs : List α) :
    ListForm form xs (Field.ofList (xs.map f)).value := by
  refine ⟨_, Field.value_ofList _, ?_⟩
  rw [List.map_map, List.forall₂_map_right_iff, List.forall₂_same]
  exact fun x _ => h x

end Yaml

theorem PatternConfig.yamlForm_field (p : PatternConfig) : p.YamlForm p.field.value := by
  cases p <;> rfl

theorem RuleConfig.yamlForm_mapping (r : RuleConfig) :
    r.YamlForm (.mapping none r.mapping.entries) := by
  refine ⟨r.mapping.fields, r.mapping.record ?_ ?_, ?_, ?_, ?_, ?_⟩
  · rw [mapping]
    cases r.init <;> simp [Mapping.fields, Key.ofWord]
  · rw [mapping]
    cases r.init <;> simp [Mapping.fields, Key.ofWord]
  · exact ⟨_, rfl, r.source.yamlForm_field⟩
  · exact ⟨_, rfl, r.target.yamlForm_field⟩
  · rw [mapping]
    cases r.init <;> rfl
  · rw [mapping]
    cases r.init <;> rfl

theorem PairConfig.yamlForm_mapping (p : PairConfig) :
    p.YamlForm (.mapping none p.mapping.entries) := by
  have hsystem : ∀ s : TypeSystem, s.YamlForm (.quoted s.name) := by
    intro s
    refine ⟨s.name, rfl, ?_⟩
    cases s <;> decide
  refine ⟨p.mapping.fields, p.mapping.record ?_ ?_, ⟨_, rfl, hsystem _⟩, ⟨_, rfl, hsystem _⟩, ?_⟩
  · simp [mapping, Mapping.fields, Key.ofWord]
  · simp [mapping, Mapping.fields, Key.ofWord]
  · exact Field.listForm_ofList RuleConfig.yamlForm_mapping p.rules

namespace TableConfig

theorem yamlForm_document (c : TableConfig) : c.YamlForm c.document.value := by
  refine ⟨_, c.document.root.record ?_ ?_, _, rfl,
    Field.listForm_ofList PairConfig.yamlForm_mapping c.conversions⟩
  · simp [document, Mapping.fields, Key.ofWord]
  · simp [document, Mapping.fields]

example : (document ⟨[⟨⟨.abi, .value⟩,
      [⟨.literal "bool", .expression "^\"", "\x7bcode\x7d", none⟩]⟩]⟩).text =
    "conversions:\n- from: \"abi\"\n  to: \"value\"\n  rules:\n  - source: \"bool\"\n" ++
    "    target:\n     pattern: \"^\\U00000022\"\n    convert: \"\x7bcode\x7d\"\n" := by
  decide +kernel

theorem describes_of_yamlForm {c : TableConfig} {d : Document} (h : c.YamlForm d.value) :
    Describes d.text c := by
  rw [Describes, d.parse_text (h.nests (n := 122)), ok_bind]
  exact Config.yamlTable_of_form h

/-- Every configuration can be written as a document in block style, and every document that writes
it, with the keys of each mapping in any order and all or some of the defaults left out, is read as
it: where it is acceptable the result is the configuration that its JSON value gives, and so is the
table, and elsewhere the reading fails as the validation does. -/
theorem ofYaml_text_of_yamlForm (c : TableConfig) :
    (∃ d : Document, c.YamlForm d.value) ∧
    ∀ d : Document, c.YamlForm d.value →
      (c.validate = .ok () → ofYaml d.text = .ok c ∧ ofJson c.toJson = .ok c ∧
        (ofYaml d.text >>= build) = (ofJson c.toJson >>= build)) ∧
      ∀ e, c.validate = .error e → ofYaml d.text = .error e := by
  refine ⟨⟨c.document, c.yamlForm_document⟩, fun d h => ?_⟩
  rw [ofYaml_of_describes (describes_of_yamlForm h), c.ofJson_toJson]
  constructor
  · intro hv
    rw [hv]
    exact ⟨rfl, rfl, rfl⟩
  · intro e hv
    rw [hv]
    rfl

end TableConfig
end TypeExchange
