import TypeExchange.Proofs.Config.Schema
import TypeExchange.Proofs.Json.Text

/-! Writing a configuration as JSON and reading it again, as a value and as text. What is read from
any other value for a configuration is written in one way, its normal form. -/
namespace TypeExchange

theorem TypeSystem.writtenAs_name (s : TypeSystem) : s.WrittenAs (.string s.name) := by
  refine ⟨s.name, rfl, ?_⟩
  cases s <;> decide

namespace PatternConfig

theorem writtenAs_toJson (p : PatternConfig) : p.WrittenAs p.toJson := by
  cases p with
  | literal name => rfl
  | expression text => exact ⟨_, rfl, rfl⟩

theorem sorted_toJson (p : PatternConfig) : p.toJson.sorted = p.toJson := by
  cases p <;> rfl

theorem hasNumber_toJson (p : PatternConfig) : p.toJson.hasNumber = false := by
  cases p <;> rfl

end PatternConfig

namespace RuleConfig

variable (r : RuleConfig)

/-- The order of the members of a rule does not count. -/
theorem writtenAs_of_lookup {members : List (String × Json)}
    (distinct : (members.map Prod.fst).Nodup)
    (known : ∀ name ∈ members.map Prod.fst, name ∈ ["source", "target", "convert", "init"])
    (source : members.lookup "source" = some r.source.toJson)
    (target : members.lookup "target" = some r.target.toJson)
    (convert : members.lookup "convert" = some (.string r.convert))
    (init : members.lookup "init" = r.init.map .string) : r.WrittenAs (.object members) := by
  refine ⟨_, .object distinct known, ?_, ?_, ?_, ?_⟩
  · rw [source]
    exact r.source.writtenAs_toJson
  · rw [target]
    exact r.target.writtenAs_toJson
  · rw [convert]
    rfl
  · rw [init]
    cases h : r.init <;> simp [GivenOr, WrittenOptional]

theorem writtenAs_toJson : r.WrittenAs r.toJson := by
  rw [toJson]
  apply writtenAs_of_lookup <;> cases r.init <;> simp [List.lookup_cons]

theorem sorted_toJson : r.toJson.sorted = .object (("convert", .string r.convert) ::
    (match r.init with
      | none => []
      | some s => [("init", .string s)]) ++
    [("source", r.source.toJson.sorted), ("target", r.target.toJson.sorted)]) := by
  obtain ⟨source, target, convert, init⟩ := r
  cases init <;> rfl

theorem writtenAs_sorted : r.WrittenAs r.toJson.sorted := by
  rw [sorted_toJson, PatternConfig.sorted_toJson, PatternConfig.sorted_toJson]
  apply writtenAs_of_lookup <;> cases r.init <;> simp [List.lookup_cons]

theorem hasNumber_toJson : r.toJson.hasNumber = false := by
  cases h : r.init <;>
    simp [toJson, h, Json.hasNumber, Json.memberHasNumber, PatternConfig.hasNumber_toJson]

end RuleConfig

section
variable {α : Type} {written : α → Json → Prop} {f : α → Json}

theorem writtenList_map (h : ∀ x, written x (f x)) (xs : List α) :
    WrittenList written xs (.array (xs.map f)) := by
  refine ⟨_, rfl, ?_⟩
  rw [List.forall₂_map_right_iff, List.forall₂_same]
  exact fun x _ => h x

theorem writtenList_sorted (h : ∀ x, written x (f x).sorted) (xs : List α) :
    WrittenList written xs (Json.array (xs.map f)).sorted := by
  rw [Json.sorted, Json.sortedItems_eq_map, List.map_map]
  exact writtenList_map h xs

theorem haveNumber_map (h : ∀ x, (f x).hasNumber = false) (xs : List α) :
    Json.haveNumber (xs.map f) = false := by
  induction xs with
  | nil => rfl
  | cons x xs ih => rw [List.map_cons, Json.haveNumber, h, ih, Bool.or_self]

end

namespace PairConfig

variable (p : PairConfig)

/-- The order of the members of an entry does not count. -/
theorem writtenAs_of_lookup {members : List (String × Json)} {rules : Json}
    (distinct : (members.map Prod.fst).Nodup)
    (known : ∀ name ∈ members.map Prod.fst, name ∈ ["from", "to", "rules"])
    (source : members.lookup "from" = some (.string p.pair.source.name))
    (target : members.lookup "to" = some (.string p.pair.target.name))
    (hrules : members.lookup "rules" = some rules)
    (written : WrittenList RuleConfig.WrittenAs p.rules rules) :
    p.WrittenAs (.object members) := by
  refine ⟨_, .object distinct known, ?_, ?_, ?_⟩
  · rw [source]
    exact p.pair.source.writtenAs_name
  · rw [target]
    exact p.pair.target.writtenAs_name
  · rw [hrules]
    exact written

theorem writtenAs_toJson : p.WrittenAs p.toJson :=
  writtenAs_of_lookup p (by simp) (by simp) rfl rfl rfl
    (writtenList_map RuleConfig.writtenAs_toJson p.rules)

theorem sorted_toJson : p.toJson.sorted =
    .object [("from", .string p.pair.source.name),
      ("rules", (Json.array (p.rules.map RuleConfig.toJson)).sorted),
      ("to", .string p.pair.target.name)] := rfl

theorem writtenAs_sorted : p.WrittenAs p.toJson.sorted := by
  rw [sorted_toJson]
  exact writtenAs_of_lookup p (by simp) (by simp) rfl rfl rfl
    (writtenList_sorted RuleConfig.writtenAs_sorted p.rules)

theorem hasNumber_toJson : p.toJson.hasNumber = false := by
  simp [toJson, Json.hasNumber, Json.memberHasNumber, haveNumber_map RuleConfig.hasNumber_toJson]

end PairConfig

namespace TableConfig

variable (c : TableConfig)

theorem writtenAs_toJson : c.WrittenAs c.toJson :=
  ⟨_, .object (by simp) (by simp), writtenList_map PairConfig.writtenAs_toJson c.conversions⟩

theorem writtenAs_sorted : c.WrittenAs c.toJson.sorted := by
  have hs : c.toJson.sorted =
      .object [("conversions", (Json.array (c.conversions.map PairConfig.toJson)).sorted)] := by
    rfl
  rw [hs]
  exact ⟨_, .object (by simp) (by simp),
    writtenList_sorted PairConfig.writtenAs_sorted c.conversions⟩

theorem hasNumber_toJson : c.toJson.hasNumber = false := by
  simp [toJson, Json.hasNumber, Json.memberHasNumber, haveNumber_map PairConfig.hasNumber_toJson]

theorem ofJson_toJson : ofJson c.toJson = .ok c := ofJson_eq_ok_iff.mpr c.writtenAs_toJson

/-- What is written for the configuration that a value is read as. -/
def normalForm (v : Json) : Except Failure Json := (ofJson v).map toJson

theorem normalForm_of_ofJson {v : Json} {c : TableConfig} (h : ofJson v = .ok c) :
    normalForm v = .ok c.toJson := by
  rw [normalForm, h, ok_map]

/-- Nothing is lost in writing: a configuration is read back from its value and from its text, so no
two are written in one way. A normal form is read as what it was made from, and is its own. -/
theorem ofJson_toJson_normalForm :
    (∀ c : TableConfig, ofJson c.toJson = .ok c ∧
      ∃ v, Json.parse? c.toJson.pretty = some v ∧ ofJson v = .ok c) ∧
    Function.Injective toJson ∧
    ∀ v c, ofJson v = .ok c →
      ∃ w, normalForm v = .ok w ∧ ofJson w = .ok c ∧ normalForm w = .ok w := by
  refine ⟨?_, ?_, ?_⟩
  · intro c
    have hparse : Json.parse? (c.toJson.pretty ++ "") = some c.toJson.sorted :=
      Json.parse?_pretty c.hasNumber_toJson rfl
    rw [String.append_empty] at hparse
    exact ⟨c.ofJson_toJson, _, hparse, ofJson_eq_ok_iff.mpr c.writtenAs_sorted⟩
  · intro c d h
    have hc := c.ofJson_toJson
    rw [h, d.ofJson_toJson] at hc
    exact (Except.ok.inj hc).symm
  · intro v c h
    exact ⟨c.toJson, normalForm_of_ofJson h, c.ofJson_toJson, normalForm_of_ofJson c.ofJson_toJson⟩

example : normalForm (.array [.array [.array [.string " Ethereum ", .string "ASC", .array [.array
      [.string "a", .object [("note", .null), ("pattern", .string "b")]]]]]]) =
    .ok (.object [("conversions", .array [.object [("from", .string "abi"),
      ("to", .string "runtime"), ("rules", .array [.object [("source", .string "a"),
        ("target", .object [("pattern", .string "b")]),
        ("convert", .string "\x7bcode\x7d")]])]])]) := by
  cbv

end TableConfig

end TypeExchange
