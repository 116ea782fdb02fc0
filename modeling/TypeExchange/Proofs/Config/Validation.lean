import Mathlib.Tactic.Common
import TypeExchange.Config.Validation
import TypeExchange.Proofs.Results

/-! What it takes for a configuration to be accepted. -/
namespace TypeExchange

/-- Neither pattern of the rule is empty, and what it converts with is a template. -/
structure RuleConfig.Valid (r : RuleConfig) : Prop where
  source : r.source.text ≠ ""
  target : r.target.text ≠ ""
  convert : ∃ t, Template.parse r.convert = .ok t

/-- Every entry has a pair of its own and rules, which are valid. -/
structure TableConfig.Valid (c : TableConfig) : Prop where
  nonempty : c.conversions ≠ []
  distinct : (c.conversions.map (·.pair)).Nodup
  rules : ∀ p ∈ c.conversions, p.rules ≠ [] ∧ ∀ r ∈ p.rules, r.Valid

theorem RuleConfig.check_eq_ok_iff {r : RuleConfig} {entry rule : Nat} :
    r.check entry rule = .ok () ↔ r.Valid := by
  unfold RuleConfig.check
  split
  next h => exact ⟨fun h' => by contradiction, fun hv => absurd h hv.source⟩
  next hs =>
    split
    next h => exact ⟨fun h' => by contradiction, fun hv => absurd h hv.target⟩
    next ht =>
      split
      next t hp => exact ⟨fun _ => ⟨hs, ht, t, hp⟩, fun _ => rfl⟩
      next fault hp =>
        constructor
        · intro h
          contradiction
        · intro hv
          obtain ⟨t, ht⟩ := hv.convert
          rw [hp] at ht
          contradiction

theorem checkRules_eq_ok_iff {entry n : Nat} {rs : List RuleConfig} :
    checkRules entry n rs = .ok () ↔ ∀ r ∈ rs, r.Valid := by
  induction rs generalizing n with
  | nil => simp [checkRules]
  | cons r rest ih =>
    rw [checkRules, bind_eq_ok_iff, List.forall_mem_cons]
    constructor
    · rintro ⟨⟨⟩, hr, hrest⟩
      exact ⟨RuleConfig.check_eq_ok_iff.mp hr, ih.mp hrest⟩
    · rintro ⟨hr, hrest⟩
      exact ⟨(), RuleConfig.check_eq_ok_iff.mpr hr, ih.mpr hrest⟩

theorem checkPairs_cons_eq_ok_iff {n : Nat} {seen : List SystemPair} {p : PairConfig}
    {rest : List PairConfig} :
    checkPairs n seen (p :: rest) = .ok () ↔
      p.pair ∉ seen ∧ (p.rules ≠ [] ∧ ∀ r ∈ p.rules, r.Valid) ∧
        checkPairs (n + 1) (p.pair :: seen) rest = .ok () := by
  rw [checkPairs]
  by_cases hs : p.pair ∈ seen
  · simp [hs]
  · by_cases he : p.rules = []
    · simp [hs, he]
    · simp only [List.contains_eq_mem, hs, decide_false, List.isEmpty_eq_false_iff.mpr he,
        Bool.false_eq_true, if_false, bind_eq_ok_iff]
      constructor
      · rintro ⟨⟨⟩, hr, hrest⟩
        exact ⟨not_false, ⟨he, checkRules_eq_ok_iff.mp hr⟩, hrest⟩
      · rintro ⟨-, ⟨-, hr⟩, hrest⟩
        exact ⟨(), checkRules_eq_ok_iff.mpr hr, hrest⟩

/-- The pairs that have been seen are those of the entries before. -/
theorem checkPairs_eq_ok_iff {n : Nat} {seen : List SystemPair} {ps : List PairConfig} :
    checkPairs n seen ps = .ok () ↔
      (ps.map (·.pair)).Nodup ∧ (∀ p ∈ ps, p.pair ∉ seen) ∧
        ∀ p ∈ ps, p.rules ≠ [] ∧ ∀ r ∈ p.rules, r.Valid := by
  induction ps generalizing n seen with
  | nil => simp [checkPairs]
  | cons p rest ih =>
    have hseen : (∀ q ∈ rest, q.pair ∉ p.pair :: seen) ↔
        p.pair ∉ rest.map (·.pair) ∧ ∀ q ∈ rest, q.pair ∉ seen := by
      simp only [List.mem_cons, not_or, List.mem_map, not_exists, not_and, forall_and]
    rw [checkPairs_cons_eq_ok_iff, ih, hseen, List.map_cons, List.nodup_cons,
      List.forall_mem_cons, List.forall_mem_cons]
    tauto

namespace TableConfig

theorem check_eq_ok_iff {c : TableConfig} : c.check = .ok () ↔ c.Valid := by
  unfold check
  split
  next h =>
    have he : c.conversions = [] := by simpa using h
    exact ⟨fun h' => by contradiction, fun hv => absurd he hv.nonempty⟩
  next h =>
    have he : c.conversions ≠ [] := by simpa using h
    rw [checkPairs_eq_ok_iff]
    exact ⟨fun ⟨hd, _, hr⟩ => ⟨he, hd, hr⟩, fun hv => ⟨hv.distinct, by simp, hv.rules⟩⟩

theorem validate_eq_ok_iff {c : TableConfig} : c.validate = .ok () ↔ c.Valid := by
  rw [← check_eq_ok_iff, validate]
  split
  next h => simp [h]
  next fault h => simp [h]

end TableConfig
end TypeExchange
