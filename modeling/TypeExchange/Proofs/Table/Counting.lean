import Mathlib.Algebra.GroupWithZero.Nat
import TypeExchange.Inspection
import TypeExchange.Proofs.Table.Pairs

/-! The number of rules of a table that was made step by step, in all and for each pair. Nothing that
is counted depends on the order of the entries. -/
namespace TypeExchange.Table

/-- The pairs that some step names, in ascending order, each with the number of rules that the steps
passed for it. -/
structure Tallies (steps : List Step) (counts : List (SystemPair × Nat)) : Prop where
  ascending : (counts.map Prod.fst).Pairwise (· < ·)
  mem_iff : ∀ p n, (p, n) ∈ counts ↔
    (∃ s ∈ steps, s.pair = p) ∧ n = (passedFor p steps).length

theorem rules?_eq_some_iff {t : Table} {p : SystemPair} {rules : List Rule} :
    t.rules? p = some rules ↔ (p, rules) ∈ t.entries := by
  constructor
  · intro h
    obtain ⟨before, after, he, -⟩ := List.lookup_eq_some_iff.mp h
    rw [he]
    exact List.mem_append_right _ List.mem_cons_self
  · exact lookup_of_mem t.distinct

section
variable {t u : Table} (h : t.entries.Perm u.entries)
include h

theorem rules?_of_perm (p : SystemPair) : t.rules? p = u.rules? p := by
  apply Option.ext
  intro rules
  rw [rules?_eq_some_iff, rules?_eq_some_iff, h.mem_iff]

theorem pairs_of_perm : t.pairs = u.pairs := by
  have hp : t.hasPair = u.hasPair := funext fun p => (AgreeOn.of_rules? (rules?_of_perm h p)).hasPair
  rw [pairs, pairs, hp]

end

theorem size_eq_sum (t : Table) : t.size = (t.entries.map fun e => e.2.length).sum := by
  rw [List.sum, List.foldr_map]
  rfl

theorem size_of_perm {t u : Table} (h : t.entries.Perm u.entries) : t.size = u.size := by
  rw [size_eq_sum, size_eq_sum]
  exact (h.map _).sum_nat

theorem sum_extendEntries (pair : SystemPair) (rules : List Rule) (entries : List Entry) :
    ((extendEntries pair rules entries).map fun e => e.2.length).sum =
      (entries.map fun e => e.2.length).sum + rules.length := by
  induction entries with
  | nil => simp [extendEntries]
  | cons e rest ih =>
    obtain ⟨q, rs⟩ := e
    rw [extendEntries]
    split
    · simp only [List.map_cons, List.sum_cons, List.length_append]
      omega
    · simp only [List.map_cons, List.sum_cons, ih]
      omega

theorem size_apply (t : Table) (s : Step) : (t.apply s).size = t.size + s.passed.length := by
  rw [size_eq_sum, size_eq_sum, ← sum_extendEntries s.pair]
  cases s <;> rfl

theorem size_ofSteps (steps : List Step) :
    (ofSteps steps).size = (steps.map fun s => s.passed.length).sum := by
  induction steps using List.reverseRecOn with
  | nil => rfl
  | append_singleton steps s ih =>
    rw [ofSteps_concat, size_apply, ih, List.map_append, List.sum_append]
    rfl

/-- A table is empty as long as there is no step, even if the steps pass no rules. -/
theorem isEmpty_ofSteps {steps : List Step} : (ofSteps steps).isEmpty = true ↔ steps = [] := by
  constructor
  · intro h
    by_contra hne
    obtain ⟨s, hs⟩ := List.exists_mem_of_ne_nil steps hne
    have hp : (ofSteps steps).hasPair s.pair = true := hasPair_ofSteps.mpr ⟨s, hs, rfl⟩
    rw [hasPair, rules?, List.isEmpty_iff.mp h] at hp
    contradiction
  · rintro rfl
    rfl

theorem counts_of_perm {t u : Table} (h : t.entries.Perm u.entries) : t.counts = u.counts := by
  simp only [counts, pairs_of_perm h, rules?_of_perm h]

theorem map_fst_counts (t : Table) : t.counts.map Prod.fst = t.pairs := by
  rw [counts, List.map_map]
  exact List.map_id _

/-- The entries of a pair are all that is counted for it. -/
theorem sum_counts (t : Table) : (t.counts.map Prod.snd).sum = t.size := by
  have hentries : t.entries.map (fun e => e.2.length) =
      (t.entries.map Prod.fst).map fun p => ((t.rules? p).getD []).length := by
    rw [List.map_map]
    refine List.map_congr_left fun e he => ?_
    rw [Function.comp_apply, rules?, lookup_of_mem t.distinct he]
    rfl
  rw [size_eq_sum, hentries, counts, List.map_map]
  exact (t.keys_perm_pairs.map _).sum_nat.symm

theorem exists_rules_of_mem_counts {t : Table} {c : SystemPair × Nat} (hc : c ∈ t.counts) :
    ∃ rules, t.rules c.1 = .ok rules ∧ rules.length = c.2 := by
  obtain ⟨p, hp, rfl⟩ := List.mem_map.mp hc
  obtain ⟨rules, hr⟩ := Option.isSome_iff_exists.mp (mem_pairs.mp hp)
  refine ⟨rules, ?_, ?_⟩
  · simp only [Table.rules, hr]
  · simp only [hr, Option.getD_some]

theorem tallies_counts (steps : List Step) : Tallies steps (ofSteps steps).counts := by
  constructor
  · rw [map_fst_counts]
    exact pairwise_pairs _
  · intro p n
    have hcount : (((ofSteps steps).rules? p).getD []).length = (passedFor p steps).length := by
      rw [rules?_ofSteps, passedFor]
      split
      next hnone => rw [hnone]; rfl
      next => rfl
    rw [← hasPair_ofSteps, ← mem_pairs, counts, List.mem_map]
    constructor
    · rintro ⟨q, hq, he⟩
      obtain ⟨rfl, rfl⟩ := Prod.mk.inj he
      exact ⟨hq, hcount⟩
    · rintro ⟨hp, rfl⟩
      exact ⟨p, hp, by rw [hcount]⟩

end TypeExchange.Table
