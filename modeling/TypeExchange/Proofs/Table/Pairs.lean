import Mathlib.Data.List.Perm.Subperm
import TypeExchange.Proofs.Table.Resolution

/-! The registered pairs of a table. In whatever order its entries are gone through, sorting the pairs
that they are kept under gives the same list. -/
namespace TypeExchange

theorem TypeSystem.rank_inj {a b : TypeSystem} : a.rank = b.rank ↔ a = b := by
  cases a <;> cases b <;> decide

theorem TypeSystem.rank_lt (a : TypeSystem) : a.rank < 3 := by
  cases a <;> decide

/-- The place of a pair among all pairs. -/
def SystemPair.place (p : SystemPair) : Nat := 3 * p.source.rank + p.target.rank

theorem SystemPair.lt_iff {p q : SystemPair} : p < q ↔ p.place < q.place := by
  have hp := p.target.rank_lt
  have hq := q.target.rank_lt
  change p.source.rank < q.source.rank ∨ (p.source = q.source ∧ p.target.rank < q.target.rank) ↔
    3 * p.source.rank + p.target.rank < 3 * q.source.rank + q.target.rank
  rw [← TypeSystem.rank_inj]
  omega

theorem SystemPair.place_injective {p q : SystemPair} (h : p.place = q.place) : p = q := by
  have hp := p.target.rank_lt
  have hq := q.target.rank_lt
  unfold place at h
  have hsource := TypeSystem.rank_inj.mp (show p.source.rank = q.source.rank by omega)
  have htarget := TypeSystem.rank_inj.mp (show p.target.rank = q.target.rank by omega)
  cases p
  cases q
  exact congr (congrArg SystemPair.mk hsource) htarget

/-- The first pair is the second or stands before it. -/
def SystemPair.notAfter (p q : SystemPair) : Bool := !decide (q < p)

theorem SystemPair.notAfter_iff {p q : SystemPair} : p.notAfter q = true ↔ p.place ≤ q.place := by
  simp [notAfter, lt_iff]

theorem SystemPair.pairwise_all : SystemPair.all.Pairwise (· < ·) := by decide

theorem SystemPair.mem_all (p : SystemPair) : p ∈ SystemPair.all := by
  obtain ⟨a, b⟩ := p
  cases a <;> cases b <;> decide

theorem SystemPair.nodup_all : SystemPair.all.Nodup := by decide

theorem SystemPair.length_le_of_nodup {pairs : List SystemPair} (h : pairs.Nodup) :
    pairs.length ≤ 9 := (h.subperm fun p _ => p.mem_all).length_le

namespace Table

theorem mem_pairs {t : Table} {p : SystemPair} : p ∈ t.pairs ↔ t.hasPair p = true := by
  simp [pairs, SystemPair.mem_all]

theorem nodup_pairs (t : Table) : t.pairs.Nodup := SystemPair.nodup_all.filter _

theorem pairwise_pairs (t : Table) : t.pairs.Pairwise (· < ·) := SystemPair.pairwise_all.filter _

theorem hasPair_iff {t : Table} {p : SystemPair} :
    t.hasPair p = true ↔ ∃ rules, t.rules p = .ok rules := by
  unfold hasPair Table.rules
  cases t.rules? p <;> simp

theorem hasPair_ofSteps {steps : List Step} {p : SystemPair} :
    (ofSteps steps).hasPair p = true ↔ ∃ s ∈ steps, s.pair = p := by
  rw [hasPair, rules?_ofSteps, ← stepsOn_ne_nil]
  by_cases h : stepsOn p steps = [] <;> simp [h]

theorem keys_perm_pairs (t : Table) : (t.entries.map Prod.fst).Perm t.pairs := by
  rw [List.perm_ext_iff_of_nodup t.distinct t.nodup_pairs]
  intro p
  rw [mem_pairs, hasPair, rules?, List.lookup_isSome_iff, List.mem_map]
  simp only [beq_iff_eq, eq_comm (a := p)]

/-- The pairs are those under which entries are kept, in order. -/
theorem mergeSort_keys (t : Table) :
    (t.entries.map Prod.fst).mergeSort SystemPair.notAfter = t.pairs := by
  have hperm := (List.mergeSort_perm _ SystemPair.notAfter).trans t.keys_perm_pairs
  refine hperm.eq_of_pairwise ?_ (List.pairwise_mergeSort ?_ ?_ _) ?_
  · intro p q _ _ hpq hqp
    rw [SystemPair.notAfter_iff] at hpq hqp
    exact SystemPair.place_injective (Nat.le_antisymm hpq hqp)
  · intro p q r hpq hqr
    rw [SystemPair.notAfter_iff] at hpq hqr ⊢
    exact Nat.le_trans hpq hqr
  · intro p q
    rw [Bool.or_eq_true, SystemPair.notAfter_iff, SystemPair.notAfter_iff]
    exact Nat.le_total _ _
  · refine t.pairwise_pairs.imp ?_
    intro p q hpq
    exact SystemPair.notAfter_iff.mpr (Nat.le_of_lt (SystemPair.lt_iff.mp hpq))

end Table
end TypeExchange
