import Mathlib.Logic.Equiv.Basic
import TypeExchange.Proofs.Table.Opposite

/-! What the order of the rules of a pair decides. A rule is followed through a change of the order
by the place that it comes from. Only where several rules accept a name does it matter which of them
comes first. -/
namespace TypeExchange.Table

/-- At each place of `after` stands the rule that `before` has at its place of origin. -/
def Reordered (origin : Equiv.Perm Nat) (before after : List Rule) : Prop :=
  ∀ i, after[i]? = before[origin i]?

/-- There is a rule at the place, and it accepts the name. -/
def Hit (rules : List Rule) (side : Side) (name : String) (i : Nat) : Prop :=
  ∃ r, rules[i]? = some r ∧ r.accepts side name = true

/-- The place of origin of the rule that is found. -/
def foundFrom (t : Table) (origin : Nat → Nat) (pair : SystemPair) (side : Side)
    (name : String) : Except Failure Nat :=
  (t.locate pair side name).map fun found => origin found.2

/-- The first place stays, and those behind it are reordered. -/
def behindFirst (origin : Equiv.Perm Nat) : Equiv.Perm Nat where
  toFun
    | 0 => 0
    | i + 1 => origin i + 1
  invFun
    | 0 => 0
    | i + 1 => origin.symm i + 1
  left_inv i := by cases i <;> simp
  right_inv i := by cases i <;> simp

theorem Reordered.cons {origin : Equiv.Perm Nat} {before after : List Rule}
    (h : Reordered origin before after) (r : Rule) :
    Reordered (behindFirst origin) (r :: before) (r :: after) := by
  intro i
  cases i with
  | zero => rfl
  | succ i => exact h i

theorem reordered_swap (r s : Rule) (rules : List Rule) :
    Reordered (Equiv.swap 0 1) (r :: s :: rules) (s :: r :: rules) := by
  intro i
  match i with
  | 0 => rfl
  | 1 => rfl
  | i + 2 => rw [Equiv.swap_apply_of_ne_of_ne (by omega) (by omega)]; rfl

theorem Reordered.trans {origin origin' : Equiv.Perm Nat} {before between after : List Rule}
    (h : Reordered origin before between) (h' : Reordered origin' between after) :
    Reordered (origin'.trans origin) before after := fun i => (h' i).trans (h _)

/-- Whatever the new order, each rule comes from some place. -/
theorem exists_reordered {before after : List Rule} (h : before.Perm after) :
    ∃ origin, Reordered origin before after := by
  induction h with
  | nil => exact ⟨Equiv.refl Nat, fun _ => rfl⟩
  | cons r _ ih =>
    obtain ⟨origin, ho⟩ := ih
    exact ⟨behindFirst origin, ho.cons r⟩
  | swap r s rules => exact ⟨Equiv.swap 0 1, reordered_swap s r rules⟩
  | trans _ _ ih ih' =>
    obtain ⟨origin, ho⟩ := ih
    obtain ⟨origin', ho'⟩ := ih'
    exact ⟨origin'.trans origin, ho.trans ho'⟩

/-- Two places that an exchange of neighbours puts into the other order are the neighbours. -/
theorem eq_of_swapped {k i j : Nat} (h : j < Equiv.swap k (k + 1) i)
    (h' : i < Equiv.swap k (k + 1) j) : i = k ∧ j = k := by
  simp only [Equiv.swap_apply_def] at h h'
  split_ifs at h h' <;> omega

section
variable {rules before after : List Rule} {side : Side} {name : String} {origin : Equiv.Perm Nat}
  {i : Nat} {r : Rule}

theorem FirstMatch.isHit (h : FirstMatch rules side name i r) : Hit rules side name i :=
  ⟨r, h.place, h.hit⟩

theorem FirstMatch.not_hit (h : FirstMatch rules side name i r) {j : Nat} (hj : j < i) :
    ¬Hit rules side name j := by
  rintro ⟨s, hs, ha⟩
  rw [h.earlier j hj s hs] at ha
  contradiction

theorem firstMatch_of_hit (h : Hit rules side name i) (he : ∀ j < i, ¬Hit rules side name j) :
    ∃ r, FirstMatch rules side name i r := by
  obtain ⟨r, hr, ha⟩ := h
  refine ⟨r, hr, ha, fun j hj s hs => ?_⟩
  by_contra hn
  exact he j hj ⟨s, hs, Bool.of_not_eq_false hn⟩

theorem Reordered.hit_iff (h : Reordered origin before after) :
    Hit after side name i ↔ Hit before side name (origin i) := by
  simp only [Hit, h i]

/-- A rule stays the first that accepts if no other that accepts is put in front of it. -/
theorem Reordered.firstMatch (h : Reordered origin before after)
    (hf : FirstMatch before side name i r)
    (hahead : ∀ j, Hit before side name (origin j) → origin.symm i ≤ j) :
    FirstMatch after side name (origin.symm i) r := by
  refine ⟨by rw [h, origin.apply_symm_apply, hf.place], hf.hit, fun j hj s hs => ?_⟩
  by_contra ha
  have hit : Hit after side name j := ⟨s, hs, Bool.of_not_eq_false ha⟩
  have := hahead j (h.hit_iff.mp hit)
  omega

theorem not_accepts_of_not_hit (h : ∀ i, ¬Hit rules side name i) :
    ∀ r ∈ rules, r.accepts side name = false := by
  intro r hr
  obtain ⟨i, hi⟩ := List.mem_iff_getElem?.mp hr
  exact Bool.eq_false_iff.mpr fun ha => h i ⟨r, hi, ha⟩

variable {t u : Table} {pair : SystemPair}

theorem foundFrom_of_firstMatch (h : t.rules pair = .ok rules)
    (hf : FirstMatch rules side name i r) (origin : Nat → Nat) :
    t.foundFrom origin pair side name = .ok (origin i) := by
  rw [foundFrom, (locate_eq_ok_iff h).mpr hf, ok_map]

theorem foundFrom_eq_of_locate_eq
    (h : (u.locate pair side name).map (fun found => (found.1, origin found.2)) =
      t.locate pair side name) :
    u.foundFrom origin pair side name = t.foundFrom id pair side name := by
  unfold foundFrom
  rw [← h]
  cases u.locate pair side name <;> rfl

theorem resolve_eq_of_locate_eq
    (h : (u.locate pair side name).map (fun found => (found.1, origin found.2)) =
      t.locate pair side name) :
    u.resolve pair side name = t.resolve pair side name := by
  rw [resolve_eq_map_locate, resolve_eq_map_locate, ← h]
  cases u.locate pair side name <;> rfl

section
variable (ht : t.rules pair = .ok before) (hu : u.rules pair = .ok after)
include ht hu

/-- Lookups find one rule where no other that accepts is put in front of the first. -/
theorem Reordered.locate_eq (h : Reordered origin before after)
    (hahead : ∀ i r, FirstMatch before side name i r →
      ∀ j, Hit before side name (origin j) → origin.symm i ≤ j) :
    (u.locate pair side name).map (fun found => (found.1, origin found.2)) =
      t.locate pair side name := by
  by_cases hex : ∃ r ∈ before, r.accepts side name = true
  · obtain ⟨i, r, hf⟩ := exists_firstMatch hex
    rw [(locate_eq_ok_iff ht).mpr hf, (locate_eq_ok_iff hu).mpr (h.firstMatch hf (hahead i r hf)),
      ok_map, origin.apply_symm_apply]
  · have hbefore : ∀ i, ¬Hit before side name i := by
      rintro i ⟨r, hr, ha⟩
      exact hex ⟨r, List.mem_of_getElem? hr, ha⟩
    have hafter : ∀ i, ¬Hit after side name i := fun i hi => hbefore _ (h.hit_iff.mp hi)
    rw [locate_eq_noMatch ht (not_accepts_of_not_hit hbefore),
      locate_eq_noMatch hu (not_accepts_of_not_hit hafter), error_map]

/-- The order does not matter to a name that one rule accepts at most. -/
theorem Reordered.locate_eq_of_unique (h : Reordered origin before after)
    (hone : ∀ i j, Hit before side name i → Hit before side name j → i = j) :
    (u.locate pair side name).map (fun found => (found.1, origin found.2)) =
      t.locate pair side name := by
  apply h.locate_eq ht hu
  intro i r hf j hj
  have he : origin.symm i = j := by rw [hone i _ hf.isHit hj, origin.symm_apply_apply]
  exact Nat.le_of_eq he

/-- An exchange of neighbours puts a rule that accepts in front of the first only if both accept,
and none before them does. -/
theorem Reordered.locate_eq_of_swap {k : Nat} (h : Reordered (Equiv.swap k (k + 1)) before after)
    (hk : ¬(Hit before side name k ∧ Hit before side name (k + 1) ∧
      ∀ j < k, ¬Hit before side name j)) :
    (u.locate pair side name).map (fun found => (found.1, Equiv.swap k (k + 1) found.2)) =
      t.locate pair side name := by
  apply h.locate_eq ht hu
  intro i r hf j hj
  rw [Equiv.symm_swap]
  by_contra hlt
  have hle : i ≤ Equiv.swap k (k + 1) j := by
    by_contra hn
    exact hf.not_hit (Nat.lt_of_not_le hn) hj
  have hne : i ≠ Equiv.swap k (k + 1) j := by
    rintro rfl
    rw [Equiv.swap_apply_self] at hlt
    exact hlt (Nat.le_refl j)
  obtain ⟨rfl, rfl⟩ := eq_of_swapped (Nat.lt_of_not_le hlt) (Nat.lt_of_le_of_ne hle hne)
  rw [Equiv.swap_apply_left] at hj
  exact hk ⟨hf.isHit, hj, fun m hm => hf.not_hit hm⟩

theorem Reordered.foundFrom_ne_of_swap {k : Nat}
    (h : Reordered (Equiv.swap k (k + 1)) before after) (hk : Hit before side name k)
    (hnext : Hit before side name (k + 1)) (hearlier : ∀ j < k, ¬Hit before side name j) :
    u.foundFrom (Equiv.swap k (k + 1)) pair side name ≠ t.foundFrom id pair side name := by
  have hafter : Hit after side name k := by
    rw [h.hit_iff, Equiv.swap_apply_left]
    exact hnext
  have hearlier' : ∀ j < k, ¬Hit after side name j := by
    intro j hj
    rw [h.hit_iff, Equiv.swap_apply_of_ne_of_ne (by omega) (by omega)]
    exact hearlier j hj
  obtain ⟨r, hr⟩ := firstMatch_of_hit hk hearlier
  obtain ⟨s, hs⟩ := firstMatch_of_hit hafter hearlier'
  rw [foundFrom_of_firstMatch ht hr, foundFrom_of_firstMatch hu hs, Equiv.swap_apply_left]
  simp

end

end

/-- Whether a name finds a rule does not depend on the order of the rules, nor which one, as long as
one rule accepts it at most. An exchange of neighbours changes where the rule comes from just if
both of them accept the name and none before them does. -/
theorem resolve_reordered {t u : Table} {pair : SystemPair} {before after : List Rule}
    (ht : t.rules pair = .ok before) (hu : u.rules pair = .ok after) (h : before.Perm after)
    (side : Side) (name : String) :
    ((∃ r, u.resolve pair side name = .ok r) ↔ ∃ r, t.resolve pair side name = .ok r) ∧
    ((∀ i j, Hit before side name i → Hit before side name j → i = j) →
      u.resolve pair side name = t.resolve pair side name) ∧
    (∃ origin, Reordered origin before after) ∧
    ∀ origin, Reordered origin before after →
      ((∀ i j, Hit before side name i → Hit before side name j → i = j) →
        u.foundFrom origin pair side name = t.foundFrom id pair side name) ∧
      ∀ k, origin = Equiv.swap k (k + 1) →
        (u.foundFrom origin pair side name ≠ t.foundFrom id pair side name ↔
          Hit before side name k ∧ Hit before side name (k + 1) ∧
            ∀ j < k, ¬Hit before side name j) := by
  refine ⟨?_, ?_, exists_reordered h, fun origin ho => ⟨?_, ?_⟩⟩
  · rw [exists_resolve_iff ht, exists_resolve_iff hu]
    simp only [h.mem_iff]
  · intro hone
    obtain ⟨origin, ho⟩ := exists_reordered h
    exact resolve_eq_of_locate_eq (ho.locate_eq_of_unique ht hu hone)
  · intro hone
    exact foundFrom_eq_of_locate_eq (ho.locate_eq_of_unique ht hu hone)
  · rintro k rfl
    constructor
    · intro hne
      by_contra hk
      exact hne (foundFrom_eq_of_locate_eq (ho.locate_eq_of_swap ht hu hk))
    · rintro ⟨hk, hnext, hearlier⟩
      exact ho.foundFrom_ne_of_swap ht hu hk hnext hearlier

/-- A rule for one name, and a wider one. -/
def overlapping : List Rule := [
  ⟨.literal "int8", .literal "i32", .method "toI32", none⟩,
  ⟨.ofValid "^int[1-9][0-9]*$" (by decide +kernel), .literal "BigInt", .method "toBigInt", none⟩]

/-- A table of some rules for one pair. -/
def ofRules (rules : List Rule) : Table := ofSteps [.rules ⟨.abi, .runtime⟩ rules]

theorem resolve_reordered_overlapping :
    (ofRules overlapping).rules ⟨.abi, .runtime⟩ = .ok overlapping ∧
    (ofRules overlapping.reverse).rules ⟨.abi, .runtime⟩ = .ok overlapping.reverse ∧
    overlapping.Perm overlapping.reverse ∧
    (ofRules overlapping.reverse).foundFrom (Equiv.swap 0 1) ⟨.abi, .runtime⟩ .source "int8" ≠
      (ofRules overlapping).foundFrom id ⟨.abi, .runtime⟩ .source "int8" ∧
    (ofRules overlapping.reverse).resolve ⟨.abi, .runtime⟩ .source "int64" =
      (ofRules overlapping).resolve ⟨.abi, .runtime⟩ .source "int64" := by
  have ht : (ofRules overlapping).rules ⟨.abi, .runtime⟩ = .ok overlapping := rfl
  have hu : (ofRules overlapping.reverse).rules ⟨.abi, .runtime⟩ = .ok overlapping.reverse := rfl
  have hperm : overlapping.Perm overlapping.reverse := (List.reverse_perm _).symm
  refine ⟨ht, hu, hperm, ?_, ?_⟩
  · obtain ⟨-, -, -, hfound⟩ := resolve_reordered ht hu hperm .source "int8"
    refine ((hfound _ (reordered_swap _ _ [])).2 0 rfl).mpr ⟨?_, ?_, by omega⟩
    · exact ⟨_, rfl, by decide +kernel⟩
    · exact ⟨_, rfl, by decide +kernel⟩
  · obtain ⟨-, hone, -⟩ := resolve_reordered ht hu hperm .source "int64"
    have hsecond : ∀ i, Hit overlapping .source "int64" i → i = 1 := by
      rintro i ⟨r, hr, ha⟩
      match i with
      | 0 =>
        obtain rfl := Option.some.inj hr
        contradiction
      | 1 => rfl
      | i + 2 => contradiction
    apply hone
    intro i j hi hj
    rw [hsecond i hi, hsecond j hj]

end TypeExchange.Table
