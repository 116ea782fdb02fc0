import Mathlib.Data.List.Forall2
import Mathlib.Data.Set.BooleanAlgebra
import Mathlib.Data.Set.Image
import Mathlib.Order.CompletePartialOrder
import TypeExchange.Proofs.Table.Resolution
import TypeExchange.Proofs.Table.Opposite

/-! Lists in which every rule stands before the wider ones. The rule that is found is then the
narrowest that matches, whatever the name. Where a few samples stand for all that is tested, they
tell whether a list is of this kind. -/
namespace TypeExchange

/-- The names that a rule accepts on a side. -/
def Rule.names (r : Rule) (side : Side) : Set String := {name | r.accepts side name = true}

/-- Two sets have nothing in common, or the first is a proper part of the second. -/
def ApartOrWithin {α : Type} (A B : Set α) : Prop := Disjoint A B ∨ A ⊂ B

theorem ApartOrWithin.image {α β : Type} {A B : Set α} (h : ApartOrWithin A B) {f : α → β}
    (hf : Function.Injective f) : ApartOrWithin (f '' A) (f '' B) := by
  rcases h with h | h
  · exact .inl ((Set.disjoint_image_iff hf).mpr h)
  · exact .inr (hf.image_strictMono h)

/-- Sets that have something in common are nested. -/
theorem ApartOrWithin.subset {α : Type} {A B : Set α} (h : ApartOrWithin A B) {a : α}
    (ha : a ∈ A) (hb : a ∈ B) : A ⊆ B := by
  rcases h with h | h
  · exact absurd hb (Set.disjoint_left.mp h ha)
  · exact h.subset

namespace Table

/-- On one of its sides a pair is looked up among rules that stand before all wider ones. -/
structure NarrowestFirst (t : Table) (pair : SystemPair) (side : Side) (rules : List Rule) :
    Prop where
  registered : t.rules pair = .ok rules
  nested : rules.Pairwise fun r s => ApartOrWithin (r.names side) (s.names side)
  narrowest : ∀ name r, t.resolve pair side name = .ok r →
    ∀ s ∈ rules, s.accepts side name = true → r.names side ⊆ s.names side
  /-- No rule keeps a later one from all of its names. -/
  unshadowed : rules.Pairwise fun r s => ¬s.names side ⊆ r.names side
  reached : ∀ i r, rules[i]? = some r → ∃ name, t.locate pair side name = .ok (r, i)

section
variable {t : Table} {pair : SystemPair} {side : Side} {rules : List Rule}

theorem subset_of_found (h : rules.Pairwise fun r s => ApartOrWithin (r.names side) (s.names side))
    {name : String} {r : Rule} (hr : rules.find? (·.accepts side name) = some r) :
    ∀ s ∈ rules, s.accepts side name = true → r.names side ⊆ s.names side := by
  induction rules with
  | nil => contradiction
  | cons q rules ih =>
    rw [List.pairwise_cons] at h
    cases hq : q.accepts side name with
    | true =>
      rw [List.find?_cons, hq] at hr
      obtain rfl := Option.some.inj hr
      rw [List.forall_mem_cons]
      refine ⟨fun _ => Set.Subset.rfl, fun s hs ha => ?_⟩
      exact (h.1 s hs).subset (a := name) hq ha
    | false =>
      rw [List.find?_cons, hq] at hr
      rw [List.forall_mem_cons]
      refine ⟨fun ha => ?_, ih h.2 hr⟩
      rw [hq] at ha
      contradiction

theorem unshadowed_of_reached
    (h : ∀ i r, rules[i]? = some r → ∃ name, FirstMatch rules side name i r) :
    rules.Pairwise fun r s => ¬s.names side ⊆ r.names side := by
  rw [List.pairwise_iff_getElem]
  intro i j hi hj hij hsub
  obtain ⟨name, hfirst⟩ := h j _ (List.getElem?_eq_getElem hj)
  have hearlier := hfirst.earlier i hij _ (List.getElem?_eq_getElem hi)
  have hwider : rules[i].accepts side name = true := hsub hfirst.hit
  rw [hearlier] at hwider
  contradiction

theorem narrowestFirst_of_nested (hrules : t.rules pair = .ok rules)
    (hnested : rules.Pairwise fun r s => ApartOrWithin (r.names side) (s.names side))
    (hreached : ∀ i r, rules[i]? = some r → ∃ name, FirstMatch rules side name i r) :
    t.NarrowestFirst pair side rules where
  registered := hrules
  nested := hnested
  narrowest := by
    intro name r hr
    exact subset_of_found hnested ((resolve_eq_ok_iff hrules).mp hr)
  unshadowed := unshadowed_of_reached hreached
  reached := by
    intro i r hi
    obtain ⟨name, hfirst⟩ := hreached i r hi
    exact ⟨name, (locate_eq_ok_iff hrules).mpr hfirst⟩

end

end Table

section
variable {κ : Type} {samples : List κ} {kinds : List (κ → Bool)}

/-- For all tests, everything is like one of the samples. -/
def Represent (samples : List κ) (kinds : List (κ → Bool)) : Prop :=
  ∀ x, ∃ y ∈ samples, ∀ k ∈ kinds, k x = k y

/-- On the samples, one test excludes another or is narrower. -/
def NarrowerOn (samples : List κ) (k l : κ → Bool) : Prop :=
  (∀ x ∈ samples, k x = true → l x = false) ∨
    (∀ x ∈ samples, k x = true → l x = true) ∧ ∃ x ∈ samples, l x = true ∧ k x = false

instance (samples : List κ) (k l : κ → Bool) : Decidable (NarrowerOn samples k l) :=
  inferInstanceAs (Decidable (_ ∨ _))

/-- On the samples, tests stand before the wider ones, and each is the first for some sample. -/
def OrderedOn (samples : List κ) (kinds : List (κ → Bool)) : Prop :=
  kinds.Pairwise (NarrowerOn samples) ∧
    ∀ i < kinds.length, ∃ x ∈ samples, kinds.findIdx? (· x) = some i

instance (samples : List κ) (kinds : List (κ → Bool)) : Decidable (OrderedOn samples kinds) :=
  inferInstanceAs (Decidable (_ ∧ _))

theorem apartOrWithin_of_narrowerOn (h : Represent samples kinds) {k l : κ → Bool} (hk : k ∈ kinds)
    (hl : l ∈ kinds) (hn : NarrowerOn samples k l) :
    ApartOrWithin {x | k x = true} {x | l x = true} := by
  rcases hn with hn | ⟨hn, y, -, hy, hny⟩
  · refine .inl (Set.disjoint_left.mpr fun x (hx : k x = true) (hlx : l x = true) => ?_)
    obtain ⟨y, hy, he⟩ := h x
    rw [he k hk] at hx
    rw [he l hl, hn y hy hx] at hlx
    contradiction
  · refine .inr (Set.ssubset_iff_exists.mpr ⟨fun x (hx : k x = true) => ?_, y, hy, ?_⟩)
    · obtain ⟨y, hy, he⟩ := h x
      rw [he k hk] at hx
      exact (he l hl).trans (hn y hy hx)
    · intro (hk : k y = true)
      rw [hny] at hk
      contradiction

/-- Rules accept what is written of all that passes their tests. -/
def AcceptWritten (write : κ → String) (side : Side) (rules : List Rule)
    (kinds : List (κ → Bool)) : Prop :=
  List.Forall₂ (fun r k => r.names side = write '' {x | k x = true}) rules kinds

namespace AcceptWritten

variable {write : κ → String} {side : Side} {rules : List Rule}

theorem names (h : AcceptWritten write side rules kinds) {i : Nat} (hi : i < rules.length)
    (hk : i < kinds.length) : rules[i].names side = write '' {x | kinds[i] x = true} :=
  List.Forall₂.get h hi hk

theorem accepts (h : AcceptWritten write side rules kinds) (hw : Function.Injective write)
    {i : Nat} (hi : i < rules.length) (hk : i < kinds.length) (x : κ) :
    rules[i].accepts side (write x) = kinds[i] x := by
  have hx : write x ∈ rules[i].names side ↔ kinds[i] x = true := by
    rw [h.names hi hk, hw.mem_set_image]
    exact Iff.rfl
  exact Bool.eq_iff_iff.mpr hx

theorem nested (h : AcceptWritten write side rules kinds) (hw : Function.Injective write)
    (hk : kinds.Pairwise fun k l => ApartOrWithin {x | k x = true} {x | l x = true}) :
    rules.Pairwise fun r s => ApartOrWithin (r.names side) (s.names side) := by
  have hlength : rules.length = kinds.length := List.Forall₂.length_eq h
  rw [List.pairwise_iff_getElem] at hk ⊢
  intro i j hi hj hij
  rw [h.names hi (hlength ▸ hi), h.names hj (hlength ▸ hj)]
  exact (hk i j _ _ hij).image hw

theorem firstMatch (h : AcceptWritten write side rules kinds) (hw : Function.Injective write)
    {i : Nat} {x : κ} (hx : kinds.findIdx? (· x) = some i) {r : Rule} (hr : rules[i]? = some r) :
    Table.FirstMatch rules side (write x) i r := by
  have hlength : rules.length = kinds.length := List.Forall₂.length_eq h
  obtain ⟨hi, hit, earlier⟩ := List.findIdx?_eq_some_iff_getElem.mp hx
  obtain ⟨hi', rfl⟩ := List.getElem?_eq_some_iff.mp hr
  refine ⟨hr, by rw [h.accepts hw hi' hi, hit], fun j hj s hs => ?_⟩
  obtain ⟨hj', rfl⟩ := List.getElem?_eq_some_iff.mp hs
  rw [h.accepts hw hj' (hlength ▸ hj')]
  exact Bool.eq_false_iff.mpr (earlier j hj)

end AcceptWritten

/-- Whether rules stand before the wider ones is told by samples of what they accept. -/
theorem Table.narrowestFirst_of_orderedOn {t : Table} {pair : SystemPair} {side : Side}
    {rules : List Rule} (hrules : t.rules pair = .ok rules) {write : κ → String}
    (hw : Function.Injective write) (ha : AcceptWritten write side rules kinds)
    (hs : Represent samples kinds) (ho : OrderedOn samples kinds) :
    t.NarrowestFirst pair side rules := by
  have hlength : rules.length = kinds.length := List.Forall₂.length_eq ha
  have hkinds : kinds.Pairwise fun k l => ApartOrWithin {x | k x = true} {x | l x = true} :=
    ho.1.imp_of_mem fun hk hl hn => apartOrWithin_of_narrowerOn hs hk hl hn
  apply narrowestFirst_of_nested hrules (ha.nested hw hkinds)
  intro i r hr
  obtain ⟨hi, -⟩ := List.getElem?_eq_some_iff.mp hr
  obtain ⟨x, -, hx⟩ := ho.2 i (hlength ▸ hi)
  exact ⟨write x, ha.firstMatch hw hx hr⟩

end

end TypeExchange
