import Mathlib.Data.List.Chain
import Mathlib.Tactic.Common
import TypeExchange.Unicode.Folding

/-! The case variants of a character are the characters that fold to what it folds to. -/
namespace TypeExchange.Unicode

theorem toNat_ofNat {n : Nat} (h : n.isValidChar) : (Char.ofNat n).toNat = n := by
  rw [Char.ofNat, dif_pos h]
  rfl

/-- All code points between two bounds are characters. -/
def AllScalar (first last : Nat) : Prop := last < 0xd800 ∨ (0xe000 ≤ first ∧ last < 0x110000)

instance (first last : Nat) : Decidable (AllScalar first last) :=
  inferInstanceAs (Decidable (last < 0xd800 ∨ (0xe000 ≤ first ∧ last < 0x110000)))

theorem AllScalar.isValidChar {first last n : Nat} (h : AllScalar first last) (hf : first ≤ n)
    (hl : n ≤ last) : n.isValidChar := by
  unfold AllScalar at h
  unfold Nat.isValidChar
  omega

namespace ShiftedRun

def lastImage (r : ShiftedRun) : Nat := r.image + (r.last - r.first)

theorem contains_iff {r : ShiftedRun} {n : Nat} :
    r.contains n = true ↔ r.first ≤ n ∧ n ≤ r.last ∧ (n - r.first) % r.step = 0 := by
  simp [Run.contains, and_assoc]

theorem apply_bounds {r : ShiftedRun} {n : Nat} (h : r.contains n = true) :
    r.image ≤ r.apply n ∧ r.apply n ≤ r.lastImage := by
  rw [contains_iff] at h
  unfold apply lastImage
  omega

/-- A run that has members comes before another. -/
def Before (r s : ShiftedRun) : Prop := r.first ≤ r.last ∧ r.last < s.first

instance (r s : ShiftedRun) : Decidable (r.Before s) :=
  inferInstanceAs (Decidable (r.first ≤ r.last ∧ r.last < s.first))

instance : IsTrans ShiftedRun Before where
  trans _ _ _ hrs hst := ⟨hrs.1, Nat.lt_trans (Nat.lt_of_lt_of_le hrs.2 hst.1) hst.2⟩

/-- Whether an interval has no member of the runs, which ascend. If only every other code point
of the interval counts, it may lie between the members of a run. -/
def missed (first last : Nat) (alternate : Bool) : List ShiftedRun → Bool
  | [] => true
  | r :: rest =>
    bif Nat.blt r.last first then missed first last alternate rest
    else Nat.blt last r.first ||
      (alternate && Nat.beq r.step 2 && Nat.beq ((first + r.first) % 2) 1 &&
        missed first last alternate rest)

theorem not_contains_of_missed {first last n : Nat} {alternate : Bool} {runs : List ShiftedRun}
    (h : missed first last alternate runs = true) (hr : runs.Pairwise Before) (hf : first ≤ n)
    (hl : n ≤ last) (ha : alternate = true → (n - first) % 2 = 0) :
    ∀ r ∈ runs, r.contains n = false := by
  induction runs with
  | nil => simp
  | cons r rest ih =>
    rw [List.pairwise_cons] at hr
    rw [List.forall_mem_cons, ← Bool.not_eq_true, contains_iff]
    rw [missed] at h
    cases hb : Nat.blt r.last first with
    | true =>
      rw [hb, cond_true] at h
      exact ⟨by have := Nat.blt_eq.mp hb; omega, ih h hr.2⟩
    | false =>
      rw [hb, cond_false, Bool.or_eq_true] at h
      rcases h with h | h
      · have hlast := Nat.blt_eq.mp h
        refine ⟨by omega, ?_⟩
        intro s hs
        have := hr.1 s hs
        unfold Before at this
        rw [← Bool.not_eq_true, contains_iff]
        omega
      · simp only [Bool.and_eq_true, Nat.beq_eq] at h
        obtain ⟨⟨⟨halt, hstep⟩, hodd⟩, hrest⟩ := h
        have heven := ha halt
        rw [hstep]
        exact ⟨by omega, ih hrest hr.2⟩

/-- Of runs that ascend, at most one holds a code point. -/
theorem eq_of_contains {runs : List ShiftedRun} (h : runs.Pairwise Before) {r s : ShiftedRun}
    (hr : r ∈ runs) (hs : s ∈ runs) {n : Nat} (hrn : r.contains n = true)
    (hsn : s.contains n = true) : r = s := by
  rw [contains_iff] at hrn hsn
  by_contra hne
  have hsymm : runs.Pairwise fun r s => r.Before s ∨ s.Before r := h.imp .inl
  have : Std.Symm fun r s : ShiftedRun => r.Before s ∨ s.Before r := ⟨fun _ _ => Or.symm⟩
  have hbefore := hsymm.forall hr hs hne
  unfold Before at hbefore
  omega

theorem imageIn_eq_some_iff {runs : List ShiftedRun} (h : runs.Pairwise Before) {n m : Nat} :
    imageIn runs n = some m ↔ ∃ r ∈ runs, r.contains n = true ∧ r.apply n = m := by
  unfold imageIn
  rw [Option.map_eq_some_iff]
  constructor
  · rintro ⟨r, hf, hm⟩
    exact ⟨r, List.mem_of_find?_eq_some hf, by simpa using List.find?_some hf, hm⟩
  · rintro ⟨r, hr, hn, hm⟩
    cases hf : runs.find? (·.contains n) with
    | none =>
      have := List.find?_eq_none.mp hf r hr
      contradiction
    | some s =>
      have hsn : s.contains n = true := by simpa using List.find?_some hf
      have hs := eq_of_contains h hr (List.mem_of_find?_eq_some hf) hn hsn
      exact ⟨s, rfl, hs ▸ hm⟩

theorem mem_preimages_iff {runs : List ShiftedRun} {n m : Nat} :
    m ∈ preimages runs n ↔ ∃ r ∈ runs, r.contains m = true ∧ r.apply m = n := by
  unfold preimages
  rw [List.mem_filterMap]
  refine exists_congr fun r => and_congr_right fun _ => ?_
  simp only [Option.ite_none_right_eq_some, Option.some.injEq]
  constructor
  · rintro ⟨⟨hn, hc⟩, rfl⟩
    refine ⟨hc, ?_⟩
    unfold apply
    omega
  · rintro ⟨hc, rfl⟩
    have hm : r.apply m - r.image + r.first = m := by
      have := contains_iff.mp hc
      unfold apply
      omega
    rw [hm]
    exact ⟨⟨Nat.le_add_right _ _, hc⟩, rfl⟩

end ShiftedRun

theorem foldRuns_ascend : foldRuns.Pairwise ShiftedRun.Before :=
  List.isChain_iff_pairwise.mp (by decide +kernel)

theorem foldRuns_scalar :
    ∀ r ∈ foldRuns, AllScalar r.first r.last ∧ AllScalar r.image r.lastImage := by decide +kernel

/-- No folding folds further. -/
theorem foldRuns_missed : (foldRuns.all fun r =>
    ShiftedRun.missed r.image r.lastImage (r.step == 2 || r.first == r.last) foldRuns) = true := by
  decide +kernel

open ShiftedRun

/-- What a character folds to, where that is another character. -/
theorem fold_of_contains {r : ShiftedRun} (hr : r ∈ foldRuns) {c : Char}
    (hc : r.contains c.toNat = true) :
    (fold c).toNat = r.apply c.toNat ∧ ∀ s ∈ foldRuns, s.contains (fold c).toNat = false := by
  have hi := (imageIn_eq_some_iff foldRuns_ascend).mpr ⟨r, hr, hc, rfl⟩
  have hn := contains_iff.mp hc
  obtain ⟨hlo, hhi⟩ := apply_bounds hc
  have hfold : (fold c).toNat = r.apply c.toNat := by
    rw [fold, hi, Option.map_some, Option.getD_some]
    exact toNat_ofNat ((foldRuns_scalar r hr).2.isValidChar hlo hhi)
  refine ⟨hfold, ?_⟩
  rw [hfold]
  apply not_contains_of_missed (List.all_eq_true.mp foldRuns_missed r hr) foldRuns_ascend hlo hhi
  intro halt
  unfold apply
  rw [Nat.add_sub_cancel_left]
  simp only [Bool.or_eq_true, beq_iff_eq] at halt
  rcases halt with hstep | hone
  · rw [← hstep]
    exact hn.2.2
  · omega

theorem fold_of_not_contains {c : Char} (h : ∀ r ∈ foldRuns, r.contains c.toNat = false) :
    fold c = c := by
  have hi : imageIn foldRuns c.toNat = none := by
    rw [imageIn, Option.map_eq_none_iff, List.find?_eq_none]
    intro r hr
    simp [h r hr]
  rw [fold, hi]
  rfl

theorem fold_fold (c : Char) : fold (fold c) = fold c := by
  by_cases h : ∃ r ∈ foldRuns, r.contains c.toNat = true
  · obtain ⟨r, hr, hc⟩ := h
    exact fold_of_not_contains (fold_of_contains hr hc).2
  · have hc : ∀ r ∈ foldRuns, r.contains c.toNat = false := by simpa using h
    rw [fold_of_not_contains hc, fold_of_not_contains hc]

/-- The case variants of a character are those with the same folding. -/
theorem mem_caseVariants_iff {c d : Char} : d ∈ caseVariants c ↔ fold d = fold c := by
  unfold caseVariants
  rw [List.mem_cons, List.mem_map]
  constructor
  · rintro (rfl | ⟨m, hm, rfl⟩)
    · exact fold_fold c
    · obtain ⟨r, hr, hc, hm⟩ := mem_preimages_iff.mp hm
      have hb := contains_iff.mp hc
      have hn := toNat_ofNat ((foldRuns_scalar r hr).1.isValidChar hb.1 hb.2.1)
      rw [← hn] at hc hm
      rw [← Char.toNat_inj, (fold_of_contains hr hc).1, hm]
  · intro h
    by_cases hd : ∃ r ∈ foldRuns, r.contains d.toNat = true
    · obtain ⟨r, hr, hc⟩ := hd
      refine .inr ⟨d.toNat, mem_preimages_iff.mpr ⟨r, hr, hc, ?_⟩, Char.ofNat_toNat d⟩
      rw [← h, (fold_of_contains hr hc).1]
    · have hc : ∀ r ∈ foldRuns, r.contains d.toNat = false := by simpa using hd
      exact .inl ((fold_of_not_contains hc).symm.trans h)

example : caseVariants 'k' = ['k', 'K', '\u212a'] := by decide +kernel

end TypeExchange.Unicode
