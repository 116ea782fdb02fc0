import Mathlib.Tactic.Common
import TypeExchange.Unicode.Character
import TypeExchange.Unicode.WhiteSpace

/-! What the tables say of the letters of ASCII and of white space: such letters have a case and are
seen by case, and no white space is a letter. The tables are texts, and they are gone through line
by line. -/
namespace TypeExchange.Unicode

theorem property_eq_runsOfLines {name : String} {i : Nat} {row : String × List String}
    (h : (binaryTable.findIdx? fun row => isAmong row.1 (String.ofList (nameKey name.toList))) =
      some i) (hrow : binaryTable[i]? = some row) : property name = runsOfLines row.2 := by
  rw [property, propertyNamed, findRow, List.find?_eq_bind_findIdx?_getElem?, h, Option.bind_some,
    hrow]
  rfl

/-- A line of a table is given by its characters: to unify these with a literal is fast, and to
evaluate `toList` on one is slow. -/
theorem all_runsOfLines_cons {p : Run → Bool} {line : List Char} {lines : List String}
    (h : (runsOfLine line).all p = true) (hlines : (runsOfLines lines).all p = true) :
    (runsOfLines (String.ofList line :: lines)).all p = true := by
  rw [runsOfLines, List.flatMap_cons, String.toList_ofList, List.all_append, h]
  exact hlines

theorem all_runsOfLines_nil {p : Run → Bool} : (runsOfLines []).all p = true := rfl

/-- Whether a run has nothing in common with intervals of code points. -/
def Run.misses (intervals : List (Nat × Nat)) (r : Run) : Bool :=
  intervals.all fun i => Nat.blt r.last i.1 || Nat.blt i.2 r.first

theorem inRuns_eq_false_of_misses {intervals : List (Nat × Nat)} {runs : List Run}
    (h : runs.all (Run.misses intervals) = true) {i : Nat × Nat} (hi : i ∈ intervals) {c : Char}
    (hfirst : i.1 ≤ c.toNat) (hlast : c.toNat ≤ i.2) : inRuns runs c = false := by
  unfold inRuns
  rw [List.any_eq_false]
  intro r hr
  have hmisses : r.misses intervals = true := List.all_eq_true.mp h r hr
  have hi' := List.all_eq_true.mp hmisses i hi
  simp only [Bool.or_eq_true, Nat.blt_eq] at hi'
  simp only [Run.contains, Bool.and_eq_true, decide_eq_true_eq]
  omega

/-- The capital and the small letters of ASCII. -/
def asciiLetters : List (Nat × Nat) := [(0x41, 0x5a), (0x61, 0x7a)]

theorem isUpper_iff_toNat {c : Char} : c.isUpper = true ↔ 0x41 ≤ c.toNat ∧ c.toNat ≤ 0x5a :=
  decide_eq_true_iff

theorem isLower_iff_toNat {c : Char} : c.isLower = true ↔ 0x61 ≤ c.toNat ∧ c.toNat ≤ 0x7a :=
  (Bool.and_eq_true_iff ..).trans (and_congr decide_eq_true_iff decide_eq_true_iff)

theorem isAlpha_iff {c : Char} : c.isAlpha = true ↔ c.isUpper = true ∨ c.isLower = true :=
  Bool.or_eq_true_iff ..

theorem isAlpha_iff_exists {c : Char} :
    c.isAlpha = true ↔ ∃ i ∈ asciiLetters, i.1 ≤ c.toNat ∧ c.toNat ≤ i.2 := by
  rw [isAlpha_iff, isUpper_iff_toNat, isLower_iff_toNat]
  simp [asciiLetters]

theorem toNat_lt_of_isAlpha {c : Char} (h : c.isAlpha = true) : c.toNat < 128 := by
  rw [isAlpha_iff_exists] at h
  simp only [asciiLetters, List.mem_cons, List.not_mem_nil, or_false, exists_eq_or_imp,
    exists_eq_left] at h
  omega

def whiteSpaces : List (Nat × Nat) := [(9, 13), (0x20, 0x20), (0x85, 0x85), (0xa0, 0xa0),
  (0x1680, 0x1680), (0x2000, 0x200a), (0x2028, 0x2029), (0x202f, 0x202f), (0x205f, 0x205f),
  (0x3000, 0x3000)]

theorem isWhiteSpace_iff_exists {c : Char} :
    isWhiteSpace c = true ↔ ∃ i ∈ whiteSpaces, i.1 ≤ c.toNat ∧ c.toNat ≤ i.2 := by
  simp only [isWhiteSpace, whiteSpaces, Bool.or_eq_true, Bool.and_eq_true, decide_eq_true_eq,
    beq_iff_eq, List.mem_cons, List.not_mem_nil, or_false, exists_eq_or_imp, exists_eq_left]
  omega

theorem isWhiteSpace_of_isAlpha {c : Char} (h : c.isAlpha = true) : isWhiteSpace c = false := by
  rw [isAlpha_iff_exists] at h
  rw [← Bool.not_eq_true, isWhiteSpace_iff_exists]
  simp only [asciiLetters, whiteSpaces, List.mem_cons, List.not_mem_nil, or_false,
    exists_eq_or_imp, exists_eq_left] at h ⊢
  omega

theorem caseIgnorableRuns_miss : caseIgnorableRuns.all (Run.misses asciiLetters) = true := by
  rw [caseIgnorableRuns, List.all_append, Bool.and_eq_true]
  constructor
  -- one step for each line
  · rw [property_eq_runsOfLines (i := 5) (by decide +kernel) rfl]
    repeat refine all_runsOfLines_cons (by decide +kernel) ?_
    exact all_runsOfLines_nil
  · repeat refine all_runsOfLines_cons (by decide +kernel) ?_
    exact all_runsOfLines_nil

theorem alphabeticRuns_miss : alphabeticRuns.all (Run.misses whiteSpaces) = true := by
  rw [alphabeticRuns, List.all_append, Bool.and_eq_true]
  constructor
  · rw [property_eq_runsOfLines (i := 0) (by decide +kernel) rfl]
    repeat refine all_runsOfLines_cons (by decide +kernel) ?_
    exact all_runsOfLines_nil
  · repeat refine all_runsOfLines_cons (by decide +kernel) ?_
    exact all_runsOfLines_nil

theorem asciiLetters_cased :
    asciiLetters.map (fun i => (⟨i.1, i.2, 1⟩ : Run)) <+: property "cased" := by decide +kernel

theorem isCaseIgnorable_of_isAlpha {c : Char} (h : c.isAlpha = true) :
    isCaseIgnorable c = false := by
  obtain ⟨i, hi, hfirst, hlast⟩ := isAlpha_iff_exists.mp h
  exact inRuns_eq_false_of_misses caseIgnorableRuns_miss hi hfirst hlast

theorem isCased_of_isAlpha {c : Char} (h : c.isAlpha = true) : isCased c = true := by
  obtain ⟨i, hi, hfirst, hlast⟩ := isAlpha_iff_exists.mp h
  have hrun : (⟨i.1, i.2, 1⟩ : Run) ∈ casedRuns :=
    List.mem_append_left _ (asciiLetters_cased.subset (List.mem_map_of_mem hi))
  have hne : c ≠ '\u0295' := by
    rintro rfl
    exact absurd h (by decide)
  rw [isCased, bne_iff_ne.mpr hne, Bool.true_and, inRuns, List.any_eq_true]
  exact ⟨_, hrun, by simp [Run.contains, hfirst, hlast, Nat.mod_one]⟩

/-- White space is no letter. -/
theorem isAlphabetic_of_isWhiteSpace {c : Char} (h : isWhiteSpace c = true) :
    isAlphabetic c = false := by
  obtain ⟨i, hi, hfirst, hlast⟩ := isWhiteSpace_iff_exists.mp h
  exact inRuns_eq_false_of_misses alphabeticRuns_miss hi hfirst hlast

end TypeExchange.Unicode
