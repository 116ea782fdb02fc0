import Mathlib.Data.Nat.Bitwise
import Mathlib.Logic.Function.Iterate
import Mathlib.Tactic.Common
import TypeExchange.Regex.Search

/-! What an expression matches between two positions of a text. The search, which follows all
positions at once, finds a match just where there is one. -/
namespace TypeExchange.Regex

/-- The character that ends at a position. -/
def charBefore (text : List Char) : Nat → Option Char
  | 0 => none
  | i + 1 => text[i]?

/-- So many rounds of a relation, one behind the other. -/
def Rounds (R : Nat → Nat → Prop) : Nat → Nat → Nat → Prop
  | 0, i, j => i = j
  | n + 1, i, j => ∃ k, R i k ∧ Rounds R n k j

/-- The text between two positions matches. Assertions are asked of the whole text. A repetition
with an upper bound below the lower one, which no text writes, is of the lower one. -/
def Spans (text : List Char) : Regex → Nat → Nat → Prop
  | empty, i, j => i = j
  | chars set, i, j => j = i + 1 ∧ ∃ c, text[i]? = some c ∧ set.contains c = true
  | assertion a, i, j => i = j ∧ i ≤ text.length ∧ a.holds (charBefore text i) text[i]? = true
  | seq r s, i, j => ∃ k, Spans text r i k ∧ Spans text s k j
  | alt r s, i, j => Spans text r i j ∨ Spans text s i j
  | times r least most, i, j =>
    ∃ n, least ≤ n ∧ (∀ m, most = some m → n ≤ max least m) ∧ Rounds (Spans text r) n i j

/-- A relation that stays where it is or goes on within a text. -/
def Forward (length : Nat) (R : Nat → Nat → Prop) : Prop :=
  ∀ ⦃i j⦄, R i j → i = j ∨ i < j ∧ j ≤ length

/-- A function on sets of positions takes each of them where a relation leads. -/
def Carries (f : Nat → Nat) (R : Nat → Nat → Prop) : Prop :=
  ∀ places j, (f places).testBit j = true ↔ ∃ i, places.testBit i = true ∧ R i j

section
variable {R S : Nat → Nat → Prop} {f g : Nat → Nat} {length : Nat}

theorem rounds_add {a b i j : Nat} :
    Rounds R (a + b) i j ↔ ∃ k, Rounds R a i k ∧ Rounds R b k j := by
  induction a generalizing i with
  | zero => simp [Rounds]
  | succ a ih =>
    rw [Nat.succ_add]
    simp only [Rounds, ih]
    constructor
    · rintro ⟨l, hl, k, hk, hb⟩
      exact ⟨k, ⟨l, hl, hk⟩, hb⟩
    · rintro ⟨k, ⟨l, hl, hk⟩, hb⟩
      exact ⟨l, hl, k, hk, hb⟩

theorem forward_rounds (h : Forward length R) (n : Nat) : Forward length (Rounds R n) := by
  induction n with
  | zero =>
    intro i j hij
    exact .inl hij
  | succ n ih =>
    rintro i j ⟨k, hik, hkj⟩
    have := h hik
    have := ih hkj
    omega

/-- Rounds that stay where they are can be left out. -/
theorem rounds_shorten (h : Forward length R) {n i j : Nat} (hn : Rounds R n i j) :
    ∃ m ≤ n, m ≤ j - i ∧ Rounds R m i j := by
  induction n generalizing i with
  | zero => exact ⟨0, Nat.le_refl 0, Nat.zero_le _, hn⟩
  | succ n ih =>
    obtain ⟨k, hik, hkj⟩ := hn
    obtain ⟨m, hmn, hm, hr⟩ := ih hkj
    have hkj' := forward_rounds h n hkj
    rcases h hik with rfl | ⟨hlt, _⟩
    · exact ⟨m, by omega, hm, hr⟩
    · exact ⟨m + 1, by omega, by omega, k, hik, hr⟩

/-- Rounds that may be passed over are fewer rounds. -/
theorem rounds_eq_or {n i j : Nat} :
    Rounds (fun i j => i = j ∨ R i j) n i j ↔ ∃ m ≤ n, Rounds R m i j := by
  induction n generalizing i with
  | zero => simp [Rounds]
  | succ n ih =>
    simp only [Rounds, ih]
    constructor
    · rintro ⟨k, rfl | hik, m, hm, hr⟩
      · exact ⟨m, by omega, hr⟩
      · exact ⟨m + 1, by omega, k, hik, hr⟩
    · rintro ⟨m, hm, hr⟩
      cases m with
      | zero => exact ⟨i, .inl rfl, 0, Nat.zero_le n, hr⟩
      | succ m =>
        obtain ⟨k, hik, hr⟩ := hr
        exact ⟨k, .inr hik, m, by omega, hr⟩

theorem power_eq_iterate (f : Nat → Nat) (n places : Nat) : power f n places = f^[n] places := by
  induction n generalizing places with
  | zero => rfl
  | succ n ih =>
    rw [power, Function.iterate_succ_apply]
    split
    next h => rw [h, Function.iterate_fixed h]
    next => exact ih (f places)

theorem reach_eq_iterate (f : Nat → Nat) (n places : Nat) :
    reach f n places = (fun p => p ||| f p)^[n] places := by
  induction n generalizing places with
  | zero => rfl
  | succ n ih =>
    rw [reach, Function.iterate_succ_apply]
    split
    next h => rw [h, Function.iterate_fixed h]
    next => exact ih (places ||| f places)

theorem Carries.comp (hf : Carries f R) (hg : Carries g S) :
    Carries (fun p => g (f p)) (fun i j => ∃ k, R i k ∧ S k j) := by
  intro places j
  constructor
  · intro h
    obtain ⟨k, hk, hkj⟩ := (hg _ j).mp h
    obtain ⟨i, hi, hik⟩ := (hf _ k).mp hk
    exact ⟨i, hi, k, hik, hkj⟩
  · rintro ⟨i, hi, k, hik, hkj⟩
    exact (hg _ j).mpr ⟨k, (hf _ k).mpr ⟨i, hi, hik⟩, hkj⟩

theorem Carries.or (hf : Carries f R) (hg : Carries g S) :
    Carries (fun p => f p ||| g p) (fun i j => R i j ∨ S i j) := by
  intro places j
  rw [Nat.testBit_or, Bool.or_eq_true, hf, hg]
  simp only [and_or_left, exists_or]

theorem carries_id : Carries (fun p => p) (fun i j => i = j) := by
  intro places j
  simp

theorem Carries.iterate (hf : Carries f R) (n : Nat) : Carries f^[n] (Rounds R n) := by
  induction n with
  | zero => exact carries_id
  | succ n ih => exact hf.comp ih

theorem Carries.power (hf : Carries f R) (n : Nat) : Carries (power f n) (Rounds R n) := by
  intro places j
  rw [power_eq_iterate]
  exact hf.iterate n places j

theorem Carries.reach (hf : Carries f R) (n : Nat) :
    Carries (reach f n) (fun i j => ∃ m ≤ n, Rounds R m i j) := by
  intro places j
  rw [reach_eq_iterate, (carries_id.or hf).iterate n places j]
  simp only [rounds_eq_or]

end

theorem testBit_placesBefore {p : Char → Bool} {text : List Char} {i : Nat} :
    (placesBefore p text).testBit i = true ↔ ∃ c, text[i]? = some c ∧ p c = true := by
  induction text generalizing i with
  | nil => simp [placesBefore]
  | cons c cs ih =>
    rw [placesBefore, ← Nat.bit_val]
    cases i with
    | zero => simp
    | succ i => rw [Nat.testBit_bit_succ, ih, List.getElem?_cons_succ]

/-- The first position of the text comes after `before`. -/
theorem testBit_placesBetween {p : Option Char → Option Char → Bool} {before : Option Char}
    {text : List Char} {i : Nat} :
    (placesBetween p before text).testBit i = true ↔
      i ≤ text.length ∧ p (if i = 0 then before else charBefore text i) text[i]? = true := by
  induction text generalizing before i with
  | nil =>
    rw [placesBetween]
    cases i with
    | zero => cases h : p before none <;> simp [h]
    | succ i => cases p before none <;> simp [Nat.testBit_succ]
  | cons c cs ih =>
    rw [placesBetween, ← Nat.bit_val]
    cases i with
    | zero => simp
    | succ i =>
      rw [Nat.testBit_bit_succ, ih]
      cases i <;> simp [charBefore]

theorem testBit_allPlaces {length i : Nat} :
    (allPlaces length).testBit i = true ↔ i ≤ length := by
  rw [allPlaces, Nat.one_shiftLeft, Nat.testBit_two_pow_sub_one, decide_eq_true_eq,
    Nat.lt_succ_iff]

theorem forward_spans (text : List Char) (r : Regex) : Forward text.length (Spans text r) := by
  induction r with
  | empty =>
    intro i j h
    exact .inl h
  | chars set =>
    rintro i j ⟨rfl, c, hc, _⟩
    obtain ⟨hi, _⟩ := List.getElem?_eq_some_iff.mp hc
    exact .inr ⟨Nat.lt_succ_self i, hi⟩
  | assertion a =>
    rintro i j ⟨rfl, _⟩
    exact .inl rfl
  | seq r s ihr ihs =>
    rintro i j ⟨k, hr, hs⟩
    have := ihr hr
    have := ihs hs
    omega
  | alt r s ihr ihs =>
    rintro i j (h | h)
    · exact ihr h
    · exact ihs h
  | times r least most ih =>
    rintro i j ⟨n, _, _, h⟩
    exact forward_rounds ih n h

theorem spans_times_iff {text : List Char} {r : Regex} {least : Nat} {most : Option Nat}
    {i j : Nat} :
    Spans text (times r least most) i j ↔
      ∃ k, Rounds (Spans text r) least i k ∧
        ∃ m ≤ (match most with | none => text.length + 1 | some m => m - least),
          Rounds (Spans text r) m k j := by
  constructor
  · rintro ⟨n, hn, hmost, h⟩
    obtain ⟨m, rfl⟩ := Nat.exists_eq_add_of_le hn
    obtain ⟨k, hk, hj⟩ := rounds_add.mp h
    cases most with
    | none =>
      obtain ⟨l, _, hl, hr⟩ := rounds_shorten (forward_spans text r) hj
      have := forward_rounds (forward_spans text r) m hj
      exact ⟨k, hk, l, by simp only; omega, hr⟩
    | some b =>
      have := hmost b rfl
      exact ⟨k, hk, m, by simp only; omega, hj⟩
  · rintro ⟨k, hk, m, hm, hj⟩
    refine ⟨least + m, Nat.le_add_right least m, ?_, rounds_add.mpr ⟨k, hk, hj⟩⟩
    rintro b rfl
    simp only at hm
    omega

/-- The search follows an expression just where it matches. -/
theorem carries_from (text : List Char) (r : Regex) :
    Carries ((walk text r).from text.length) (Spans text r) := by
  induction r with
  | empty => exact carries_id
  | chars set =>
    intro places j
    simp only [walk, Walk.from, Spans, Nat.testBit_shiftLeft, Nat.testBit_and, Bool.and_eq_true,
      decide_eq_true_eq, testBit_placesBefore]
    constructor
    · rintro ⟨hj, hp, hc⟩
      exact ⟨j - 1, hp, by omega, hc⟩
    · rintro ⟨i, hp, rfl, hc⟩
      exact ⟨by omega, hp, hc⟩
  | assertion a =>
    intro places j
    have hb : (if j = 0 then none else charBefore text j) = charBefore text j := by
      cases j <;> simp [charBefore]
    simp only [walk, Walk.from, Spans, Nat.testBit_and, Bool.and_eq_true, testBit_placesBetween,
      hb]
    constructor
    · rintro ⟨hp, ha⟩
      exact ⟨j, hp, rfl, ha⟩
    · rintro ⟨i, hp, rfl, ha⟩
      exact ⟨hp, ha⟩
  | seq r s ihr ihs => exact ihr.comp ihs
  | alt r s ihr ihs => exact ihr.or ihs
  | times r least most ih =>
    intro places j
    simp only [spans_times_iff]
    exact ((ih.power least).comp (ih.reach _)) places j

/-- A text has a match if some part of it, or the empty text at some position, matches. -/
theorem isMatch_iff_spans {r : Regex} {text : String} :
    r.isMatch text = true ↔
      ∃ i j, i ≤ j ∧ j ≤ text.toList.length ∧ Spans text.toList r i j := by
  have hm : r.isMatch text = true ↔
      (walk text.toList r).from text.toList.length (allPlaces text.toList.length) ≠ 0 := by
    simp [isMatch]
  rw [hm]
  constructor
  · intro h
    obtain ⟨j, hj⟩ := Nat.exists_testBit_of_ne_zero h
    obtain ⟨i, hi, hs⟩ := (carries_from _ r _ j).mp hj
    have hi' := testBit_allPlaces.mp hi
    have := forward_spans _ r hs
    exact ⟨i, j, by omega, by omega, hs⟩
  · rintro ⟨i, j, hij, hj, hs⟩ hz
    have hb := (carries_from _ r _ j).mpr ⟨i, testBit_allPlaces.mpr (Nat.le_trans hij hj), hs⟩
    rw [hz, Nat.zero_testBit] at hb
    contradiction

end TypeExchange.Regex
