import Mathlib.Algebra.GroupWithZero.Nat
import TypeExchange.Json.Printer
import TypeExchange.Json.Reader

/-! Natural numbers in JSON text. They are written in decimal digits, and read as far as the digits
go. -/
namespace TypeExchange.Json

/-- A number does not go on with what follows. -/
def EndsNumber (rest : List Char) : Prop :=
  ∀ c ∈ rest.head?, c.isDigit = false ∧ c ≠ '.' ∧ c ≠ 'e' ∧ c ≠ 'E'

theorem compact_natural (n : Nat) : (compact (integer n)).toList = Nat.toDigits 10 n := by
  rw [compact]
  exact Nat.toList_repr

theorem natOfDigits_toDigits (n : Nat) : natOfDigits (Nat.toDigits 10 n) = n := by
  rw [natOfDigits, digitValues, List.foldl_map]
  exact Nat.ofDigitChars_ten_toDigits

/-- Digits are read up to what is no digit. -/
theorem readDigits_append {digits rest : List Char} (hd : ∀ c ∈ digits, c.isDigit = true)
    (hne : digits ≠ []) (hr : EndsNumber rest) :
    readDigits (digits ++ rest) = some (digits, rest) := by
  have hrest : rest.takeWhile Char.isDigit = [] ∧ rest.dropWhile Char.isDigit = rest := by
    cases rest with
    | nil => simp
    | cons c cs => simp [(hr c rfl).1]
  rw [readDigits, List.takeWhile_append_of_pos hd, List.dropWhile_append_of_pos hd, hrest.1,
    hrest.2, List.append_nil]
  cases digits with
  | nil => exact absurd rfl hne
  | cons c cs => rfl

theorem readFraction_of_ends {rest : List Char} (hr : EndsNumber rest) :
    readFraction rest = some ([], rest) := by
  cases rest with
  | nil => rfl
  | cons c cs =>
    rw [readFraction]
    intro _ h
    exact (hr c rfl).2.1 (List.cons.inj h).1

theorem readExponent_of_ends {rest : List Char} (hr : EndsNumber rest) :
    readExponent rest = some (none, rest) := by
  cases rest with
  | nil => rfl
  | cons c cs =>
    obtain ⟨-, -, he, hE⟩ := hr c rfl
    simp [readExponent, he, hE]

theorem head_toDigits (n : Nat) : ∃ c cs, Nat.toDigits 10 n = c :: cs ∧ c.isDigit = true := by
  obtain ⟨c, cs, h⟩ := List.exists_cons_of_ne_nil (Nat.toDigits_ne_nil (n := n) (b := 10))
  refine ⟨c, cs, h, Nat.isDigit_of_mem_toDigits (b := 10) (n := n) (by decide) (by decide) ?_⟩
  simp [h]

theorem digitChar_ne_zero : ∀ d < 10, 0 < d → Nat.digitChar d ≠ '0' := by decide

/-- A positive number is written without leading zeros. -/
theorem head?_toDigits_ne_zero {n : Nat} (hn : 0 < n) :
    (Nat.toDigits 10 n).head? ≠ some '0' := by
  induction n using Nat.strongRecOn with
  | ind n ih =>
    by_cases hlt : n < 10
    · rw [Nat.toDigits_of_lt_base hlt, List.head?_cons, ne_eq, Option.some_inj]
      exact digitChar_ne_zero n hlt hn
    · have ih := ih (n / 10) (by omega) (by omega)
      obtain ⟨c, cs, h, -⟩ := head_toDigits (n / 10)
      rw [Nat.toDigits_of_base_le (by decide) (by omega), h]
      rw [h] at ih
      exact ih

theorem isDigit_of_toDigits_append {n : Nat} {rest cs : List Char} {c : Char}
    (h : Nat.toDigits 10 n ++ rest = c :: cs) : c.isDigit = true := by
  obtain ⟨d, ds, hd, hdigit⟩ := head_toDigits n
  rw [hd, List.cons_append] at h
  exact (List.cons.inj h).1 ▸ hdigit

theorem number?_natural {n : Nat} (hn : n < 2 ^ 64) :
    number? false (Nat.toDigits 10 n) [] none = some (integer n) := by
  rw [number?, natOfDigits_toDigits]
  exact if_pos ⟨rfl, rfl, hn⟩

/-- A number that fits into 64 bits is read from its digits. -/
theorem readNumber_natural {n : Nat} (hn : n < 2 ^ 64) {rest : List Char}
    (hr : EndsNumber rest) :
    readNumber (Nat.toDigits 10 n ++ rest) = some (integer n, rest) := by
  have hsign : ∀ cs, Nat.toDigits 10 n ++ rest = '-' :: cs → False := by
    intro cs h
    exact absurd (isDigit_of_toDigits_append h) (by decide)
  have hdigits : ∀ c ∈ Nat.toDigits 10 n, c.isDigit = true := fun c hm =>
    Nat.isDigit_of_mem_toDigits (by decide) (by decide) hm
  have hlead : ¬((Nat.toDigits 10 n).head? = some '0' ∧ Nat.toDigits 10 n ≠ ['0']) := by
    rintro ⟨hzero, hne⟩
    rcases Nat.eq_zero_or_pos n with rfl | hpos
    · exact hne rfl
    · exact head?_toDigits_ne_zero hpos hzero
  have hwhole := readDigits_append hdigits Nat.toDigits_ne_nil hr
  rw [readNumber]
  · simp only [hwhole, hlead, readFraction_of_ends hr, readExponent_of_ends hr,
      number?_natural hn, Option.bind_eq_bind, Option.bind_some, if_false]
  · exact hsign

theorem isSpace_of_isDigit {c : Char} (h : c.isDigit = true) : isSpace c = false := by
  rw [← Bool.not_eq_true]
  intro hs
  simp only [isSpace, Bool.or_eq_true, beq_iff_eq] at hs
  obtain ((rfl | rfl) | rfl) | rfl := hs <;> contradiction

theorem readValue_natural (bound steps : Nat) {n : Nat} (hn : n < 2 ^ 64) {rest : List Char}
    (hr : EndsNumber rest) :
    readValue bound (steps + 1) (Nat.toDigits 10 n ++ rest) = some (integer n, rest) := by
  have hdigit := @isDigit_of_toDigits_append n rest
  have hs : skipSpace (Nat.toDigits 10 n ++ rest) = Nat.toDigits 10 n ++ rest := by
    obtain ⟨c, cs, hc, hd⟩ := head_toDigits n
    rw [hc, List.cons_append, skipSpace,
      List.dropWhile_cons_of_neg (by simp [isSpace_of_isDigit hd])]
  rw [readValue, hs]
  split
  case h_7 => exact readNumber_natural hn hr
  all_goals
    next h => exact absurd (hdigit h) (by decide)

end TypeExchange.Json
