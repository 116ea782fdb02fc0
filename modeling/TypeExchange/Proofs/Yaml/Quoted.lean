import Mathlib.Data.Bool.AllAny
import Mathlib.Data.List.Forall2
import Mathlib.Tactic.Common
import TypeExchange.Proofs.Json.Text
import TypeExchange.Proofs.Results
import TypeExchange.Yaml.Scalar

/-! Texts between double quotes, on one line and in printable characters. Every text can be written
so, and what is read is the text, however its characters are spelled. -/
namespace TypeExchange.Yaml

/-- The characters from the space to the tilde. -/
def IsPrintable (c : Char) : Prop := 0x20 ≤ c.toNat ∧ c.toNat ≤ 0x7e

instance (c : Char) : Decidable (IsPrintable c) := inferInstanceAs (Decidable (_ ∧ _))

def IsHexDigit (c : Char) : Prop := c ∈ "0123456789abcdefABCDEF".toList

/-- The signs that name a character behind a backslash. -/
def escapeLetters : List (Char × Char) :=
  [('0', '\x00'), ('a', '\x07'), ('b', '\x08'), ('t', '\t'), ('n', '\n'), ('v', '\x0b'),
    ('f', '\x0c'), ('r', '\r'), ('e', '\x1b'), (' ', ' '), ('"', '"'), ('/', '/'), ('\\', '\\'),
    ('N', '\u0085'), ('_', '\u00a0'), ('L', '\u2028'), ('P', '\u2029')]

/-- The letters behind a backslash that a number follows, with the number of its digits. -/
def escapeMarks : List (Char × Nat) := [('x', 2), ('u', 4), ('U', 8)]

/-- How a character may be written between double quotes. -/
inductive Spells (c : Char) : List Char → Prop
  | plain (hp : IsPrintable c) (hq : c ≠ '"') (hb : c ≠ '\\') : Spells c [c]
  | letter {e : Char} (h : (e, c) ∈ escapeLetters) : Spells c ['\\', e]
  | code {mark : Char} {digits : List Char} (hm : (mark, digits.length) ∈ escapeMarks)
      (hd : ∀ d ∈ digits, IsHexDigit d) (hn : Unicode.natOfHex digits = c.toNat) :
      Spells c ('\\' :: mark :: digits)

/-- A text between double quotes, with the spelling of each of its characters. -/
structure Quoted where
  value : String
  parts : List (List Char)
  spells : List.Forall₂ Spells value.toList parts

def Quoted.text (q : Quoted) : List Char := '"' :: (q.parts.flatten ++ ['"'])

section
variable {c : Char} {part : List Char}

theorem isPrintable_of_isHexDigit : ∀ d, IsHexDigit d → IsPrintable d :=
  List.all_iff_forall_prop.mp (by decide)

theorem isSome_hexDigit? : ∀ d, IsHexDigit d → (Unicode.hexDigit? d).isSome :=
  List.all_iff_forall_prop.mp (by decide)

theorem Spells.isPrintable (h : Spells c part) : ∀ d ∈ part, IsPrintable d := by
  have hslash : IsPrintable '\\' := by decide
  cases h with
  | plain hp => simpa using hp
  | @letter e h =>
    have hletters : ∀ p ∈ escapeLetters, IsPrintable p.1 := by decide
    have he := hletters _ h
    simpa using ⟨hslash, he⟩
  | @code mark digits hm hd =>
    have hmarks : ∀ p ∈ escapeMarks, IsPrintable p.1 := by decide
    have hmark := hmarks _ hm
    simpa [hslash, hmark] using fun d h => isPrintable_of_isHexDigit d (hd d h)

theorem Quoted.isPrintable (q : Quoted) : ∀ d ∈ q.text, IsPrintable d := by
  have hquote : IsPrintable '"' := by decide
  have hparts : ∀ {cs : List Char} {parts : List (List Char)}, List.Forall₂ Spells cs parts →
      ∀ d ∈ parts.flatten, IsPrintable d := by
    intro cs parts h
    induction h with
    | nil => simp
    | cons hc _ ih =>
      simp only [List.flatten_cons, List.mem_append]
      rintro d (hd | hd)
      · exact hc.isPrintable d hd
      · exact ih d hd
  simp only [text, List.mem_cons, List.mem_append, List.not_mem_nil, or_false]
  rintro d (rfl | hd | rfl)
  · exact hquote
  · exact hparts q.spells d hd
  · exact hquote

theorem isHexDigit_lowerHexDigit : ∀ n < 16, IsHexDigit (Json.lowerHexDigit n) := by
  unfold IsHexDigit
  decide

/-- The last hexadecimal digits of a number, as many as are asked for. -/
def hexDigits : Nat → Nat → List Char
  | 0, _ => []
  | k + 1, n => hexDigits k (n / 16) ++ [Json.lowerHexDigit (n % 16)]

theorem length_hexDigits (k n : Nat) : (hexDigits k n).length = k := by
  induction k generalizing n with
  | zero => rfl
  | succ k ih => rw [hexDigits, List.length_append, ih, List.length_singleton]

theorem isHexDigit_hexDigits (k n : Nat) : ∀ d ∈ hexDigits k n, IsHexDigit d := by
  induction k generalizing n with
  | zero => simp [hexDigits]
  | succ k ih =>
    rw [hexDigits, List.forall_mem_append, List.forall_mem_singleton]
    exact ⟨ih (n / 16), isHexDigit_lowerHexDigit _ (Nat.mod_lt _ (by decide))⟩

theorem natOfHex_hexDigits (k n : Nat) :
    Unicode.natOfHex (hexDigits k n) = n % Nat.pow 16 k := by
  induction k generalizing n with
  | zero => exact (Nat.mod_one n).symm
  | succ k ih =>
    have hlast := Json.hexDigit?_lowerHexDigit (n % 16) (Nat.mod_lt _ (by decide))
    have hpow : Nat.pow 16 (k + 1) = 16 * Nat.pow 16 k := Nat.mul_comm _ 16
    rw [hexDigits, Unicode.natOfHex, List.foldl_append, ← Unicode.natOfHex, ih, List.foldl_cons,
      List.foldl_nil, hlast, Option.getD_some, hpow, Nat.mod_mul, Nat.add_comm]

theorem spells_hexDigits (c : Char) : Spells c ('\\' :: 'U' :: hexDigits 8 c.toNat) := by
  refine .code ?_ (isHexDigit_hexDigits 8 _) ?_
  · rw [length_hexDigits]
    decide
  · have hvalid : c.toNat.isValidChar := c.valid
    have hlt : c.toNat < Nat.pow 16 8 := by
      simp only [Nat.isValidChar] at hvalid
      show c.toNat < 4294967296
      omega
    rw [natOfHex_hexDigits, Nat.mod_eq_of_lt hlt]

end

/-- A character as it stands where it may, else by its number. -/
def spelling (c : Char) : List Char :=
  if IsPrintable c ∧ c ≠ '"' ∧ c ≠ '\\' then [c] else '\\' :: 'U' :: hexDigits 8 c.toNat

theorem spells_spelling (c : Char) : Spells c (spelling c) := by
  unfold spelling
  split
  next h => exact .plain h.1 h.2.1 h.2.2
  next => exact spells_hexDigits c

/-- Every text can be written between double quotes. -/
def Quoted.ofString (s : String) : Quoted where
  value := s
  parts := s.toList.map spelling
  spells := by
    rw [List.forall₂_map_right_iff, List.forall₂_same]
    exact fun c _ => spells_spelling c

section
variable {column line index : Nat} {cs rest : List Char} {c : Char}

/-- A cursor passes over what it is told to, and stays on its line. -/
theorem Cursor.skip_append (pre rest : List Char) (column line index : Nat) :
    ∃ index', (⟨pre ++ rest, column, line, index⟩ : Cursor).skip pre.length =
      ⟨rest, column + pre.length, line, index'⟩ := by
  induction pre generalizing column index with
  | nil => exact ⟨index, rfl⟩
  | cons c pre ih =>
    obtain ⟨index', h⟩ := ih (column + 1) (index + c.utf8Size)
    refine ⟨index', ?_⟩
    rw [List.cons_append, List.length_cons, skip, next, h, Nat.add_assoc, Nat.add_comm 1]

theorem atDocumentMark_of_pos (h : 0 < column) :
    (⟨rest, column, line, index⟩ : Cursor).atDocumentMark = false := by
  have hc : (column == 0) = false := beq_eq_false_iff_ne.mpr (Nat.ne_of_gt h)
  simp only [Cursor.atDocumentMark, hc, Bool.false_and]

theorem isBreak_of_isPrintable (h : IsPrintable c) : isBreak c = false := by
  rw [IsPrintable] at h
  by_contra hb
  simp only [isBreak, Bool.not_eq_false, Bool.or_eq_true, beq_iff_eq] at hb
  rcases hb with (rfl | rfl) | rfl <;> revert h <;> decide

/-- Of the printable characters only the space stands between words. -/
theorem isSpacing_of_isPrintable (h : IsPrintable c) (hc : c ≠ ' ') : isSpacing c = false := by
  have ht : c ≠ '\t' := by
    rintro rfl
    revert h
    decide
  simp [isSpacing, isBlank, isBreak_of_isPrintable h, hc, ht]

theorem simpleEscape?_of_mem {e : Char} (h : (e, c) ∈ escapeLetters) :
    escapeWidth? e = none ∧ simpleEscape? e = some c := by
  have hall : ∀ p ∈ escapeLetters, escapeWidth? p.1 = none ∧ simpleEscape? p.1 = some p.2 := by
    decide
  exact hall _ h

theorem escapeWidth?_of_mem {mark : Char} {width : Nat} (h : (mark, width) ∈ escapeMarks) :
    escapeWidth? mark = some width := by
  have hall : ∀ p ∈ escapeMarks, escapeWidth? p.1 = some p.2 := by decide
  exact hall _ h

/-- The signs behind the backslash of a spelling are read as its character. -/
theorem readEscape?_of_spells {b : Char} {body : List Char} (h : Spells c ('\\' :: b :: body))
    (rest : List Char) : readEscape? (b :: body ++ rest) = some (c, body.length + 1) := by
  cases h with
  | letter h =>
    obtain ⟨hwidth, hsimple⟩ := simpleEscape?_of_mem h
    simp [readEscape?, hwidth, hsimple]
  | code hm hd hn =>
    have hdigits : body.all (fun d => (Unicode.hexDigit? d).isSome) = true :=
      List.all_eq_true.mpr fun d h => isSome_hexDigit? d (hd d h)
    have hvalid : (Unicode.natOfHex body).isValidChar := hn ▸ c.valid
    simp only [List.cons_append, readEscape?, escapeWidth?_of_mem hm, List.take_left, true_and]
    rw [if_pos ⟨hdigits, hvalid⟩, hn, Char.ofNat_toNat]

end

/-- Reading gives this text, and `post` is left. -/
def ReadsText (r : Except Fault (List Char × Cursor)) (text post : List Char) : Prop :=
  ∃ cur, r = .ok (text, cur) ∧ cur.rest = post

section
variable {m n column line index : Nat} {text blanks cs body rest post : List Char} {c : Char}

theorem readGap_of_not_isSpacing (h : isSpacing c = false) (margin : Nat) (g : Gap) :
    readGap margin m g ⟨c :: rest, column, line, index⟩ =
      .ok (g, ⟨c :: rest, column, line, index⟩) := by
  rw [isSpacing, Bool.or_eq_false_iff] at h
  cases m with
  | zero => rfl
  | succ m => simp [readGap, h]

theorem readQuoted_quote (h : 0 < column) :
    readQuoted false (n + 1) text ⟨'"' :: post, column, line, index⟩ =
      .ok (text.reverse, (⟨'"' :: post, column, line, index⟩ : Cursor).next) := by
  rw [readQuoted, atDocumentMark_of_pos h]
  rfl

theorem readQuoted_plain (h : 0 < column) (hp : IsPrintable c) (hq : c ≠ '"') (hb : c ≠ '\\')
    (hs : c ≠ ' ') :
    readQuoted false (n + 1) text ⟨c :: rest, column, line, index⟩ =
      readQuoted false n (c :: text) ⟨rest, column + 1, line, index + c.utf8Size⟩ := by
  rw [readQuoted, atDocumentMark_of_pos h]
  simp [isSpacing_of_isPrintable hp hs, hq, hb, Cursor.next]

theorem readQuoted_escape {b : Char} (h : 0 < column) (hs : Spells c ('\\' :: b :: body)) :
    ∃ index', readQuoted false (n + 1) text
        ⟨'\\' :: b :: body ++ rest, column, line, index⟩ =
      readQuoted false n (c :: text) ⟨rest, column + (body.length + 2), line, index'⟩ := by
  obtain ⟨index', hskip⟩ : ∃ index',
      (⟨'\\' :: b :: body ++ rest, column, line, index⟩ : Cursor).skip (body.length + 2) =
        ⟨rest, column + (body.length + 2), line, index'⟩ :=
    Cursor.skip_append ('\\' :: b :: body) rest column line index
  have hread := readEscape?_of_spells hs rest
  have hslash : isSpacing '\\' = false := by decide
  have hb : isBreak b = false := isBreak_of_isPrintable (hs.isPrintable b (by simp))
  refine ⟨index', ?_⟩
  rw [readQuoted, atDocumentMark_of_pos h, ← hskip]
  simp only [List.cons_append] at hread ⊢
  simp [hslash, hb, hread]

/-- From a place in a quoted text the rest of it is read. -/
def ReadsOn (rest cs post : List Char) : Prop :=
  ∀ n text column line index, rest.length < n → 0 < column →
    ReadsText (readQuoted false n text ⟨rest, column, line, index⟩) (text.reverse ++ cs) post

/-- From a place in or behind the spaces after a character the rest of the text is read. -/
def ReadsGap (rest cs post : List Char) : Prop :=
  ∀ m n text blanks column line index, rest.length ≤ m → rest.length < n → 0 < column →
    ReadsText (readGap 0 m ⟨false, blanks, [], []⟩ ⟨rest, column, line, index⟩ >>= fun (g, cur) =>
      readQuoted false n (g.fold.reverse ++ text) cur) (text.reverse ++ (blanks ++ cs)) post

theorem readsOn_quote (post : List Char) : ReadsOn ('"' :: post) [] post := by
  intro n text column line index hn hc
  obtain ⟨n, rfl⟩ := Nat.exists_eq_add_one.mpr (Nat.zero_lt_of_lt hn)
  rw [readQuoted_quote hc, List.append_nil]
  exact ⟨_, rfl, rfl⟩

theorem ReadsOn.gap (h : ReadsOn (c :: rest) cs post) (hs : isSpacing c = false) :
    ReadsGap (c :: rest) cs post := by
  intro m n text blanks column line index _ hn hc
  have hread := h n (blanks.reverse ++ text) column line index hn hc
  rw [readGap_of_not_isSpacing hs, ok_bind]
  simpa [Gap.fold] using hread

theorem ReadsOn.plain (h : ReadsOn rest cs post) (hp : IsPrintable c) (hq : c ≠ '"')
    (hb : c ≠ '\\') (hs : c ≠ ' ') : ReadsOn (c :: rest) (c :: cs) post := by
  intro n text column line index hn hc
  obtain ⟨n, rfl⟩ := Nat.exists_eq_add_one.mpr (Nat.zero_lt_of_lt hn)
  have hread := h n (c :: text) (column + 1) line (index + c.utf8Size) (by simpa using hn)
    (Nat.succ_pos _)
  rw [readQuoted_plain hc hp hq hb hs]
  simpa using hread

theorem ReadsOn.escape {b : Char} (h : ReadsOn rest cs post) (hs : Spells c ('\\' :: b :: body)) :
    ReadsOn ('\\' :: b :: body ++ rest) (c :: cs) post := by
  intro n text column line index hn hc
  obtain ⟨n, rfl⟩ := Nat.exists_eq_add_one.mpr (Nat.zero_lt_of_lt hn)
  obtain ⟨index', he⟩ := readQuoted_escape hc hs
  have hread := h n (c :: text) (column + (body.length + 2)) line index' (by simp at hn; omega)
    (by omega)
  rw [he]
  simpa using hread

theorem readGap_space (m : Nat) (blanks : List Char) :
    readGap 0 (m + 1) ⟨false, blanks, [], []⟩ ⟨' ' :: rest, column, line, index⟩ =
      readGap 0 m ⟨false, blanks ++ [' '], [], []⟩
        ⟨rest, column + 1, line, index + (' ').utf8Size⟩ := rfl

theorem ReadsGap.space (h : ReadsGap rest cs post) : ReadsGap (' ' :: rest) (' ' :: cs) post := by
  intro m n text blanks column line index hm hn hc
  obtain ⟨m, rfl⟩ := Nat.exists_eq_add_one.mpr (Nat.zero_lt_of_lt hm)
  have hread := h m n text (blanks ++ [' ']) (column + 1) line (index + (' ').utf8Size)
    (by simpa using hm) (by simp at hn; omega) (by omega)
  rw [readGap_space]
  simpa using hread

/-- The first space after a character begins a gap. -/
theorem ReadsGap.on (h : ReadsGap rest cs post) : ReadsOn (' ' :: rest) (' ' :: cs) post := by
  intro n text column line index hn hc
  obtain ⟨n, rfl⟩ : ∃ k, n = k + 2 := ⟨n - 2, by simp at hn; omega⟩
  have hread := h n (n + 1) text [' '] (column + 1) line (index + (' ').utf8Size)
    (by simp at hn; omega) (by simp at hn; omega) (by omega)
  rw [readQuoted, atDocumentMark_of_pos hc]
  exact hread

theorem readsOn_parts {parts : List (List Char)} (h : List.Forall₂ Spells cs parts)
    (post : List Char) : ReadsOn (parts.flatten ++ '"' :: post) cs post ∧
      ReadsGap (parts.flatten ++ '"' :: post) cs post := by
  induction h with
  | nil => exact ⟨readsOn_quote post, (readsOn_quote post).gap (by decide)⟩
  | @cons c part cs parts hc _ ih =>
    rw [List.flatten_cons, List.append_assoc]
    have escaped {b : Char} {body : List Char} (hs : Spells c ('\\' :: b :: body)) :
        ReadsOn ('\\' :: b :: body ++ (parts.flatten ++ '"' :: post)) (c :: cs) post ∧
          ReadsGap ('\\' :: b :: body ++ (parts.flatten ++ '"' :: post)) (c :: cs) post :=
      ⟨ih.1.escape hs, (ih.1.escape hs).gap (by decide)⟩
    cases hc with
    | letter he => exact escaped (.letter he)
    | code hm hd hn => exact escaped (.code hm hd hn)
    | plain hp hq hb =>
      by_cases hs : c = ' '
      · subst hs
        exact ⟨ih.2.on, ih.2.space⟩
      · have hon := ih.1.plain hp hq hb hs
        exact ⟨hon, hon.gap (isSpacing_of_isPrintable hp hs)⟩

theorem Quoted.text_append (q : Quoted) (post : List Char) :
    q.text ++ post = '"' :: (q.parts.flatten ++ '"' :: post) := by
  simp [text]

/-- What is read between the quotes of a text is the text. -/
theorem Quoted.reads (q : Quoted) (post : List Char) (column line index : Nat)
    (h : (q.text ++ post).length ≤ n) :
    ReadsText (readQuoted false n [] (⟨q.text ++ post, column, line, index⟩ : Cursor).next)
      q.value.toList post := by
  rw [text_append] at h ⊢
  exact (readsOn_parts q.spells post).1 n [] (column + 1) line _ h (Nat.succ_pos _)

end

end TypeExchange.Yaml
