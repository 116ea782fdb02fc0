import TypeExchange.Proofs.Yaml.Block

/-! The lexer outside of brackets: what spacing, words, quoted texts and indentation add to the
tokens. What follows a place of the text is the same whatever has been read before it. -/
namespace TypeExchange.Yaml

namespace Lexer

/-- The margin inside the innermost of the block collections that are open at these columns. -/
def marginOf : List Nat → Nat
  | [] => 0
  | column :: _ => column + 1

def marginsOf : List Nat → List Nat
  | [] => []
  | _ :: outer => marginOf outer :: marginsOf outer

theorem marginOf_cons (column : Nat) (outer : List Nat) :
    marginOf (column :: outer) = column + 1 := rfl

theorem marginsOf_cons (column : Nat) (outer : List Nat) :
    marginsOf (column :: outer) = marginOf outer :: marginsOf outer := rfl

/-- The tokens that begin a block where none is open at the column. -/
def opening (t : Token) (column : Nat) (columns : List Nat) : List Token :=
  if marginOf columns ≤ column then [t] else []

/-- The blocks that are open once there is one at the column. -/
def within (column : Nat) (columns : List Nat) : List Nat :=
  if marginOf columns ≤ column then column :: columns else columns

section
variable {columns : List Nat} {column : Nat}

theorem opening_of_le {t : Token} (h : marginOf columns ≤ column) :
    opening t column columns = [t] := if_pos h

theorem within_of_le (h : marginOf columns ≤ column) : within column columns = column :: columns :=
  if_pos h

theorem opening_of_eq {t : Token} (h : marginOf columns = column + 1) :
    opening t column columns = [] := if_neg (by omega)

theorem within_of_eq (h : marginOf columns = column + 1) : within column columns = columns :=
  if_neg (by omega)

theorem marginOf_within (h : marginOf columns ≤ column + 1) :
    marginOf (within column columns) = column + 1 := by
  by_cases hle : marginOf columns ≤ column
  · rw [within_of_le hle, marginOf_cons]
  · have heq : marginOf columns = column + 1 := by omega
    rw [within_of_eq heq, heq]

end

/-- A lexer outside of flow collections and keys, with block collections open at `columns`, the
innermost first. -/
def block (columns : List Nat) (keyAllowed : Bool) (before : List Token) (cursor : Cursor) :
    Lexer where
  cursor := cursor
  tokens := before
  count := before.length
  margin := marginOf columns
  margins := marginsOf columns
  keyAllowed := keyAllowed
  keys := [none]

/-- A lexer behind the bracket of a flow collection. -/
def flow (columns : List Nat) (before : List Token) (cursor : Cursor) : Lexer :=
  { block columns true before cursor with keys := [none, none] }

/-- Reads a token, unless the text has ended, and goes on. -/
def advance (n : Nat) (l : Lexer) : Except Fault (List Token) :=
  match l.cursor.rest with
  | [] => do
    let l ← (l.closeTo 0).dropKey
    return (l.add .streamEnd).tokens.reverse
  | c :: rest => do run n (← readToken n l c rest)

theorem advance_cons {n : Nat} {l : Lexer} {c : Char} {rest : List Char}
    (h : l.cursor.rest = c :: rest) :
    advance n l = (readToken n l c rest >>= fun l => run n l) := by
  rw [advance, h]

/-- What is done behind spacing: keys and blocks are given up before it goes on. -/
def afterSpacing (n : Nat) (l : Lexer) : Except Fault (List Token) := do
  let keys ← dropStale l.cursor l.keys
  advance n ({ l with keys }.closeTo (l.cursor.column + 1))

theorem run_succ (n : Nat) (l : Lexer) : run (n + 1) l = afterSpacing n (skipSpacing n l) := by
  rw [run, afterSpacing]
  cases h : dropStale (skipSpacing n l).cursor (skipSpacing n l).keys <;> rfl

theorem afterSpacing_block (n : Nat) (columns : List Nat) (keyAllowed : Bool) (before : List Token)
    (cursor : Cursor) : afterSpacing n (block columns keyAllowed before cursor) =
      advance n ((block columns keyAllowed before cursor).closeTo (cursor.column + 1)) := rfl

end Lexer

open Lexer

/-- Whatever has been read before, these tokens follow. -/
def Lexes (columns : List Nat) (keyAllowed : Bool) (rest : List Char) (column : Nat)
    (ts : List Token) : Prop :=
  ∀ n m before line index, rest.length ≤ n → rest.length ≤ m →
    afterSpacing n (skipSpacing m (block columns keyAllowed before ⟨rest, column, line, index⟩)) =
      .ok (before.reverse ++ ts)

/-- The characters that no spacing begins with. -/
def IsDense (c : Char) : Prop := isSpacing c = false ∧ c ≠ '#' ∧ c ≠ '\ufeff'

instance (c : Char) : Decidable (IsDense c) := inferInstanceAs (Decidable (_ ∧ _))

section
variable {columns : List Nat} {keyAllowed : Bool} {rest : List Char} {column n m line index k : Nat}
  {ts before : List Token} {c : Char}

theorem Lexes.run (h : Lexes columns keyAllowed rest column ts) (hn : rest.length < n) :
    Lexer.run n (block columns keyAllowed before ⟨rest, column, line, index⟩) =
      .ok (before.reverse ++ ts) := by
  obtain ⟨n, rfl⟩ := Nat.exists_eq_add_one.mpr (Nat.zero_lt_of_lt hn)
  have hle : rest.length ≤ n := Nat.le_of_lt_succ hn
  rw [run_succ]
  exact h n n before line index hle hle

theorem Lexes.space (h : Lexes columns keyAllowed rest (column + 1) ts) :
    Lexes columns keyAllowed (' ' :: rest) column ts := by
  intro n m before line index hn hm
  obtain ⟨m, rfl⟩ := Nat.exists_eq_add_one.mpr (Nat.zero_lt_of_lt hm)
  exact h n m before line _ (Nat.le_of_lt hn) (Nat.le_of_succ_le_succ hm)

theorem Lexes.spaces (k : Nat) (h : Lexes columns keyAllowed rest (column + k) ts) :
    Lexes columns keyAllowed (List.replicate k ' ' ++ rest) column ts := by
  induction k generalizing column with
  | zero => exact h
  | succ k ih => exact (ih (by rwa [Nat.add_right_comm, Nat.add_assoc])).space

theorem Lexes.lineFeed (h : Lexes columns true rest 0 ts) :
    Lexes columns keyAllowed ('\n' :: rest) column ts := by
  intro n m before line index hn hm
  obtain ⟨m, rfl⟩ := Nat.exists_eq_add_one.mpr (Nat.zero_lt_of_lt hm)
  have hread := h n m before (line + 1) (index + ('\n').utf8Size) (Nat.le_of_lt hn)
    (Nat.le_of_succ_le_succ hm)
  cases keyAllowed <;> exact hread

/-- On a new line a key may begin. -/
theorem Lexes.newline (h : Lexes columns true rest k ts) :
    Lexes columns keyAllowed (Block.newline k ++ rest) column ts :=
  (Lexes.spaces k (by rwa [Nat.zero_add])).lineFeed

theorem skipSpacing_of_isDense {l : Lexer} (h : IsDense c) (hl : l.cursor.rest = c :: rest) :
    skipSpacing m l = l := by
  obtain ⟨hs, hcomment, hmark⟩ := h
  have hblank : c ≠ ' ' ∧ c ≠ '\t' := by
    simp only [isSpacing, isBlank, Bool.or_eq_false_iff, beq_eq_false_iff_ne] at hs
    exact hs.1
  have hbreak : isBreak c = false := by
    rw [isSpacing, Bool.or_eq_false_iff] at hs
    exact hs.2
  cases m with
  | zero => rfl
  | succ m => simp [skipSpacing, hl, hblank, hbreak, hcomment, hmark]

section
variable {inner limit : Nat} {cursor : Cursor}

theorem closeTo_block (h : limit < inner + 1) :
    (block (inner :: columns) keyAllowed before cursor).closeTo limit =
      (block columns keyAllowed (.blockEnd :: before) cursor).closeTo limit :=
  if_pos h

theorem closeTo_of_margin_le {l : Lexer} (h : l.margin ≤ limit) : l.closeTo limit = l := by
  unfold closeTo
  split
  · rfl
  · cases l.margins with
    | nil => rfl
    | cons outer margins => exact if_neg (Nat.not_lt.mpr h)

theorem closeTo_of_marginOf_le (h : marginOf columns ≤ limit) :
    (block columns keyAllowed before cursor).closeTo limit =
      block columns keyAllowed before cursor := closeTo_of_margin_le h

theorem cursor_closeTo (columns : List Nat) (before : List Token) :
    ((block columns keyAllowed before cursor).closeTo limit).cursor = cursor := by
  induction columns generalizing before with
  | nil => rfl
  | cons inner columns ih =>
    by_cases h : limit < inner + 1
    · rw [closeTo_block h, ih]
    · rw [closeTo_of_marginOf_le (Nat.le_of_not_lt h)]
      rfl

theorem closeTo_zero (columns : List Nat) (before : List Token) :
    (block columns keyAllowed before cursor).closeTo 0 =
      block [] keyAllowed (List.replicate columns.length .blockEnd ++ before) cursor := by
  induction columns generalizing before with
  | nil => rfl
  | cons inner columns ih =>
    rw [closeTo_block (Nat.succ_pos _), ih, List.length_cons, List.replicate_succ',
      List.append_assoc, List.singleton_append]

theorem closeTo_zero_closeTo (columns : List Nat) (before : List Token) :
    ((block columns keyAllowed before cursor).closeTo limit).closeTo 0 =
      (block columns keyAllowed before cursor).closeTo 0 := by
  induction columns generalizing before with
  | nil => rfl
  | cons inner columns ih =>
    by_cases h : limit < inner + 1
    · rw [closeTo_block h, ih, closeTo_block (Nat.succ_pos _)]
    · rw [closeTo_of_marginOf_le (Nat.le_of_not_lt h)]

end

/-- The end of the text ends all blocks. -/
theorem lexes_nil (columns : List Nat) (keyAllowed : Bool) (column : Nat) :
    Lexes columns keyAllowed [] column
      (List.replicate columns.length .blockEnd ++ [.streamEnd]) := by
  intro n m before line index _ _
  have hskip : skipSpacing m (block columns keyAllowed before ⟨[], column, line, index⟩) =
      block columns keyAllowed before ⟨[], column, line, index⟩ := by
    cases m <;> rfl
  rw [hskip, afterSpacing_block, advance, cursor_closeTo]
  simp only [closeTo_zero_closeTo, closeTo_zero]
  simp [block, dropKey, add, pure, Except.pure]

/-- A token that stands left of a block ends it. -/
theorem Lexes.pop {inner : Nat} (h : Lexes columns keyAllowed (c :: rest) column ts)
    (hc : IsDense c) (hi : column < inner) :
    Lexes (inner :: columns) keyAllowed (c :: rest) column (.blockEnd :: ts) := by
  intro n m before line index hn hm
  have hread := h n m (.blockEnd :: before) line index hn hm
  rw [skipSpacing_of_isDense hc rfl, afterSpacing_block] at hread ⊢
  rw [closeTo_block (Nat.succ_lt_succ hi), hread, List.reverse_cons, List.append_assoc,
    List.singleton_append]

/-- If the token here is read and leaves a state of the same kind, what follows there follows it. -/
theorem Lexes.token {columns' : List Nat} {keyAllowed' : Bool} (new : List Token)
    (post : List Char) (hc : IsDense c) (hm : marginOf columns ≤ column + 1)
    (hp : post.length < (c :: rest).length)
    (hread : ∀ n before line index, (c :: rest).length ≤ n → ∃ column' line' index',
      readToken n (block columns keyAllowed before ⟨c :: rest, column, line, index⟩) c rest =
        .ok (block columns' keyAllowed' (new.reverse ++ before) ⟨post, column', line', index'⟩) ∧
      Lexes columns' keyAllowed' post column' ts) :
    Lexes columns keyAllowed (c :: rest) column (new ++ ts) := by
  intro n m before line index hn _
  obtain ⟨column', line', index', hread, h⟩ := hread n before line index hn
  rw [skipSpacing_of_isDense hc rfl, afterSpacing_block, closeTo_of_marginOf_le hm,
    advance_cons rfl, hread, ok_bind, h.run (Nat.lt_of_lt_of_le hp hn), List.reverse_append,
    List.reverse_reverse, List.append_assoc]

section
variable {l : Lexer} (h : l.cursor.atDocumentMark = false)
include h

theorem readToken_quote : readToken n l '"' rest = l.quoted n false := by
  simp [readToken, h]

theorem readToken_bracket : readToken n l '[' rest = l.openFlow .flowSequence := by
  simp [readToken, h]

theorem readToken_closingBracket : readToken n l ']' rest = l.closeFlow .flowSequenceEnd := by
  simp [readToken, h]

theorem readToken_hyphen (hr : endsToken rest = true) : readToken n l '-' rest = l.blockEntry := by
  simp [readToken, h, hr]

theorem readToken_colon (hr : endsToken rest = true) : readToken n l ':' rest = l.value := by
  simp [readToken, h, hr]

theorem readToken_letter (hc : Block.IsKeyLetter c) : readToken n l c rest = l.plain n := by
  have hall : ∀ c, Block.IsKeyLetter c → isIndicator c = false ∧ isSpacing c = false ∧ c ≠ '%' :=
    List.all_iff_forall_prop.mp (by decide)
  obtain ⟨hi, hs, hp⟩ := hall c hc
  have hne := hi
  simp only [isIndicator, List.contains_eq_mem, decide_eq_false_iff_not, List.mem_cons,
    List.not_mem_nil, or_false, not_or] at hne
  simp [readToken, h, hi, hs, hp, hne]

end

theorem quoted_block {cursor : Cursor} {text : List Char} {cursor' : Cursor}
    (h : readQuoted false n [] cursor.next = .ok (text, cursor')) :
    (block columns false before cursor).quoted n false =
      .ok (block columns false (.scalar .double text :: before) cursor') := by
  rw [Lexer.quoted]
  show (readQuoted false n [] cursor.next >>= _) >>= _ = _
  rw [h]
  rfl

theorem Lexes.quoted {post : List Char} (q : Quoted) (hc : 0 < column)
    (hm : marginOf columns ≤ column + 1) (h : ∀ column, Lexes columns false post column ts) :
    Lexes columns false (q.text ++ post) column (.scalar .double q.value.toList :: ts) := by
  have htext := q.text_append post
  rw [htext]
  apply Lexes.token [_] post (by decide) hm (by simp; omega)
  intro n before line index hn
  rw [← htext] at hn
  obtain ⟨⟨post', column', line', index'⟩, hread, rfl⟩ := q.reads post column line index hn
  refine ⟨column', line', index', ?_, h column'⟩
  rw [readToken_quote (atDocumentMark_of_pos hc), ← htext]
  exact quoted_block hread

theorem beginBlock_block {cursor : Cursor} {t : Token} {misplaced : Fault} :
    (block columns true before cursor).beginBlock t misplaced =
      .ok (block (within cursor.column columns) true (opening t cursor.column columns ++ before)
        cursor) := by
  by_cases h : marginOf columns ≤ cursor.column <;>
    simp [beginBlock, openBlock, opensBlock, inFlow, block, add, within, opening, h, marginOf_cons,
      marginsOf_cons]

theorem atDocumentMark_of_endsToken (h : endsToken rest = true) :
    (⟨c :: rest, column, line, index⟩ : Cursor).atDocumentMark = false := by
  cases rest with
  | nil => simp [Cursor.atDocumentMark]
  | cons d rest =>
    have hh : d ≠ '-' ∧ d ≠ '.' := by
      constructor <;> rintro rfl <;> exact absurd h Bool.false_ne_true
    simp [Cursor.atDocumentMark, hh]

/-- A hyphen begins an item, and a sequence before the first one. -/
theorem Lexes.hyphen (hr : endsToken rest = true) (hm : marginOf columns ≤ column + 1)
    (h : Lexes (within column columns) true rest (column + 1) ts) :
    Lexes columns true ('-' :: rest) column
      (opening .blockSequence column columns ++ .blockEntry :: ts) := by
  rw [List.append_cons]
  apply Lexes.token _ rest (by decide) hm (Nat.lt_succ_self _)
  intro n before line index _
  refine ⟨column + 1, line, index + ('-').utf8Size, ?_, h⟩
  rw [readToken_hyphen (atDocumentMark_of_endsToken hr) hr, blockEntry, beginBlock_block]
  simp only [ok_bind, block, dropKey, opening]
  by_cases h : marginOf columns ≤ column <;> simp [h, add, Cursor.next, pure, Except.pure]

section
variable {cursor : Cursor} {t : Token}

theorem openFlow_block : (block columns false before cursor).openFlow t =
    .ok (flow columns (t :: before) cursor.next) := rfl

theorem closeFlow_flow : (flow columns before cursor).closeFlow t =
    .ok (block columns false (t :: before) cursor.next) := rfl

/-- In brackets no blocks are ended. -/
theorem afterSpacing_flow : afterSpacing n (flow columns before cursor) =
    advance n (flow columns before cursor) := rfl

end

theorem Lexes.noItems {post : List Char} (hc : 0 < column) (hm : marginOf columns ≤ column + 1)
    (h : ∀ column, Lexes columns false post column ts) :
    Lexes columns false ('[' :: ']' :: post) column (.flowSequence :: .flowSequenceEnd :: ts) := by
  intro n m before line index hn _
  obtain ⟨n, rfl⟩ := Nat.exists_eq_add_one.mpr (Nat.zero_lt_of_lt hn)
  have hopen : IsDense '[' := by decide
  have hclose : IsDense ']' := by decide
  rw [skipSpacing_of_isDense hopen rfl, afterSpacing_block, closeTo_of_marginOf_le hm,
    advance_cons rfl, readToken_bracket (atDocumentMark_of_pos hc), openFlow_block, ok_bind,
    run_succ, skipSpacing_of_isDense hclose rfl, afterSpacing_flow, advance_cons rfl,
    readToken_closingBracket (atDocumentMark_of_pos (Nat.succ_pos column)), closeFlow_flow, ok_bind]
  refine Eq.trans ((h (column + 2)).run (Nat.lt_of_succ_le (Nat.le_of_succ_le_succ hn))) ?_
  simp

theorem atDocumentMark_of_ne (hh : c ≠ '-') (hd : c ≠ '.') :
    (⟨c :: rest, column, line, index⟩ : Cursor).atDocumentMark = false := by
  simp [Cursor.atDocumentMark, hh, hd]

theorem Block.IsKeyLetter.facts : ∀ c, Block.IsKeyLetter c →
    IsDense c ∧ c ≠ '-' ∧ c ≠ '.' ∧ c ≠ ':' ∧ c.utf8Size = 1 :=
  List.all_iff_forall_prop.mp (by decide)

theorem readPlain_letter {margin : Nat} {text : List Char} (hc : Block.IsKeyLetter c) :
    readPlain false margin (n + 1) text .none ⟨c :: rest, column, line, index⟩ =
      readPlain false margin n (c :: text) .none ⟨rest, column + 1, line, index + 1⟩ := by
  obtain ⟨⟨hs, hcomment, -⟩, hhyphen, hdot, hcolon, hsize⟩ := Block.IsKeyLetter.facts c hc
  have hmark : (⟨c :: rest, column, line, index⟩ : Cursor).atDocumentMark = false :=
    atDocumentMark_of_ne hhyphen hdot
  rw [readPlain, hmark]
  simp [hs, hcolon, hcomment, endsPlain, Gap.fold, Gap.none, Cursor.next, hsize]

/-- A word in front of a colon is read as it stands. -/
theorem readPlain_word (margin : Nat) (word text : List Char)
    (hw : ∀ c ∈ word, Block.IsKeyLetter c) (hr : endsToken rest = true) (hn : word.length < n) :
    readPlain false margin n text .none ⟨word ++ ':' :: rest, column, line, index⟩ =
      .ok (text.reverse ++ word, false,
        ⟨':' :: rest, column + word.length, line, index + word.length⟩) := by
  obtain ⟨n, rfl⟩ := Nat.exists_eq_add_one.mpr (Nat.zero_lt_of_lt hn)
  induction word generalizing n text column index with
  | nil =>
    have hmark : (⟨':' :: rest, column, line, index⟩ : Cursor).atDocumentMark = false :=
      atDocumentMark_of_ne (by decide) (by decide)
    have hs : isSpacing ':' = false := by decide
    simp [readPlain, hmark, hs, endsPlain, hr, Gap.none]
  | cons c word ih =>
    obtain ⟨n, rfl⟩ := Nat.exists_eq_add_one.mpr (Nat.zero_lt_of_lt (Nat.lt_of_succ_lt_succ hn))
    have hword : ∀ d ∈ word, Block.IsKeyLetter d := fun d hd => hw d (.tail c hd)
    rw [List.cons_append, readPlain_letter (hw c (.head word)),
      ih (c :: text) hword n (Nat.lt_of_succ_lt_succ hn)]
    simp [Nat.add_assoc, Nat.add_comm 1]

/-- A lexer behind the word that may be a key, which began at this place. -/
def keyed (columns : List Nat) (before : List Token) (k : KeyPlace) (cursor : Cursor) : Lexer :=
  { block columns false before cursor with keys := [some k] }

theorem plain_word (columns : List Nat) (before : List Token) (column line index : Nat)
    {word : List Char} (hw : ∀ c ∈ word, Block.IsKeyLetter c) (hr : endsToken rest = true)
    (hn : word.length < n) :
    (block columns true before ⟨word ++ ':' :: rest, column, line, index⟩).plain n =
      .ok (keyed columns (.scalar .plain word :: before)
        ⟨marginOf columns == column + 1, before.length, line, index, column⟩
        ⟨':' :: rest, column + word.length, line, index + word.length⟩) := by
  show (readPlain false (marginOf columns) n [] .none ⟨word ++ ':' :: rest, column, line, index⟩ >>=
    _) = _
  rw [readPlain_word (marginOf columns) word [] hw hr hn]
  rfl

/-- A key ends on its line and is short. -/
theorem afterSpacing_keyed {k : KeyPlace} {cursor : Cursor} (hl : k.line = cursor.line)
    (hi : cursor.index ≤ k.index + 1024) (hm : marginOf columns ≤ cursor.column + 1) :
    afterSpacing n (keyed columns before k cursor) = advance n (keyed columns before k cursor) := by
  have hstale : dropStale cursor [some k] = .ok [some k] := by
    rw [dropStale, if_neg (by omega)]
    rfl
  rw [afterSpacing]
  show (dropStale cursor [some k] >>= _) = _
  rw [hstale]
  exact congrArg (advance n) (closeTo_of_margin_le (l := keyed columns before k cursor) hm)

/-- The colon behind a word makes it a key, and begins a mapping before the first one. -/
theorem value_keyed {k : KeyPlace} {cursor : Cursor} {t : Token}
    (hk : k.tokensBefore = before.length) :
    (keyed columns (t :: before) k cursor).value = .ok (block (within k.column columns) false
      (.value :: t :: .key :: (opening .blockMapping k.column columns ++ before)) cursor.next) := by
  by_cases h : marginOf columns ≤ k.column <;>
    simp [keyed, value, Lexer.insert, openBlock, opensBlock, inFlow, block, add, within, opening, h,
      hk, marginOf_cons, marginsOf_cons, pure, Except.pure]

theorem run_colon {k : KeyPlace} {t : Token} (hr : endsToken rest = true)
    (hk : k.tokensBefore = before.length) (hl : k.line = line) (hi : index ≤ k.index + 1024)
    (hm : marginOf columns ≤ column + 1) :
    Lexer.run (n + 1) (keyed columns (t :: before) k ⟨':' :: rest, column, line, index⟩) =
      Lexer.run n (block (within k.column columns) false
        (.value :: t :: .key :: (opening .blockMapping k.column columns ++ before))
        ⟨rest, column + 1, line, index + 1⟩) := by
  have hcolon : IsDense ':' := by decide
  rw [run_succ, skipSpacing_of_isDense hcolon rfl, afterSpacing_keyed hl hi hm, advance_cons rfl,
    readToken_colon (atDocumentMark_of_ne (by decide) (by decide)) hr, value_keyed hk, ok_bind]
  rfl

/-- A key and its colon, and the beginning of a mapping before the first one. -/
theorem Lexes.key (key : Block.Key) (hr : endsToken rest = true)
    (hm : marginOf columns ≤ column + 1)
    (h : ∀ column', column < column' → Lexes (within column columns) false rest column' ts) :
    Lexes columns true (key.name.toList ++ ':' :: rest) column
      (opening .blockMapping column columns ++ (key.tokens ++ ts)) := by
  obtain ⟨name, hne, hw, hshort⟩ := key
  dsimp only [Block.Key.tokens]
  generalize name.toList = letters at *
  obtain ⟨c, word, rfl⟩ := List.exists_cons_of_ne_nil hne
  intro n m before line index hn _
  obtain ⟨hc, hhyphen, hdot, -⟩ := Block.IsKeyLetter.facts c (hw c (.head word))
  have hlen : (c :: word).length + (rest.length + 1) ≤ n := by rwa [List.length_append] at hn
  obtain ⟨n, rfl⟩ := Nat.exists_eq_add_one.mpr (Nat.zero_lt_of_lt hlen)
  have hplain := plain_word columns before column line index hw hr
    (Nat.lt_of_lt_of_le (Nat.lt_add_of_pos_right (Nat.succ_pos _)) hlen)
  rw [List.cons_append] at hplain ⊢
  rw [skipSpacing_of_isDense hc rfl, afterSpacing_block, closeTo_of_marginOf_le hm,
    advance_cons rfl, readToken_letter (atDocumentMark_of_ne hhyphen hdot) (hw c (.head word)),
    hplain, ok_bind, run_colon hr rfl rfl (Nat.add_le_add_left hshort index) (by omega),
    (h _ (by omega)).run (by rw [List.length_cons] at hlen; omega)]
  by_cases ho : marginOf columns ≤ column <;> simp [opening, ho]

/-- What may stand behind a line on which something at this column ends, and its tokens: the end of
the text, or a token on a new line that stands no further in. -/
inductive LineEnd (columns : List Nat) (column : Nat) : List Char → List Token → Prop
  | done {rest : List Char} (h : rest = [] ∨ rest = ['\n']) :
      LineEnd columns column rest (List.replicate columns.length .blockEnd ++ [.streamEnd])
  | next {indent : Nat} {c : Char} {rest : List Char} {ts : List Token} (hi : indent ≤ column)
      (hc : IsDense c) (h : Lexes columns true (c :: rest) indent ts) :
      LineEnd columns column (Block.newline indent ++ c :: rest) ts

theorem LineEnd.lexes (h : LineEnd columns k rest ts) (column : Nat) :
    Lexes columns false rest column ts := by
  cases h with
  | done h =>
    rcases h with rfl | rfl
    · exact lexes_nil columns false column
    · exact (lexes_nil columns true 0).lineFeed
  | next _ _ h => exact h.newline

/-- Further in, a block ends first. -/
theorem LineEnd.pop {inner k' : Nat} (h : LineEnd columns k rest ts) (hi : k < inner)
    (hk : k ≤ k') : LineEnd (inner :: columns) k' rest (.blockEnd :: ts) := by
  cases h with
  | done h => exact .done h
  | next hle hc h => exact .next (hle.trans hk) hc (h.pop hc (Nat.lt_of_le_of_lt hle hi))

end

end TypeExchange.Yaml
