import TypeExchange.Proofs.Yaml.Lexing

/-! The tokens of a document in block style. Each part of its text gives its tokens in front of
whatever follows, if that begins on a line of its own. -/
namespace TypeExchange.Yaml

open Lexer

namespace Block

theorem Field.endsToken_text (field : Field) (column : Nat) (rest : List Char) :
    endsToken (field.text column ++ rest) = true := by
  cases field <;> rfl

theorem Mapping.exists_text (m : Mapping) (column : Nat) (rest : List Char) :
    ∃ c tail, m.text column ++ rest = c :: tail ∧ IsDense c := by
  have hkey : ∀ (key : Key) (rest : List Char), ∃ c tail,
      key.name.toList ++ rest = c :: tail ∧ IsDense c := by
    intro key rest
    obtain ⟨c, word, hname⟩ := List.exists_cons_of_ne_nil key.nonempty
    exact ⟨c, word ++ rest, by rw [hname, List.cons_append],
      (IsKeyLetter.facts c (key.letters c (by simp [hname]))).1⟩
  cases m with
  | last key field | more key field rest =>
    rw [Mapping.text, List.append_assoc]
    exact hkey key _

theorem Sequence.exists_text (s : Sequence) (column : Nat) (rest : List Char) :
    ∃ c tail, s.text column ++ rest = c :: tail ∧ IsDense c := by
  cases s <;> exact ⟨'-', _, rfl, by decide⟩

/-- The text of a field gives its tokens behind a colon, where the key stands in the innermost
block. -/
def Field.Lexed (field : Field) : Prop :=
  ∀ columns k column rest ts, marginOf columns = k + 1 → k < column → LineEnd columns k rest ts →
    Lexes columns false (field.text k ++ rest) column (field.tokens ++ ts)

/-- The text of a collection gives its tokens at any column that is not left of the innermost block,
behind the token `t` if the collection begins there. -/
def CollectionLexed (t : Token) (text : Nat → List Char) (tokens : List Token) : Prop :=
  ∀ columns k rest ts, marginOf columns ≤ k + 1 → LineEnd (within k columns) k rest ts →
    Lexes columns true (text k ++ rest) k (opening t k columns ++ (tokens ++ ts))

def Mapping.Lexed (m : Mapping) : Prop :=
  CollectionLexed .blockMapping (fun column => m.text column) m.tokens

def Sequence.Lexed (s : Sequence) : Prop :=
  CollectionLexed .blockSequence (fun column => s.text column) s.tokens

section
variable {t : Token} {text : Nat → List Char} {tokens ts : List Token} {columns : List Nat}
  {k outer : Nat} {rest : List Char}

/-- A collection further in than what holds it has a beginning and an end. -/
theorem CollectionLexed.inner (hl : CollectionLexed t text tokens) (hm : marginOf columns ≤ k)
    (h : LineEnd columns outer rest ts) (ho : outer < k) :
    Lexes columns true (text k ++ rest) k (t :: (tokens ++ .blockEnd :: ts)) := by
  have hend : LineEnd (within k columns) k rest (.blockEnd :: ts) := by
    rw [within_of_le hm]
    exact h.pop ho (Nat.le_of_lt ho)
  have hread := hl columns k rest (.blockEnd :: ts) (Nat.le_succ_of_le hm) hend
  rwa [opening_of_le hm] at hread

/-- A collection that is open at the column goes on there. -/
theorem CollectionLexed.continued (hl : CollectionLexed t text tokens)
    (hm : marginOf columns = k + 1) (h : LineEnd columns k rest ts) :
    Lexes columns true (text k ++ rest) k (tokens ++ ts) := by
  have hread := hl columns k rest ts (Nat.le_of_eq hm) (by rwa [within_of_eq hm])
  rwa [opening_of_eq hm] at hread

theorem CollectionLexed.lineEnd (hl : CollectionLexed t text tokens)
    (htext : ∃ c tail, text k ++ rest = c :: tail ∧ IsDense c) (hm : marginOf columns = k + 1)
    (h : LineEnd columns k rest ts) :
    LineEnd columns k (newline k ++ (text k ++ rest)) (tokens ++ ts) := by
  have hread := hl.continued hm h
  obtain ⟨c, tail, htext, hdense⟩ := htext
  rw [htext] at hread ⊢
  exact .next (Nat.le_refl k) hdense hread

end

theorem Field.lexed_quoted (q : Quoted) : (Field.quoted q).Lexed := by
  intro columns k column rest ts hm hc h
  exact (Lexes.quoted q (Nat.succ_pos column) (by omega) h.lexes).space

theorem Field.lexed_noItems : Field.noItems.Lexed := by
  intro columns k column rest ts hm hc h
  exact (Lexes.noItems (Nat.succ_pos column) (by omega) h.lexes).space

section
variable {m : Mapping} {s : Sequence} {field : Field}

theorem Mapping.Lexed.asField (hl : m.Lexed) (more : Nat) : (Field.mapping more m).Lexed := by
  intro columns k column rest ts hm hc h
  have hread := hl.inner (k := k + more + 1) (by omega) h (by omega)
  simpa [Field.text, Field.tokens] using hread.newline

theorem Sequence.Lexed.asField (hl : s.Lexed) (indent : Nat) : (Field.sequence indent s).Lexed := by
  intro columns k column rest ts hm hc h
  rw [Field.text, Field.tokens, List.append_assoc]
  apply Lexes.newline
  by_cases hi : indent = 0
  · subst hi
    exact hl.continued hm h
  · have hread := hl.inner (k := k + indent) (by omega) h (by omega)
    simpa [hi] using hread

theorem Field.Lexed.last (hl : field.Lexed) (key : Key) : (Mapping.last key field).Lexed := by
  intro columns k rest ts hm h
  simp only [Mapping.text, Mapping.tokens, List.append_assoc, List.cons_append]
  apply Lexes.key key (field.endsToken_text k rest) hm
  intro column hc
  exact hl _ k column rest ts (marginOf_within hm) hc h

theorem Field.Lexed.more (hl : field.Lexed) (hr : m.Lexed) (key : Key) :
    (Mapping.more key field m).Lexed := by
  intro columns k rest ts hm h
  have hmargin := marginOf_within hm
  have hrest := hr.lineEnd (m.exists_text k rest) hmargin h
  simp only [Mapping.text, Mapping.tokens, List.append_assoc, List.cons_append]
  apply Lexes.key key (field.endsToken_text k _) hm
  intro column hc
  exact hl _ k column _ _ hmargin hc hrest

theorem Mapping.Lexed.last (hl : m.Lexed) : (Sequence.last m).Lexed := by
  intro columns k rest ts hm h
  have hmargin := marginOf_within hm
  have hread := hl.inner (k := k + 2) (by omega) h (by omega)
  simpa [Sequence.text, Sequence.tokens] using Lexes.hyphen rfl hm hread.space

theorem Mapping.Lexed.more (hl : m.Lexed) (hr : s.Lexed) : (Sequence.more m s).Lexed := by
  intro columns k rest ts hm h
  have hmargin := marginOf_within hm
  have hrest := hr.lineEnd (s.exists_text k rest) hmargin h
  have hread := hl.inner (k := k + 2) (by omega) hrest (by omega)
  simpa [Sequence.text, Sequence.tokens] using Lexes.hyphen rfl hm hread.space

end

mutual

theorem Field.lexed : ∀ field : Field, field.Lexed
  | .quoted q => Field.lexed_quoted q
  | .noItems => Field.lexed_noItems
  | .mapping more m => m.lexed.asField more
  | .sequence indent s => s.lexed.asField indent

theorem Mapping.lexed : ∀ m : Mapping, m.Lexed
  | .last key field => field.lexed.last key
  | .more key field rest => field.lexed.more rest.lexed key

theorem Sequence.lexed : ∀ s : Sequence, s.Lexed
  | .last item => item.lexed.last
  | .more item rest => item.lexed.more rest.lexed

end

/-- A text of lines in printable characters. -/
def IsLines (cs : List Char) : Prop := ∀ c ∈ cs, c = '\n' ∨ IsPrintable c

theorem isLines_nil : IsLines [] := List.forall_mem_nil _

theorem isLines_append {cs ds : List Char} (hc : IsLines cs) (hd : IsLines ds) :
    IsLines (cs ++ ds) := List.forall_mem_append.mpr ⟨hc, hd⟩

theorem isLines_cons {c : Char} {cs : List Char} (hc : IsPrintable c) (hcs : IsLines cs) :
    IsLines (c :: cs) := List.forall_mem_cons.mpr ⟨.inr hc, hcs⟩

theorem isLines_newline (column : Nat) : IsLines (newline column) := by
  refine List.forall_mem_cons.mpr ⟨.inl rfl, ?_⟩
  intro c hc
  rw [List.eq_of_mem_replicate hc]
  exact .inr (by decide)

theorem Key.isLines (key : Key) : IsLines key.name.toList := by
  have hall : ∀ c, IsKeyLetter c → IsPrintable c := List.all_iff_forall_prop.mp (by decide)
  exact fun c hc => .inr (hall c (key.letters c hc))

mutual

theorem Field.isLines_text : ∀ (field : Field) (column : Nat), IsLines (field.text column)
  | .quoted q, _ => isLines_cons (by decide) fun c hc => .inr (q.isPrintable c hc)
  | .noItems, _ => isLines_cons (by decide) (isLines_cons (by decide)
    (isLines_cons (by decide) isLines_nil))
  | .mapping _ m, _ => isLines_append (isLines_newline _) (m.isLines_text _)
  | .sequence _ s, _ => isLines_append (isLines_newline _) (s.isLines_text _)

theorem Mapping.isLines_text : ∀ (m : Mapping) (column : Nat), IsLines (m.text column)
  | .last key field, column =>
    isLines_append key.isLines (isLines_cons (by decide) (field.isLines_text column))
  | .more key field rest, column =>
    isLines_append key.isLines (isLines_cons (by decide) (isLines_append (field.isLines_text column)
      (isLines_append (isLines_newline column) (rest.isLines_text column))))

theorem Sequence.isLines_text : ∀ (s : Sequence) (column : Nat), IsLines (s.text column)
  | .last item, column =>
    isLines_cons (by decide) (isLines_cons (by decide) (item.isLines_text (column + 2)))
  | .more item rest, column =>
    isLines_cons (by decide) (isLines_cons (by decide) (isLines_append
      (item.isLines_text (column + 2))
      (isLines_append (isLines_newline column) (rest.isLines_text column))))

end

theorem isAllowed_of_isPrintable {c : Char} (h : IsPrintable c) : isAllowed c = true := by
  obtain ⟨hlow, hhigh⟩ := h
  simp [Yaml.isAllowed, hlow, hhigh]

theorem IsLines.all_isAllowed {cs : List Char} (h : IsLines cs) : cs.all isAllowed = true := by
  rw [List.all_eq_true]
  intro c hc
  rcases h c hc with rfl | hp
  · decide
  · exact isAllowed_of_isPrintable hp

/-- In such a text all lines end in one way. -/
theorem IsLines.ne_break {cs : List Char} (h : IsLines cs) :
    ∀ c ∈ cs, c ≠ '\r' ∧ c ≠ '\u0085' ∧ c ≠ '\ufeff' := by
  intro c hc
  refine ⟨?_, ?_, ?_⟩ <;> rintro rfl <;> exact absurd (h _ hc) (by decide)

theorem IsLines.normalizeBreaks {cs : List Char} (h : IsLines cs) : normalizeBreaks cs = cs := by
  induction cs with
  | nil => rfl
  | cons c cs ih =>
    obtain ⟨hr, hn, -⟩ := h.ne_break c (.head cs)
    rw [Yaml.normalizeBreaks, if_neg (by simp [hr, hn]), ih fun d hd => h d (.tail c hd)]
    rintro _ rfl
    exact absurd rfl hr

theorem IsLines.head? {cs : List Char} (h : IsLines cs) : cs.head? ≠ some '\ufeff' :=
  fun hc => (h.ne_break _ (List.mem_of_mem_head? hc)).2.2 rfl

namespace Document

variable (d : Document)

theorem ending_eq : d.ending = [] ∨ d.ending = ['\n'] := by
  rw [ending]
  cases d.endsLine <;> simp

/-- The tokens of a document. -/
theorem tokens_text :
    tokens d.text = .ok (.blockMapping :: (d.root.tokens ++ [.blockEnd, .streamEnd])) := by
  have hlines : IsLines (d.root.text 0 ++ d.ending) := by
    refine isLines_append (d.root.isLines_text 0) ?_
    rcases d.ending_eq with h | h <;> rw [h]
    · exact isLines_nil
    · exact isLines_newline 0
  have hread := d.root.lexed [] 0 d.ending [.blockEnd, .streamEnd] (Nat.zero_le _)
    (.done d.ending_eq)
  rw [tokens, text, String.toList_ofList, if_neg hlines.head?, if_pos hlines.all_isAllowed,
    hlines.normalizeBreaks]
  exact hread.run (Nat.lt_add_of_pos_right (by decide))

end Document
end Block
end TypeExchange.Yaml
