import TypeExchange.Proofs.Regex.Spans
import TypeExchange.Proofs.Regex.WellFormed
import TypeExchange.Proofs.Unicode.Folding
import TypeExchange.Regex.Compile

/-! What a written expression matches between two positions of a text, under the flags in force.
Working the flags in does not change it. -/
namespace TypeExchange.Regex

/-- Whether two characters count as one. Where case is ignored those do that fold alike; without
Unicode only the letters of ASCII have a case. -/
def Options.Alike (o : Options) (c d : Char) : Prop :=
  c = d ∨ (o.ignoreCase = true ∧ Unicode.fold c = Unicode.fold d ∧
    (o.unicode = true ∨ (c.toNat < 0x80 ∧ d.toNat < 0x80)))

/-- The characters that count as one with a member. -/
def Options.Close (o : Options) (members : Char → Prop) (c : Char) : Prop :=
  ∃ d, members d ∧ o.Alike c d

def NegatedIf (negated : Bool) (p : Prop) : Prop := if negated then ¬p else p

def Shorthand.Holds (o : Options) : Shorthand → Char → Prop
  | digit, c =>
    if o.unicode then Unicode.inRuns Unicode.digitRuns c = true else '0' ≤ c ∧ c ≤ '9'
  | space, c => Unicode.isWhiteSpace c = true ∧ (o.unicode = true ∨ c.toNat < 0x80)
  | word, c => inWord o.unicode (some c) = true

def Property.runs? : Property → Option (List Unicode.Run)
  | named name => Unicode.propertyNamed name
  | valued name value => Unicode.propertyValue name value

def Property.Holds (p : Property) (c : Char) : Prop :=
  ∃ runs, p.runs? = some runs ∧ Unicode.inRuns runs c = true

/-- The characters of a class. Negation comes after case. -/
def SetExpr.Holds (o : Options) : SetExpr → Char → Prop
  | empty, _ => False
  | literal l, c => c = l.char
  | range first last, c => first.char ≤ c ∧ c ≤ last.char
  | posix ranges negated, c =>
    NegatedIf negated (o.Close (fun d => ∃ r ∈ ranges, r.1 ≤ d ∧ d ≤ r.2) c)
  | shorthand kind negated, c => NegatedIf negated (kind.Holds o c)
  | property p negated, c => NegatedIf negated (o.Close p.Holds c)
  | bracketed negated content, c => NegatedIf negated (o.Close (content.Holds o) c)
  | union a b, c => a.Holds o c ∨ b.Holds o c
  | operation .intersection a b, c => o.Close (a.Holds o) c ∧ o.Close (b.Holds o) c
  | operation .difference a b, c => o.Close (a.Holds o) c ∧ ¬o.Close (b.Holds o) c
  | operation .symmetricDifference a b, c =>
    (o.Close (a.Holds o) c ∧ ¬o.Close (b.Holds o) c) ∨
      (o.Close (b.Holds o) c ∧ ¬o.Close (a.Holds o) c)

/-- Whether an anchor holds between two characters, which are absent at the ends of the text. In
lines that may end in two characters there is no end between these. -/
def Anchor.Holds (o : Options) (before after : Option Char) : Anchor → Prop
  | textStart => before = none
  | textEnd => after = none
  | lineStart => before = none ∨ (o.multiLine = true ∧ (before = some '\n' ∨
      (o.crlf = true ∧ before = some '\r' ∧ after ≠ some '\n')))
  | lineEnd => after = none ∨ (o.multiLine = true ∧
      ((o.crlf = true ∧ after = some '\r') ∨
        (after = some '\n' ∧ (o.crlf = true → before ≠ some '\r'))))
  | wordBoundary => inWord o.unicode before ≠ inWord o.unicode after
  | notWordBoundary => inWord o.unicode before = inWord o.unicode after
  | wordStart => inWord o.unicode before = false ∧ inWord o.unicode after = true
  | wordEnd => inWord o.unicode before = true ∧ inWord o.unicode after = false
  | wordStartHalf => inWord o.unicode before = false
  | wordEndHalf => inWord o.unicode after = false

/-- One character of the text stands between two positions. -/
def OneOf (text : List Char) (members : Char → Prop) (i j : Nat) : Prop :=
  j = i + 1 ∧ ∃ c, text[i]? = some c ∧ members c

namespace Expr

/-- The flags in force after an expression. Those that are set in a group end with it. -/
def optionsAfter (o : Options) : Expr → Options
  | setFlags changes => o.apply changes
  | times e _ _ _ => e.optionsAfter o
  | seq a b | alt a b => b.optionsAfter (a.optionsAfter o)
  | _ => o

/-- The text between two positions is matched. Anchors are asked of the whole text; whether a
repetition prefers more or fewer rounds and whether a group keeps its match has no bearing. -/
def Matches (text : List Char) (o : Options) : Expr → Nat → Nat → Prop
  | empty, i, j | setFlags _, i, j => i = j
  | literal l, i, j => OneOf text (o.Close (· = l.char)) i j
  | dot, i, j =>
    OneOf text (fun c => o.dotAll = true ∨ (c ≠ '\n' ∧ (o.crlf = true → c ≠ '\r'))) i j
  | anchor a, i, j => i = j ∧ i ≤ text.length ∧ a.Holds o (charBefore text i) text[i]?
  | shorthand kind negated, i, j => OneOf text (fun c => NegatedIf negated (kind.Holds o c)) i j
  | property p negated, i, j => OneOf text (fun c => NegatedIf negated (o.Close p.Holds c)) i j
  | bracketed negated content, i, j =>
    OneOf text (fun c => NegatedIf negated (o.Close (content.Holds o) c)) i j
  | group _ changes e, i, j => e.Matches text (o.apply changes) i j
  | times e least most _, i, j =>
    ∃ n, least ≤ n ∧ (∀ m, most = some m → n ≤ m) ∧ Rounds (e.Matches text o) n i j
  | seq a b, i, j => ∃ k, a.Matches text o i k ∧ b.Matches text (a.optionsAfter o) k j
  | alt a b, i, j => a.Matches text o i j ∨ b.Matches text (a.optionsAfter o) i j

end Expr

/-- A set has these members. Without Unicode they are of ASCII. -/
structure Denotes (o : Options) (s : CharSet) (members : Char → Prop) : Prop where
  contains_iff : ∀ c, s.contains c = true ↔ members c
  ascii : o.unicode = false → ∀ c, members c → c.toNat < 0x80

section
variable {s t : CharSet} {c : Char}

theorem contains_union :
    (CharSet.union s t).contains c = true ↔ s.contains c = true ∨ t.contains c = true :=
  Bool.or_eq_true _ _ ▸ Iff.rfl

theorem contains_inter :
    (CharSet.inter s t).contains c = true ↔ s.contains c = true ∧ t.contains c = true :=
  Bool.and_eq_true _ _ ▸ Iff.rfl

theorem contains_compl : (CharSet.compl s).contains c = true ↔ ¬s.contains c = true := by
  rw [CharSet.contains, Bool.not_eq_true', Bool.not_eq_true]

end

theorem contains_single {c d : Char} : (CharSet.single d).contains c = true ↔ c = d := by
  simp only [CharSet.single, CharSet.contains, Bool.and_eq_true, decide_eq_true_eq]
  exact ⟨fun h => Char.le_antisymm h.2 h.1, fun h => h ▸ ⟨Char.le_refl _, Char.le_refl _⟩⟩

theorem contains_ofRanges {ranges : List (Char × Char)} {c : Char} :
    (CharSet.ofRanges ranges).contains c = true ↔ ∃ r ∈ ranges, r.1 ≤ c ∧ c ≤ r.2 := by
  induction ranges with
  | nil => simp [CharSet.ofRanges, CharSet.contains]
  | cons r rest ih =>
    have hr : CharSet.ofRanges (r :: rest) =
        .union (.range r.1 r.2) (CharSet.ofRanges rest) := rfl
    simp [hr, CharSet.contains, ih]

theorem contains_folded {s : CharSet} {c : Char} :
    (CharSet.folded s).contains c = true ↔
      ∃ d, s.contains d = true ∧ Unicode.fold c = Unicode.fold d := by
  rw [CharSet.contains, List.any_eq_true]
  refine exists_congr fun d => ?_
  rw [Unicode.mem_caseVariants_iff, eq_comm, and_comm]

theorem contains_ascii {c : Char} : CharSet.ascii.contains c = true ↔ c.toNat < 0x80 := by
  simp only [CharSet.ascii, CharSet.contains, Bool.and_eq_true, decide_eq_true_eq]
  have hlo : '\x00' ≤ c := Nat.zero_le _
  have hhi : c ≤ '\x7f' ↔ c.toNat < 0x80 := by
    rw [Nat.lt_succ_iff]
    exact Iff.rfl
  rw [hhi, and_iff_right hlo]

namespace Denotes

variable {o : Options} {s t : CharSet} {P Q : Char → Prop}

theorem ofRange {first last : Char} (h : ∀ c, P c ↔ first ≤ c ∧ c ≤ last)
    (ha : o.unicode = false → last.toNat < 0x80) : Denotes o (.range first last) P := by
  refine ⟨fun c => by simp [CharSet.contains, h], ?_⟩
  intro hu c hc
  exact Nat.lt_of_le_of_lt ((h c).mp hc).2 (ha hu)

theorem ofRanges {ranges : List (Char × Char)}
    (h : ∀ c, P c ↔ ∃ r ∈ ranges, r.1 ≤ c ∧ c ≤ r.2) (ha : ∀ r ∈ ranges, r.2.toNat < 0x80) :
    Denotes o (.ofRanges ranges) P := by
  refine ⟨fun c => by rw [contains_ofRanges, h], ?_⟩
  intro _ c hc
  obtain ⟨r, hr, -, hle⟩ := (h c).mp hc
  exact Nat.lt_of_le_of_lt hle (ha r hr)

theorem foldIf (h : Denotes o s P) : Denotes o (foldIf o s) (o.Close P) := by
  refine ⟨?_, ?_⟩
  · intro c
    unfold Regex.foldIf
    split_ifs with hi hu
    · simp only [Bool.not_eq_true'] at hi
      rw [h.contains_iff]
      simp [Options.Close, Options.Alike, hi]
    · rw [contains_folded]
      constructor
      · rintro ⟨d, hd, hf⟩
        exact ⟨d, (h.contains_iff d).mp hd, .inr ⟨by simpa using hi, hf, .inl hu⟩⟩
      · rintro ⟨d, hd, rfl | ⟨-, hf, -⟩⟩
        · exact ⟨c, (h.contains_iff c).mpr hd, rfl⟩
        · exact ⟨d, (h.contains_iff d).mpr hd, hf⟩
    · rw [contains_union, contains_inter, contains_ascii, contains_folded, h.contains_iff]
      constructor
      · rintro (hc | ⟨hc, d, hd, hf⟩)
        · exact ⟨c, hc, .inl rfl⟩
        · have hd := (h.contains_iff d).mp hd
          have ha := h.ascii (by simpa using hu) d hd
          exact ⟨d, hd, .inr ⟨by simpa using hi, hf, .inr ⟨hc, ha⟩⟩⟩
      · rintro ⟨d, hd, rfl | ⟨-, hf, hor⟩⟩
        · exact .inl hd
        · exact .inr ⟨(hor.resolve_left hu).1, d, (h.contains_iff d).mpr hd, hf⟩
  · rintro hu c ⟨d, hd, rfl | ⟨-, -, hc⟩⟩
    · exact h.ascii hu c hd
    · rw [hu] at hc
      exact (hc.resolve_left (by decide)).1

theorem negateIf {negated : Bool} (h : Denotes o s P)
    (ht : requireAscii o (.negateIf negated s) = .ok t) :
    Denotes o t (fun c => NegatedIf negated (P c)) := by
  unfold requireAscii at ht
  split at ht
  next => contradiction
  next hr =>
    obtain rfl := Except.ok.inj ht
    refine ⟨?_, ?_⟩
    · intro c
      cases negated <;> simp [CharSet.negateIf, NegatedIf, contains_compl, ← h.contains_iff]
    · intro hu c hc
      cases negated with
      | false => exact h.ascii hu c hc
      | true =>
        -- The complement of a set of ASCII holds all else.
        have hn : s.contains '\u0080' = true := by
          simpa [hu, CharSet.negateIf, contains_compl] using hr
        have := h.ascii hu _ ((h.contains_iff _).mp hn)
        contradiction

theorem closeSet {negated : Bool} (h : Denotes o s P) (ht : closeSet o negated s = .ok t) :
    Denotes o t (fun c => NegatedIf negated (o.Close P c)) := h.foldIf.negateIf ht

theorem union (hs : Denotes o s P) (ht : Denotes o t Q) :
    Denotes o (.union s t) (fun c => P c ∨ Q c) := by
  refine ⟨?_, ?_⟩
  · intro c
    rw [contains_union, hs.contains_iff, ht.contains_iff]
  · rintro hu c (hc | hc)
    · exact hs.ascii hu c hc
    · exact ht.ascii hu c hc

theorem inter (hs : Denotes o s P) (ht : Denotes o t Q) :
    Denotes o (.inter s t) (fun c => P c ∧ Q c) := by
  refine ⟨?_, fun hu c hc => hs.ascii hu c hc.1⟩
  intro c
  rw [contains_inter, hs.contains_iff, ht.contains_iff]

theorem diff (hs : Denotes o s P) (ht : Denotes o t Q) :
    Denotes o (.diff s t) (fun c => P c ∧ ¬Q c) := by
  refine ⟨?_, fun hu c hc => hs.ascii hu c hc.1⟩
  intro c
  rw [CharSet.diff, contains_inter, contains_compl, hs.contains_iff, ht.contains_iff]

end Denotes

theorem char_le_iff {c d : Char} : c ≤ d ↔ c.toNat ≤ d.toNat := Iff.rfl

theorem isWhiteSpace_iff {c : Char} : Unicode.isWhiteSpace c = true ↔
    ∃ r ∈ [('\t', '\r'), (' ', ' '), ('\u0085', '\u0085'), ('\u00a0', '\u00a0'),
      ('\u1680', '\u1680'), ('\u2000', '\u200a'), ('\u2028', '\u2029'), ('\u202f', '\u202f'),
      ('\u205f', '\u205f'), ('\u3000', '\u3000')], r.1 ≤ c ∧ c ≤ r.2 := by
  simp only [Unicode.isWhiteSpace, Bool.or_eq_true, Bool.and_eq_true, decide_eq_true_eq,
    beq_iff_eq, List.mem_cons, List.not_mem_nil, or_false, exists_eq_or_imp, exists_eq_left,
    char_le_iff, Char.reduceToNat]
  omega

theorem isAsciiSpace_iff {c : Char} : Unicode.isWhiteSpace c = true ∧ c.toNat < 0x80 ↔
    ∃ r ∈ [('\t', '\r'), (' ', ' ')], r.1 ≤ c ∧ c ≤ r.2 := by
  simp only [isWhiteSpace_iff, List.mem_cons, List.not_mem_nil, or_false, exists_eq_or_imp,
    exists_eq_left, char_le_iff, Char.reduceToNat]
  omega

theorem isAsciiWord_iff {c : Char} : isAsciiWord c = true ↔
    ∃ r ∈ [('0', '9'), ('A', 'Z'), ('_', '_'), ('a', 'z')], r.1 ≤ c ∧ c ≤ r.2 := by
  have hword : isAsciiWord c = (c.isUpper || c.isLower || c.isDigit || c == '_') := rfl
  have hupper : c.isUpper = true ↔ 'A' ≤ c ∧ c ≤ 'Z' := decide_eq_true_iff
  have hbetween : ∀ first last : Char,
      (decide (first ≤ c) && decide (c ≤ last)) = true ↔ first ≤ c ∧ c ≤ last := by
    intro first last
    rw [Bool.and_eq_true, decide_eq_true_iff, decide_eq_true_iff]
  have hlower : c.isLower = true ↔ 'a' ≤ c ∧ c ≤ 'z' := hbetween 'a' 'z'
  have hdigit : c.isDigit = true ↔ '0' ≤ c ∧ c ≤ '9' := hbetween '0' '9'
  simp only [hword, Bool.or_eq_true, hupper, hlower, hdigit, beq_iff_eq, ← Char.toNat_inj,
    List.mem_cons, List.not_mem_nil, or_false, exists_eq_or_imp, exists_eq_left, char_le_iff,
    Char.reduceToNat]
  omega

theorem denotes_shorthandSet {o : Options} {kind : Shorthand} {negated : Bool} {s : CharSet}
    (h : shorthandSet o kind negated = .ok s) :
    Denotes o s (fun c => NegatedIf negated (kind.Holds o c)) := by
  apply Denotes.negateIf _ h
  cases hu : o.unicode with
  | true =>
    refine ⟨?_, fun h' => by simp [h'] at hu⟩
    intro c
    cases kind with
    | digit => simp [CharSet.contains, Shorthand.Holds, hu]
    | space => simp [contains_ofRanges, Shorthand.Holds, hu, isWhiteSpace_iff]
    | word => simp [CharSet.contains, Shorthand.Holds, hu, inWord, Unicode.isWordChar]
  | false =>
    cases kind with
    | digit => exact .ofRange (by simp [Shorthand.Holds, hu]) (fun _ => by decide)
    | space =>
      refine .ofRanges (fun c => ?_) (by decide)
      rw [← isAsciiSpace_iff]
      simp [Shorthand.Holds, hu]
    | word =>
      refine .ofRanges (fun c => ?_) (by decide)
      rw [← isAsciiWord_iff]
      simp [Shorthand.Holds, hu, inWord]

theorem runs_of_propertySet {o : Options} {p : Property} {negated : Bool} {s : CharSet}
    (h : propertySet o p negated = .ok s) :
    ∃ runs, p.runs? = some runs ∧ o.unicode = true ∧ closeSet o negated (.runs runs) = .ok s := by
  cases p
  all_goals
    simp only [propertySet, Property.runs?] at h ⊢
    split at h
    next => contradiction
    next runs hr =>
      split_ifs at h with hu
      exact ⟨runs, hr, hu, h⟩

theorem denotes_propertySet {o : Options} {p : Property} {negated : Bool} {s : CharSet}
    (h : propertySet o p negated = .ok s) :
    Denotes o s (fun c => NegatedIf negated (o.Close p.Holds c)) := by
  obtain ⟨runs, hr, hu, h⟩ := runs_of_propertySet h
  apply Denotes.closeSet _ h
  refine ⟨?_, fun h' => by simp [h'] at hu⟩
  intro c
  constructor
  · intro hc
    exact ⟨runs, hr, hc⟩
  · rintro ⟨runs', hr', hc⟩
    obtain rfl := Option.some.inj (hr.symm.trans hr')
    exact hc

theorem char_of_setLiteral {o : Options} {l : Literal} {c : Char} (h : setLiteral o l = .ok c) :
    c = l.char ∧ (o.unicode = false → c.toNat < 0x80) := by
  unfold setLiteral at h
  split at h
  next => contradiction
  next hn =>
    obtain rfl := Except.ok.inj h
    refine ⟨rfl, fun hu => ?_⟩
    simpa [hu] using hn

theorem SetExpr.denotes_compile {o : Options} {e : SetExpr} {s : CharSet}
    (h : e.compile o = .ok s) (he : e.WellFormed) : Denotes o s (e.Holds o) := by
  induction e generalizing s with
  | empty =>
    obtain rfl := Except.ok.inj h
    exact ⟨fun c => by simp [CharSet.contains, SetExpr.Holds], fun _ _ hc => hc.elim⟩
  | literal l =>
    obtain ⟨c, hc, h⟩ := bind_eq_ok_iff.mp h
    obtain rfl := Except.ok.inj h
    obtain ⟨rfl, ha⟩ := char_of_setLiteral hc
    exact ⟨fun _ => contains_single, fun hu _ hc => hc ▸ ha hu⟩
  | range first last =>
    obtain ⟨a, ha, h⟩ := bind_eq_ok_iff.mp h
    obtain ⟨b, hb, h⟩ := bind_eq_ok_iff.mp h
    obtain rfl := Except.ok.inj h
    obtain ⟨rfl, -⟩ := char_of_setLiteral ha
    obtain ⟨rfl, hlast⟩ := char_of_setLiteral hb
    exact .ofRange (fun _ => Iff.rfl) hlast
  | posix ranges negated =>
    exact (Denotes.ofRanges (fun _ => Iff.rfl) he).closeSet h
  | shorthand kind negated => exact denotes_shorthandSet h
  | property p negated => exact denotes_propertySet h
  | bracketed negated content ih =>
    obtain ⟨t, ht, h⟩ := bind_eq_ok_iff.mp h
    exact (ih ht he).closeSet h
  | union a b iha ihb =>
    obtain ⟨t, ht, h⟩ := bind_eq_ok_iff.mp h
    obtain ⟨u, hu, h⟩ := bind_eq_ok_iff.mp h
    obtain rfl := Except.ok.inj h
    exact (iha ht he.1).union (ihb hu he.2)
  | operation op a b iha ihb =>
    obtain ⟨t, ht, h⟩ := bind_eq_ok_iff.mp h
    obtain ⟨u, hu, h⟩ := bind_eq_ok_iff.mp h
    obtain rfl := Except.ok.inj h
    have ha := (iha ht he.1).foldIf
    have hb := (ihb hu he.2).foldIf
    cases op with
    | intersection => exact ha.inter hb
    | difference => exact ha.diff hb
    | symmetricDifference => exact (ha.diff hb).union (hb.diff ha)

theorem Anchor.holds_compile {o : Options} {a : Anchor} {before after : Option Char} :
    (a.compile o).holds before after = true ↔ a.Holds o before after := by
  cases a with
  | lineStart =>
    cases hm : o.multiLine <;> cases hc : o.crlf <;>
      simp [Anchor.compile, Assertion.holds, Anchor.Holds, hm, hc, or_assoc]
  | lineEnd =>
    cases hm : o.multiLine <;> cases hc : o.crlf <;>
      simp [Anchor.compile, Assertion.holds, Anchor.Holds, hm, hc, or_assoc]
  | _ => simp [Anchor.compile, Assertion.holds, Anchor.Holds]

theorem contains_literalSet {o : Options} {l : Literal} {s : CharSet}
    (h : literalSet o l = .ok s) {c : Char} :
    s.contains c = true ↔ o.Close (· = l.char) c := by
  have hfold (ha : o.unicode = false → l.char.toNat < 0x80) :
      (foldIf o (.single l.char)).contains c = true ↔ o.Close (· = l.char) c :=
    Denotes.contains_iff (Denotes.foldIf ⟨fun _ => contains_single, fun hu _ hc => hc ▸ ha hu⟩) c
  unfold literalSet at h
  split_ifs at h with hu _ hc
  · obtain rfl := Except.ok.inj h
    exact hfold fun h' => by simp [h'] at hu
  · obtain rfl := Except.ok.inj h
    exact hfold fun _ => hc
  · -- Beyond ASCII there is no case without Unicode.
    obtain rfl := Except.ok.inj h
    simp [contains_single, Options.Close, Options.Alike, hu, hc]

theorem contains_dotSet {o : Options} {s : CharSet} (h : dotSet o = .ok s) {c : Char} :
    s.contains c = true ↔
      o.dotAll = true ∨ (c ≠ '\n' ∧ (o.crlf = true → c ≠ '\r')) := by
  unfold dotSet at h
  split_ifs at h with _ hd hc
  · obtain rfl := Except.ok.inj h
    simp [CharSet.all, CharSet.contains, hd]
  · obtain rfl := Except.ok.inj h
    simp [contains_compl, contains_union, contains_single, hd, hc, and_comm]
  · obtain rfl := Except.ok.inj h
    simp [contains_compl, contains_single, hd, hc]

theorem spans_chars {text : List Char} {s : CharSet} {members : Char → Prop}
    (h : ∀ c, s.contains c = true ↔ members c) : Spans text (.chars s) = OneOf text members := by
  ext i j
  simp only [Spans, OneOf, h]

/-- Working the flags in keeps what an expression matches. -/
theorem Expr.spans_compile {text : List Char} {o o' : Options} {e : Expr} {r : Regex}
    (h : e.compile o = .ok (r, o')) (he : e.WellFormed) :
    o' = e.optionsAfter o ∧ Spans text r = e.Matches text o := by
  induction e generalizing o o' r with
  | empty | setFlags changes =>
    cases h
    exact ⟨rfl, rfl⟩
  | anchor a =>
    cases h
    refine ⟨rfl, ?_⟩
    ext i j
    simp only [Spans, Matches, Anchor.holds_compile]
  | literal l =>
    obtain ⟨s, hs, h⟩ := bind_eq_ok_iff.mp h
    cases h
    exact ⟨rfl, spans_chars fun _ => contains_literalSet hs⟩
  | dot =>
    obtain ⟨s, hs, h⟩ := bind_eq_ok_iff.mp h
    cases h
    exact ⟨rfl, spans_chars fun _ => contains_dotSet hs⟩
  | shorthand kind negated =>
    obtain ⟨s, hs, h⟩ := bind_eq_ok_iff.mp h
    cases h
    exact ⟨rfl, spans_chars (denotes_shorthandSet hs).contains_iff⟩
  | property p negated =>
    obtain ⟨s, hs, h⟩ := bind_eq_ok_iff.mp h
    cases h
    exact ⟨rfl, spans_chars (denotes_propertySet hs).contains_iff⟩
  | bracketed negated content =>
    obtain ⟨s, hs, h⟩ := bind_eq_ok_iff.mp h
    obtain ⟨t, ht, h⟩ := bind_eq_ok_iff.mp h
    cases h
    exact ⟨rfl, spans_chars ((SetExpr.denotes_compile hs he).closeSet ht).contains_iff⟩
  | group captures changes e ih =>
    obtain ⟨⟨r', _⟩, hr, h⟩ := bind_eq_ok_iff.mp h
    cases h
    exact ⟨rfl, (ih hr he).2⟩
  | times e least most greedy ih =>
    obtain ⟨⟨r', _⟩, hr, h⟩ := bind_eq_ok_iff.mp h
    cases h
    obtain ⟨rfl, hm⟩ := ih hr he.2
    refine ⟨rfl, ?_⟩
    ext i j
    have hmax : ∀ n, (∀ m, most = some m → n ≤ max least m) ↔ ∀ m, most = some m → n ≤ m := by
      intro n
      refine forall₂_congr fun m hm => ?_
      rw [Nat.max_eq_right (he.1 m hm)]
    simp only [Spans, Matches, hm, hmax]
  | seq a b iha ihb =>
    obtain ⟨⟨ra, _⟩, hra, h⟩ := bind_eq_ok_iff.mp h
    obtain ⟨⟨rb, _⟩, hrb, h⟩ := bind_eq_ok_iff.mp h
    cases h
    obtain ⟨rfl, hma⟩ := iha hra he.1
    obtain ⟨rfl, hmb⟩ := ihb hrb he.2
    refine ⟨rfl, ?_⟩
    ext i j
    simp only [Spans, Matches, hma, hmb]
  | alt a b iha ihb =>
    obtain ⟨⟨ra, _⟩, hra, h⟩ := bind_eq_ok_iff.mp h
    obtain ⟨⟨rb, _⟩, hrb, h⟩ := bind_eq_ok_iff.mp h
    cases h
    obtain ⟨rfl, hma⟩ := iha hra he.1
    obtain ⟨rfl, hmb⟩ := ihb hrb he.2
    refine ⟨rfl, ?_⟩
    ext i j
    simp only [Spans, Matches, hma, hmb]

end TypeExchange.Regex
