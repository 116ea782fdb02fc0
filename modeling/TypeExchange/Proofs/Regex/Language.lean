import Mathlib.Computability.Language
import TypeExchange.Proofs.Regex.Spans

/-! Languages of expressions. One that is bound to both ends of the text matches the words of the
language between its bounds and nothing else. -/
namespace TypeExchange.Regex

/-- Whether an expression asks nothing of what stands around its matches. -/
def isPlain : Regex → Bool
  | empty | chars _ => true
  | assertion _ => false
  | seq r s | alt r s => isPlain r && isPlain s
  | times r _ _ => isPlain r

/-- The words of an expression. Assertions, which plain expressions have none of, have no words. -/
def language : Regex → Language Char
  | empty => 1
  | chars set => {w | ∃ c, w = [c] ∧ set.contains c = true}
  | assertion _ => 0
  | seq r s => language r * language s
  | alt r s => language r + language s
  | times r least most =>
    {w | ∃ n, least ≤ n ∧ (∀ m, most = some m → n ≤ max least m) ∧ w ∈ language r ^ n}

/-- A word of the language stands between two positions. -/
def Stands (text : List Char) (L : Language Char) (i j : Nat) : Prop :=
  ∃ w ∈ L, j = i + w.length ∧ w <+: text.drop i

/-- What stands before the end of the text, if that is where the expression ends. -/
def dropEnd : Regex → Option Regex
  | assertion .textEnd => some empty
  | seq r s => (dropEnd s).map (seq r)
  | _ => none

/-- What stands between the ends of the text, if the expression is bound to both. -/
def whole? : Regex → Option Regex
  | seq (assertion .textStart) r => dropEnd r
  | _ => none

section
variable {text : List Char} {L M : Language Char} {i j : Nat}

theorem append_prefix_iff {v w : List Char} :
    v ++ w <+: text ↔ v <+: text ∧ w <+: text.drop v.length := by
  constructor
  · rintro ⟨u, rfl⟩
    simp
  · rintro ⟨⟨u, rfl⟩, h⟩
    simpa using h

theorem stands_one : Stands text 1 i j ↔ i = j := by
  simp [Stands, eq_comm]

theorem stands_add : Stands text (L + M) i j ↔ Stands text L i j ∨ Stands text M i j := by
  simp only [Stands, Language.mem_add, or_and_right, exists_or]

theorem stands_mul :
    Stands text (L * M) i j ↔ ∃ k, Stands text L i k ∧ Stands text M k j := by
  constructor
  · rintro ⟨_, hm, rfl, hp⟩
    obtain ⟨v, hv, w, hw, rfl⟩ := Language.mem_mul.mp hm
    obtain ⟨hpv, hpw⟩ := append_prefix_iff.mp hp
    rw [List.drop_drop] at hpw
    exact ⟨i + v.length, ⟨v, hv, rfl, hpv⟩, w, hw, by rw [List.length_append, Nat.add_assoc], hpw⟩
  · rintro ⟨_, ⟨v, hv, rfl, hpv⟩, w, hw, rfl, hpw⟩
    refine ⟨v ++ w, Language.append_mem_mul hv hw, by rw [List.length_append, Nat.add_assoc], ?_⟩
    rw [append_prefix_iff, List.drop_drop]
    exact ⟨hpv, hpw⟩

theorem stands_pow {n : Nat} : Stands text (L ^ n) i j ↔ Rounds (Stands text L) n i j := by
  induction n generalizing i with
  | zero => rw [pow_zero, stands_one, Rounds]
  | succ n ih => simp only [pow_succ', stands_mul, ih, Rounds]

theorem stands_whole : Stands text L 0 text.length ↔ text ∈ L := by
  constructor
  · rintro ⟨w, hw, hl, hp⟩
    rw [Nat.zero_add] at hl
    rwa [hp.eq_of_length hl.symm] at hw
  · intro h
    exact ⟨text, h, (Nat.zero_add _).symm, List.prefix_refl text⟩

end

/-- A plain expression matches between two positions where one of its words stands there. -/
theorem spans_eq_stands (text : List Char) {r : Regex} (h : r.isPlain = true) :
    Spans text r = Stands text r.language := by
  induction r with
  | empty =>
    ext i j
    exact stands_one.symm
  | chars set =>
    ext i j
    constructor
    · rintro ⟨rfl, c, hc, hs⟩
      refine ⟨[c], ⟨c, rfl, hs⟩, rfl, ?_⟩
      rw [List.singleton_prefix_iff_head?_eq_some, List.head?_drop, hc]
    · rintro ⟨_, ⟨c, rfl, hs⟩, rfl, hp⟩
      rw [List.singleton_prefix_iff_head?_eq_some, List.head?_drop] at hp
      exact ⟨rfl, c, hp, hs⟩
  | assertion a => contradiction
  | seq r s ihr ihs =>
    rw [isPlain, Bool.and_eq_true] at h
    ext i j
    simp only [Spans, language, stands_mul, ihr h.1, ihs h.2]
  | alt r s ihr ihs =>
    rw [isPlain, Bool.and_eq_true] at h
    ext i j
    simp only [Spans, language, stands_add, ihr h.1, ihs h.2]
  | times r least most ih =>
    ext i j
    simp only [Spans, ih h, ← stands_pow]
    constructor
    · rintro ⟨n, hn, hmost, w, hw, hp⟩
      exact ⟨w, ⟨n, hn, hmost, hw⟩, hp⟩
    · rintro ⟨w, ⟨n, hn, hmost, hw⟩, hp⟩
      exact ⟨n, hn, hmost, w, hw, hp⟩

theorem spans_dropEnd {text : List Char} {r s : Regex} (h : r.dropEnd = some s) {i j : Nat} :
    Spans text r i j ↔ j = text.length ∧ Spans text s i j := by
  induction r generalizing s i with
  | assertion a =>
    cases a <;> simp only [dropEnd, Option.some.injEq, reduceCtorEq] at h
    subst h
    simp only [Spans, Assertion.holds, Option.isNone_iff_eq_none, List.getElem?_eq_none_iff]
    omega
  | seq r t _ ih =>
    obtain ⟨u, hu, rfl⟩ := Option.map_eq_some_iff.mp h
    simp only [Spans, ih hu, and_left_comm, exists_and_left]
  | empty | chars | alt | times => contradiction

/-- An expression that is bound to both ends matches a text where what stands between its bounds
matches the whole of it. -/
theorem isMatch_iff_spans_whole {r s : Regex} (h : r.whole? = some s) {text : String} :
    r.isMatch text = true ↔ Spans text.toList s 0 text.toList.length := by
  unfold whole? at h
  split at h
  next r =>
    simp only [isMatch_iff_spans, Spans, spans_dropEnd h, Assertion.holds, charBefore]
    constructor
    · rintro ⟨i, j, _, _, _, ⟨rfl, _, hi⟩, rfl, hs⟩
      cases i with
      | zero => exact hs
      | succ i =>
        have : text.toList.length ≤ i := by simpa using hi
        omega
    · intro hs
      exact ⟨0, _, Nat.zero_le _, Nat.le_refl _, 0, ⟨rfl, Nat.zero_le _, rfl⟩, rfl, hs⟩
  next => contradiction

theorem isMatch_iff_mem_language {r s : Regex} (h : r.whole? = some s) (hs : s.isPlain = true)
    {text : String} : r.isMatch text = true ↔ text.toList ∈ s.language := by
  rw [isMatch_iff_spans_whole h, spans_eq_stands _ hs, stands_whole]

/-- The characters of a word, and what follows them. -/
def word (cs : List Char) (rest : Regex) : Regex :=
  cs.foldr (fun c r => .seq (.chars (.single c)) r) rest

/-- The characters of a word where nothing follows them. -/
def letters : List Char → Regex
  | [] => .empty
  | [c] => .chars (.single c)
  | c :: cs => .seq (.chars (.single c)) (letters cs)

/-- The branches of an alternation between words. -/
def choice : List Char → List (List Char) → Regex
  | v, [] => letters v
  | v, v' :: vs => .alt (letters v) (choice v' vs)

/-- One or more characters of a set. -/
def several (set : CharSet) : Regex := .times (.chars set) 1 none

/-- What may be left out. -/
def optional (r : Regex) : Regex := .times r 0 (some 1)

theorem mem_language_single {c : Char} {w : List Char} :
    w ∈ (chars (.single c)).language ↔ w = [c] := by
  constructor
  · rintro ⟨d, rfl, hd⟩
    simp only [CharSet.single, CharSet.contains, Bool.and_eq_true, decide_eq_true_eq] at hd
    rw [Char.le_antisymm hd.2 hd.1]
  · rintro rfl
    exact ⟨c, rfl, by simp [CharSet.single, CharSet.contains]⟩

theorem mem_language_word {cs w : List Char} {rest : Regex} :
    w ∈ (word cs rest).language ↔ ∃ v ∈ rest.language, w = cs ++ v := by
  induction cs generalizing w with
  | nil => simp [word]
  | cons c cs ih =>
    have hw : (word (c :: cs) rest).language =
        (chars (.single c)).language * (word cs rest).language := rfl
    rw [hw, Language.mem_mul]
    constructor
    · rintro ⟨_, hc, _, hr, rfl⟩
      rw [mem_language_single.mp hc]
      obtain ⟨v, hv, rfl⟩ := ih.mp hr
      exact ⟨v, hv, rfl⟩
    · rintro ⟨v, hv, rfl⟩
      exact ⟨[c], mem_language_single.mpr rfl, cs ++ v, ih.mpr ⟨v, hv, rfl⟩, rfl⟩

theorem mem_language_letters {cs w : List Char} : w ∈ (letters cs).language ↔ w = cs := by
  induction cs generalizing w with
  | nil => exact Language.mem_one w
  | cons c cs ih =>
    cases cs with
    | nil => exact mem_language_single
    | cons d cs =>
      have hl : (letters (c :: d :: cs)).language =
          (chars (.single c)).language * (letters (d :: cs)).language := rfl
      simp only [hl, Language.mem_mul, mem_language_single, ih, exists_eq_left]
      exact eq_comm

theorem mem_language_choice {v w : List Char} {vs : List (List Char)} :
    w ∈ (choice v vs).language ↔ w ∈ v :: vs := by
  induction vs generalizing v with
  | nil => rw [choice, mem_language_letters, List.mem_singleton]
  | cons v' vs ih =>
    rw [choice, language, Language.mem_add, mem_language_letters, ih, List.mem_cons (b := v)]

theorem mem_language_chars_pow {set : CharSet} {n : Nat} {w : List Char} :
    w ∈ (chars set).language ^ n ↔ w.length = n ∧ ∀ c ∈ w, set.contains c = true := by
  induction n generalizing w with
  | zero => simp +contextual
  | succ n ih =>
    rw [pow_succ', Language.mem_mul]
    simp only [ih]
    constructor
    · rintro ⟨_, ⟨c, rfl, hc⟩, cs, ⟨rfl, hcs⟩, rfl⟩
      exact ⟨rfl, List.forall_mem_cons.mpr ⟨hc, hcs⟩⟩
    · rintro ⟨hl, hw⟩
      obtain ⟨c, cs, rfl⟩ := List.exists_cons_of_length_eq_add_one hl
      obtain ⟨hc, hcs⟩ := List.forall_mem_cons.mp hw
      exact ⟨[c], ⟨c, rfl, hc⟩, cs, ⟨Nat.succ.inj hl, hcs⟩, rfl⟩

theorem mem_language_several {set : CharSet} {w : List Char} :
    w ∈ (several set).language ↔ w ≠ [] ∧ ∀ c ∈ w, set.contains c = true := by
  constructor
  · rintro ⟨n, hn, -, hw⟩
    obtain ⟨rfl, hc⟩ := mem_language_chars_pow.mp hw
    exact ⟨List.ne_nil_of_length_pos hn, hc⟩
  · rintro ⟨hw, hc⟩
    refine ⟨w.length, List.length_pos_of_ne_nil hw, ?_, mem_language_chars_pow.mpr ⟨rfl, hc⟩⟩
    rintro m hm
    contradiction

theorem language_optional (r : Regex) : (optional r).language = 1 + r.language := by
  ext w
  rw [Language.mem_add]
  constructor
  · rintro ⟨n, _, hn, hw⟩
    obtain rfl | rfl : n = 0 ∨ n = 1 := Nat.le_one_iff_eq_zero_or_eq_one.mp (hn 1 rfl)
    · exact .inl (by simpa using hw)
    · exact .inr (by simpa using hw)
  · rintro (hw | hw)
    · exact ⟨0, by omega, by omega, by simpa using hw⟩
    · refine ⟨1, by omega, ?_, by simpa using hw⟩
      rintro m hm
      cases hm
      decide

theorem language_optional_seq (r s : Regex) :
    (seq (optional r) s).language = s.language + (seq r s).language := by
  rw [language, language_optional, add_mul, one_mul, language]

theorem language_word_optional_seq (cs : List Char) (r s : Regex) :
    (word cs (seq (optional r) s)).language =
      (word cs s).language + (word cs (seq r s)).language := by
  ext w
  simp only [Language.mem_add, mem_language_word, language_optional_seq, or_and_right, exists_or]

end TypeExchange.Regex
