import TypeExchange.Pattern
import TypeExchange.Proofs.Regex.Denotation
import TypeExchange.Proofs.Regex.Language

/-! The names that the pattern of a written expression accepts: those of which some part is
matched. Without anchors that is to contain a word of the expression; where every match is bound to
both ends it is to be one. -/
namespace TypeExchange

namespace Regex

/-- Whether an anchor holds nowhere but at the start of the text. -/
def Anchor.isStart (o : Options) : Anchor → Bool
  | textStart => true
  | lineStart => !o.multiLine
  | _ => false

/-- Whether an anchor holds nowhere but at the end of the text. -/
def Anchor.isEnd (o : Options) : Anchor → Bool
  | textEnd => true
  | lineEnd => !o.multiLine
  | _ => false

namespace Expr

/-- Whether an expression has no anchors. -/
def isFree : Expr → Bool
  | anchor _ => false
  | group _ _ e | times e _ _ _ => e.isFree
  | seq a b | alt a b => a.isFree && b.isFree
  | _ => true

/-- The texts that are matched as a whole. -/
def language (o : Options) (e : Expr) : Language Char := {w | e.Matches w o 0 w.length}

/-- Whether every match passes one of certain anchors. -/
def isBoundBy (bounds : Options → Anchor → Bool) (o : Options) : Expr → Bool
  | anchor a => bounds o a
  | group _ changes e => e.isBoundBy bounds (o.apply changes)
  | times e least _ _ => least != 0 && e.isBoundBy bounds o
  | seq a b => a.isBoundBy bounds o || b.isBoundBy bounds (a.optionsAfter o)
  | alt a b => a.isBoundBy bounds o && b.isBoundBy bounds (a.optionsAfter o)
  | _ => false

/-- Whether every match starts at the start of the text and ends at its end. -/
def isBoundToEnds (o : Options) (e : Expr) : Bool :=
  e.isBoundBy Anchor.isStart o && e.isBoundBy Anchor.isEnd o

end Expr

section
variable {text : List Char} {o o' : Options} {e : Expr} {r : Regex} {i j : Nat}

theorem forward_oneOf (text : List Char) (members : Char → Prop) :
    Forward text.length (OneOf text members) := by
  rintro i j ⟨rfl, c, hc, _⟩
  obtain ⟨hi, _⟩ := List.getElem?_eq_some_iff.mp hc
  exact .inr ⟨Nat.lt_succ_self i, hi⟩

theorem start_of_holds {a : Anchor} (ha : a.isStart o = true) (hi : i ≤ text.length)
    (h : a.Holds o (charBefore text i) text[i]?) : i = 0 := by
  have hnone : charBefore text i = none := by
    cases a <;> try contradiction
    case textStart => exact h
    case lineStart => exact h.resolve_right fun h' => by simp [Anchor.isStart, h'.1] at ha
  cases i with
  | zero => rfl
  | succ i =>
    have := List.getElem?_eq_none_iff.mp hnone
    omega

theorem end_of_holds {a : Anchor} (ha : a.isEnd o = true) (hi : i ≤ text.length)
    (h : a.Holds o (charBefore text i) text[i]?) : i = text.length := by
  have hnone : text[i]? = none := by
    cases a <;> try contradiction
    case textEnd => exact h
    case lineEnd => exact h.resolve_right fun h' => by simp [Anchor.isEnd, h'.1] at ha
  have := List.getElem?_eq_none_iff.mp hnone
  omega

namespace Expr

theorem forward_matches (text : List Char) (o : Options) (e : Expr) :
    Forward text.length (e.Matches text o) := by
  induction e generalizing o with
  | empty | setFlags =>
    intro i j h
    exact .inl h
  | anchor =>
    rintro i j ⟨h, -⟩
    exact .inl h
  | literal | dot | shorthand | property | bracketed => exact forward_oneOf text _
  | group _ changes e ih => exact ih (o.apply changes)
  | times e least most _ ih =>
    rintro i j ⟨n, -, -, h⟩
    exact forward_rounds (ih o) n h
  | seq a b iha ihb =>
    rintro i j ⟨k, ha, hb⟩
    have := iha o ha
    have := ihb _ hb
    omega
  | alt a b iha ihb =>
    rintro i j (h | h)
    · exact iha o h
    · exact ihb _ h

/-- Where certain anchors hold at one position only, what is bound by them matches around it. -/
theorem passes_of_matches {bounds : Options → Anchor → Bool} {p : Nat}
    (hp : ∀ {o a i}, bounds o a = true → i ≤ text.length →
      a.Holds o (charBefore text i) text[i]? → i = p)
    (hb : e.isBoundBy bounds o = true) (h : e.Matches text o i j) : i ≤ p ∧ p ≤ j := by
  induction e generalizing o i j with
  | anchor a =>
    obtain ⟨rfl, hi, ha⟩ := h
    obtain rfl := hp hb hi ha
    exact ⟨Nat.le_refl i, Nat.le_refl i⟩
  | group _ changes e ih => exact ih hb h
  | times e least most _ ih =>
    rw [isBoundBy, Bool.and_eq_true, bne_iff_ne] at hb
    obtain ⟨n, hn, -, hr⟩ := h
    cases n with
    | zero => omega
    | succ n =>
      -- The first round is bound, and the others go on from it.
      obtain ⟨k, hk, hkj⟩ := hr
      have := ih hb.2 hk
      have := forward_rounds (forward_matches text o e) n hkj
      omega
  | seq a b iha ihb =>
    obtain ⟨k, hak, hbk⟩ := h
    have := forward_matches text o a hak
    have := forward_matches text _ b hbk
    rcases Bool.or_eq_true_iff.mp hb with ha | hb
    · have := iha ha hak
      omega
    · have := ihb hb hbk
      omega
  | alt a b iha ihb =>
    obtain ⟨ha, hb⟩ := Bool.and_eq_true_iff.mp hb
    rcases h with h | h
    · exact iha ha h
    · exact ihb hb h
  | _ => contradiction

theorem ends_of_matches (hb : e.isBoundToEnds o = true) (h : e.Matches text o i j) :
    i = 0 ∧ j = text.length := by
  obtain ⟨hs, he⟩ := Bool.and_eq_true_iff.mp hb
  have hstart := passes_of_matches start_of_holds hs h
  have hend := passes_of_matches end_of_holds he h
  have := forward_matches text o e h
  omega

theorem mem_language {w : List Char} : w ∈ e.language o ↔ e.Matches w o 0 w.length := Iff.rfl

theorem isPlain_compile (h : e.compile o = .ok (r, o')) (hf : e.isFree = true) :
    r.isPlain = true := by
  induction e generalizing o o' r with
  | anchor a => contradiction
  | empty | setFlags =>
    cases h
    rfl
  | literal | dot | shorthand | property =>
    obtain ⟨s, -, h⟩ := bind_eq_ok_iff.mp h
    cases h
    rfl
  | bracketed =>
    obtain ⟨s, -, h⟩ := bind_eq_ok_iff.mp h
    obtain ⟨t, -, h⟩ := bind_eq_ok_iff.mp h
    cases h
    rfl
  | group _ _ e ih =>
    obtain ⟨_, hr, h⟩ := bind_eq_ok_iff.mp h
    cases h
    exact ih hr hf
  | times e _ _ _ ih =>
    obtain ⟨⟨r', _⟩, hr, h⟩ := bind_eq_ok_iff.mp h
    cases h
    have hp : r'.isPlain = true := ih hr hf
    exact hp
  | seq a b iha ihb | alt a b iha ihb =>
    obtain ⟨⟨ra, _⟩, hra, h⟩ := bind_eq_ok_iff.mp h
    obtain ⟨⟨rb, _⟩, hrb, h⟩ := bind_eq_ok_iff.mp h
    cases h
    obtain ⟨ha, hb⟩ := Bool.and_eq_true_iff.mp hf
    exact Bool.and_eq_true_iff.mpr ⟨iha hra ha, ihb hrb hb⟩

/-- Without anchors an expression matches between two positions where one of its words stands
there. -/
theorem matches_eq_stands (h : e.compile o = .ok (r, o')) (he : e.WellFormed)
    (hf : e.isFree = true) (text : List Char) : e.Matches text o = Stands text (e.language o) := by
  have hm : ∀ text, e.Matches text o = Stands text r.language := by
    intro text
    rw [← (spans_compile h he).2, spans_eq_stands text (isPlain_compile h hf)]
  have hl : e.language o = r.language := by
    ext w
    rw [mem_language, hm, stands_whole]
  rw [hm, hl]

end Expr

theorem exists_stands_iff {L : Language Char} :
    (∃ i j, i ≤ j ∧ j ≤ text.length ∧ Stands text L i j) ↔ ∃ w ∈ L, w <:+: text := by
  constructor
  · rintro ⟨i, _, -, -, w, hw, -, hp⟩
    exact ⟨w, hw, hp.isInfix.trans (text.drop_suffix i).isInfix⟩
  · rintro ⟨w, hw, s, t, rfl⟩
    refine ⟨s.length, s.length + w.length, Nat.le_add_right _ _, ?_, w, hw, rfl, ?_⟩
    · simp only [List.length_append]
      omega
    · simp

end

end Regex

namespace Pattern

open Regex

/-- A pattern that an expression writes accepts the names of which the expression matches a
part. -/
theorem accepts_iff_matches {text : String} {p : Pattern} (h : ofExpression text = .ok p) :
    ∃ e r o, Expr.parse text = .ok e ∧ e.compile .standard = .ok (r, o) ∧ e.WellFormed ∧
      ∀ c : String, p.accepts c = true ↔
        ∃ i j, i ≤ j ∧ j ≤ c.toList.length ∧ e.Matches c.toList .standard i j := by
  unfold ofExpression at h
  split at h
  next r hr =>
    obtain rfl := Except.ok.inj h
    obtain ⟨e, he, hr⟩ := bind_eq_ok_iff.mp hr
    obtain ⟨⟨r', o⟩, hc, hr⟩ := bind_eq_ok_iff.mp hr
    obtain ⟨fits, -, hr⟩ := bind_eq_ok_iff.mp hr
    cases fits with
    | false => contradiction
    | true =>
      obtain rfl := Except.ok.inj hr
      have hw := Expr.wellFormed_of_parse he
      refine ⟨e, r', o, he, hc, hw, fun c => ?_⟩
      rw [accepts, isMatch_iff_spans, (Expr.spans_compile hc hw).2]
  next => contradiction

/-- A literal accepts its name and no other. An expression accepts the names of which it matches
some part, with anchors asked of the whole name; so without anchors it goes on to accept a name
that is put between others, and where it is bound to both ends it accepts its words alone. -/
theorem accepts_exact :
    (∀ name c : String, (literal name).accepts c = true ↔ c = name) ∧
    ∀ (text : String) (p : Pattern), ofExpression text = .ok p →
      ∃ e, Expr.parse text = .ok e ∧
        (∀ c : String, p.accepts c = true ↔
          ∃ i j, i ≤ j ∧ j ≤ c.toList.length ∧ e.Matches c.toList .standard i j) ∧
        (e.isFree = true →
          (∀ c : String, p.accepts c = true ↔ ∃ w ∈ e.language .standard, w <:+: c.toList) ∧
          ∀ x c y : String, p.accepts c = true → p.accepts (x ++ c ++ y) = true) ∧
        (e.isBoundToEnds .standard = true →
          ∀ c : String, p.accepts c = true ↔ c.toList ∈ e.language .standard) := by
  refine ⟨fun name c => by rw [accepts, beq_iff_eq, eq_comm], ?_⟩
  intro text p h
  obtain ⟨e, r, o, he, hc, hw, hp⟩ := accepts_iff_matches h
  refine ⟨e, he, hp, ?_, ?_⟩
  · intro hf
    have hword : ∀ c : String,
        p.accepts c = true ↔ ∃ w ∈ e.language .standard, w <:+: c.toList := by
      intro c
      rw [hp, Expr.matches_eq_stands hc hw hf, exists_stands_iff]
    refine ⟨hword, ?_⟩
    intro x c y hacc
    obtain ⟨w, hw, hin⟩ := (hword c).mp hacc
    refine (hword _).mpr ⟨w, hw, hin.trans ?_⟩
    exact ⟨x.toList, y.toList, by rw [String.toList_append, String.toList_append]⟩
  · intro hb c
    rw [hp]
    constructor
    · rintro ⟨i, j, -, -, hm⟩
      obtain ⟨rfl, rfl⟩ := Expr.ends_of_matches hb hm
      exact hm
    · intro hm
      exact ⟨0, _, Nat.zero_le _, Nat.le_refl _, hm⟩

theorem accepts_exact_within : ∃ p, ofExpression "u?int[0-9]+" = .ok p ∧
    p.accepts "uint8" = true ∧ ∀ x y : String, p.accepts (x ++ "uint8" ++ y) = true := by
  obtain ⟨p, hp, ha⟩ : ∃ p, ofExpression "u?int[0-9]+" = .ok p ∧ p.accepts "uint8" = true :=
    exists_ok_of_any (by decide +kernel)
  obtain ⟨e, he, -, hfree, -⟩ := accepts_exact.2 _ p hp
  obtain ⟨e', he', hf⟩ : ∃ e, Expr.parse "u?int[0-9]+" = .ok e ∧ e.isFree = true :=
    exists_ok_of_any (by decide +kernel)
  obtain rfl := Except.ok.inj (he.symm.trans he')
  exact ⟨p, hp, ha, fun x y => (hfree hf).2 x "uint8" y ha⟩

end Pattern
end TypeExchange
