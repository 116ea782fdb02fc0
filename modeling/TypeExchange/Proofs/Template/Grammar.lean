import Mathlib.Data.List.Basic
import Mathlib.Tactic.Common
import TypeExchange.Proofs.Results
import TypeExchange.Template

/-! The grammar of templates. A text is a template where it can be cut into tokens; the cut is
unique, and rendering goes token by token. -/
namespace TypeExchange

/-- How a token is written: a brace that is text is doubled. -/
def TemplateToken.spelling : TemplateToken → List Char
  | .char c => if c = '\x7b' ∨ c = '\x7d' then [c, c] else [c]
  | .code => ['\x7b', 'c', 'o', 'd', 'e', '\x7d']
  | .context => ['\x7b', 'c', 'o', 'n', 't', 'e', 'x', 't', '\x7d']

/-- What a token becomes; a missing context is empty. -/
def TemplateToken.rendering (code : List Char) (context : Option (List Char)) :
    TemplateToken → List Char
  | .char c => [c]
  | .code => code
  | .context => context.getD []

namespace Template

def spell (ts : List TemplateToken) : List Char := ts.flatMap TemplateToken.spelling

theorem spell_cons (t : TemplateToken) (ts : List TemplateToken) :
    spell (t :: ts) = t.spelling ++ spell ts := List.flatMap_cons

theorem spell_append (ts us : List TemplateToken) : spell (ts ++ us) = spell ts ++ spell us :=
  List.flatMap_append

theorem tokens_char {c : Char} (ho : c ≠ '\x7b') (hc : c ≠ '\x7d') (rest : List Char) :
    tokens (c :: rest) = (tokens rest).map (.char c :: ·) := by
  rw [tokens]
  · exact fun _ h => absurd h ho
  · exact fun _ h => absurd h hc
  · exact fun _ h => absurd h ho
  · exact fun _ h => absurd h ho
  · exact ho
  · exact hc

/-- A token in front of any text is read off. -/
theorem tokens_spelling_append (t : TemplateToken) (rest : List Char) :
    tokens (t.spelling ++ rest) = (tokens rest).map (t :: ·) := by
  cases t with
  | char c =>
    by_cases ho : c = '\x7b'
    · subst ho
      rfl
    · by_cases hc : c = '\x7d'
      · subst hc
        rfl
      · rw [TemplateToken.spelling, if_neg (by simp [ho, hc])]
        exact tokens_char ho hc rest
  | code => rfl
  | context => rfl

theorem eq_spell_of_tokens {s : List Char} {ts : List TemplateToken} (h : tokens s = .ok ts) :
    s = spell ts := by
  fun_induction tokens s generalizing ts with
  | case1 =>
    obtain rfl := Except.ok.inj h
    rfl
  | case2 rest ih | case3 rest ih | case4 rest ih | case5 rest ih =>
    obtain ⟨us, hu, rfl⟩ := map_eq_ok_iff.mp h
    rw [ih hu]
    rfl
  | case6 | case7 | case8 => contradiction
  | case9 c rest _ _ _ _ ho hc ih =>
    obtain ⟨us, hu, rfl⟩ := map_eq_ok_iff.mp h
    rw [ih hu]
    have hb : ¬ (c = '\x7b' ∨ c = '\x7d') := not_or.mpr ⟨ho, hc⟩
    simp [spell, TemplateToken.spelling, hb]

/-- A spelling in front of any text is read off token by token. -/
theorem tokens_spell_append (ts : List TemplateToken) (rest : List Char) :
    tokens (spell ts ++ rest) = (tokens rest).map (ts ++ ·) := by
  induction ts with
  | nil => cases h : tokens rest <;> simp [spell, h]
  | cons t ts ih =>
    rw [spell_cons, List.append_assoc, tokens_spelling_append, ih]
    cases tokens rest <;> simp

theorem tokens_eq_ok_iff {s : List Char} {ts : List TemplateToken} :
    tokens s = .ok ts ↔ s = spell ts := by
  constructor
  · exact eq_spell_of_tokens
  · rintro rfl
    have h := tokens_spell_append ts []
    simpa [tokens] using h

example : tokens ['\x7b', '\x7b', '\x7b', 'c', 'o', 'd', 'e', '\x7d', '\x7d', '\x7d'] =
    .ok [.char '\x7b', .code, .char '\x7d'] := rfl

theorem spell_injective {ts us : List TemplateToken} (h : spell ts = spell us) : ts = us := by
  have ht := tokens_eq_ok_iff.mpr h
  rw [tokens_eq_ok_iff.mpr rfl] at ht
  exact Except.ok.inj ht

theorem parse_eq_ok_iff {s : String} {t : Template} :
    parse s = .ok t ↔ ∃ ts, s.toList = spell ts ∧ t = ⟨s, join ts⟩ := by
  unfold parse
  cases h : tokens s.toList with
  | error fault =>
    have hn : ∀ ts, s.toList ≠ spell ts := by
      intro ts hs
      rw [tokens_eq_ok_iff.mpr hs] at h
      contradiction
    simp [hn]
  | ok ts =>
    have hs := tokens_eq_ok_iff.mp h
    constructor
    · intro ht
      exact ⟨ts, hs, (Except.ok.inj ht).symm⟩
    · rintro ⟨us, hu, rfl⟩
      rw [spell_injective (hs.symm.trans hu)]

theorem parse_of_spell {s : String} {ts : List TemplateToken} (h : s.toList = spell ts) :
    parse s = .ok ⟨s, join ts⟩ := parse_eq_ok_iff.mpr ⟨ts, h, rfl⟩

section
variable (code : List Char) (context : Option (List Char))

theorem flatMap_consChar (c : Char) (segments : List Segment) :
    (consChar c segments).flatMap (renderSegment code context) =
      c :: segments.flatMap (renderSegment code context) := by
  unfold consChar
  split <;> simp [renderSegment]

/-- Joining characters to texts does not change what they become. -/
theorem flatMap_join (ts : List TemplateToken) :
    (join ts).flatMap (renderSegment code context) =
      ts.flatMap (TemplateToken.rendering code context) := by
  induction ts with
  | nil => rfl
  | cons t ts ih =>
    cases t with
    | char c => simp [join, flatMap_consChar, TemplateToken.rendering, ih]
    | code => simp [join, renderSegment, TemplateToken.rendering, ih]
    | context => simp [join, renderSegment, TemplateToken.rendering, ih]

end

theorem render_of_spell {s : String} {t : Template} {ts : List TemplateToken}
    (ht : parse s = .ok t) (hs : s.toList = spell ts) (code : String) (context : Option String) :
    t.render code context = String.ofList
      (ts.flatMap (TemplateToken.rendering code.toList (context.map String.toList))) := by
  rw [parse_of_spell hs] at ht
  rw [← Except.ok.inj ht, render, flatMap_join]

/-- A text is a template where it is a sequence of tokens. There is one such sequence, and the
template becomes what its tokens become, one after the other. So templates can be put behind each
other. -/
theorem parse_render_tokens (s : String) :
    ((∃ t, parse s = .ok t) ↔ ∃ ts, s.toList = spell ts) ∧
    (∀ ts us, s.toList = spell ts → s.toList = spell us → ts = us) ∧
    (∀ t ts, parse s = .ok t → s.toList = spell ts → ∀ code context,
      t.render code context = String.ofList
        (ts.flatMap (TemplateToken.rendering code.toList (context.map String.toList)))) ∧
    (∀ s' t t', parse s = .ok t → parse s' = .ok t' → ∃ u, parse (s ++ s') = .ok u ∧
      ∀ code context, u.render code context = t.render code context ++ t'.render code context) := by
  refine ⟨?_, ?_, ?_, ?_⟩
  · constructor
    · rintro ⟨t, ht⟩
      obtain ⟨ts, hs, -⟩ := parse_eq_ok_iff.mp ht
      exact ⟨ts, hs⟩
    · rintro ⟨ts, hs⟩
      exact ⟨_, parse_of_spell hs⟩
  · intro ts us ht hu
    exact spell_injective (ht.symm.trans hu)
  · intro t ts ht hs code context
    exact render_of_spell ht hs code context
  · intro s' t t' ht ht'
    obtain ⟨ts, hs, -⟩ := parse_eq_ok_iff.mp ht
    obtain ⟨us, hs', -⟩ := parse_eq_ok_iff.mp ht'
    have happ : (s ++ s').toList = spell (ts ++ us) := by
      rw [String.toList_append, hs, hs', spell, spell, spell, List.flatMap_append]
    refine ⟨_, parse_of_spell happ, ?_⟩
    intro code context
    rw [render_of_spell (parse_of_spell happ) happ, render_of_spell ht hs,
      render_of_spell ht' hs', List.flatMap_append, String.ofList_append]

end Template
end TypeExchange
