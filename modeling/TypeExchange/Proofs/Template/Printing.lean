import Mathlib.Data.List.Chain
import TypeExchange.Proofs.Template.Grammar

/-! Templates written out. The segments of a template are in normal form, and segments in normal
form are written in one way only, from which they are read back. -/
namespace TypeExchange

/-- Every brace twice and all else once. -/
def doubleBraces (cs : List Char) : List Char :=
  cs.flatMap fun c => if c = '\x7b' ∨ c = '\x7d' then [c, c] else [c]

namespace Segment

def isText : Segment → Bool
  | text _ => true
  | code | context => false

/-- How a segment is written. -/
def spelling : Segment → List Char
  | text cs => doubleBraces cs
  | code => ['\x7b', 'c', 'o', 'd', 'e', '\x7d']
  | context => ['\x7b', 'c', 'o', 'n', 't', 'e', 'x', 't', '\x7d']

/-- The tokens that a segment stands for. -/
def tokens : Segment → List TemplateToken
  | text cs => cs.map .char
  | code => [.code]
  | context => [.context]

end Segment

namespace Template

def print (segments : List Segment) : String :=
  String.ofList (segments.flatMap Segment.spelling)

/-- No text is empty, and no two texts are neighbours. -/
structure Normal (segments : List Segment) : Prop where
  nonempty : .text [] ∉ segments
  apart : segments.IsChain fun s t => ¬(s.isText = true ∧ t.isText = true)

theorem spell_map_char (cs : List Char) : spell (cs.map .char) = doubleBraces cs := by
  rw [spell, List.flatMap_map]
  rfl

theorem spell_tokens (s : Segment) : spell s.tokens = s.spelling := by
  cases s with
  | text cs => exact spell_map_char cs
  | code => rfl
  | context => rfl

theorem toList_print (segments : List Segment) :
    (print segments).toList = spell (segments.flatMap Segment.tokens) := by
  rw [print, String.toList_ofList]
  induction segments with
  | nil => rfl
  | cons s rest ih => rw [List.flatMap_cons, List.flatMap_cons, spell_append, spell_tokens, ih]

section
variable {c : Char} {cs : List Char} {s : Segment} {rest : List Segment}

theorem normal_cons_iff :
    Normal (s :: rest) ↔ s ≠ .text [] ∧
      (∀ t ∈ rest.head?, ¬(s.isText = true ∧ t.isText = true)) ∧ Normal rest := by
  constructor
  · rintro ⟨hn, ha⟩
    obtain ⟨hs, hn⟩ := not_or.mp (mt List.mem_cons.mpr hn)
    obtain ⟨hh, ha⟩ := List.isChain_cons.mp ha
    exact ⟨Ne.symm hs, hh, hn, ha⟩
  · rintro ⟨hs, hh, hn, ha⟩
    refine ⟨?_, List.isChain_cons.mpr ⟨hh, ha⟩⟩
    rw [List.mem_cons]
    exact not_or.mpr ⟨Ne.symm hs, hn⟩

theorem consChar_of_not_text (h : ∀ t ∈ rest.head?, t.isText = false) :
    consChar c rest = .text [c] :: rest := by
  unfold consChar
  split
  next ds rest => exact absurd (h (.text ds) rfl) (by simp [Segment.isText])
  next => rfl

theorem normal_consChar (h : Normal rest) : Normal (consChar c rest) := by
  unfold consChar
  split
  next ds rest =>
    obtain ⟨-, hh, hr⟩ := normal_cons_iff.mp h
    exact normal_cons_iff.mpr ⟨by simp, hh, hr⟩
  next hn =>
    refine normal_cons_iff.mpr ⟨by simp, ?_, h⟩
    rintro (ds | _ | _) ht ⟨-, htext⟩
    · obtain ⟨rest, rfl⟩ := List.head?_eq_some_iff.mp ht
      exact hn ds rest rfl
    · contradiction
    · contradiction

theorem flatMap_tokens_consChar :
    (consChar c rest).flatMap Segment.tokens = .char c :: rest.flatMap Segment.tokens := by
  unfold consChar
  split <;> simp [Segment.tokens]

end

/-- Joining makes texts as long as they can be. -/
theorem normal_join (ts : List TemplateToken) : Normal (join ts) := by
  induction ts with
  | nil => exact ⟨by simp [join], List.isChain_nil⟩
  | cons t ts ih =>
    cases t with
    | char c => exact normal_consChar ih
    | code | context => exact normal_cons_iff.mpr ⟨by simp, by simp [Segment.isText], ih⟩

theorem flatMap_tokens_join (ts : List TemplateToken) :
    (join ts).flatMap Segment.tokens = ts := by
  induction ts with
  | nil => rfl
  | cons t ts ih =>
    cases t with
    | char c => rw [join, flatMap_tokens_consChar, ih]
    | code | context => rw [join, List.flatMap_cons, ih]; rfl

/-- The characters of a text come together again where no text follows. -/
theorem join_text_append {cs : List Char} {ts : List TemplateToken} (hcs : cs ≠ [])
    (h : ∀ t ∈ (join ts).head?, t.isText = false) :
    join (cs.map .char ++ ts) = .text cs :: join ts := by
  induction cs with
  | nil => contradiction
  | cons c cs ih =>
    rw [List.map_cons, List.cons_append, join]
    cases cs with
    | nil => exact consChar_of_not_text h
    | cons d cs => rw [ih (by simp), consChar]

theorem join_flatMap_tokens {segments : List Segment} (h : Normal segments) :
    join (segments.flatMap Segment.tokens) = segments := by
  induction segments with
  | nil => rfl
  | cons s rest ih =>
    obtain ⟨hs, hh, hr⟩ := normal_cons_iff.mp h
    have hrest := ih hr
    rw [List.flatMap_cons]
    cases s with
    | text cs =>
      have hhead : ∀ t ∈ (join (rest.flatMap Segment.tokens)).head?, t.isText = false := by
        rw [hrest]
        intro t ht
        simpa [Segment.isText] using hh t ht
      rw [Segment.tokens, join_text_append (by simpa using hs) hhead, hrest]
    | code | context => rw [Segment.tokens, List.singleton_append, join, hrest]

/-- Reading and writing undo each other, on texts that are templates and on segments in normal
form. -/
theorem parse_eq_ok_iff_print {s : String} {t : Template} :
    parse s = .ok t ↔ t.source = s ∧ Normal t.segments ∧ print t.segments = s := by
  rw [parse_eq_ok_iff]
  constructor
  · rintro ⟨ts, hs, rfl⟩
    refine ⟨rfl, normal_join ts, ?_⟩
    rw [← String.toList_inj, toList_print, flatMap_tokens_join, hs]
  · rintro ⟨rfl, hn, hp⟩
    refine ⟨t.segments.flatMap Segment.tokens, ?_, ?_⟩
    · rw [← toList_print, hp]
    · rw [join_flatMap_tokens hn]

theorem flatMap_rendering_map_char (code : List Char) (context : Option (List Char))
    (cs : List Char) : (cs.map .char).flatMap (TemplateToken.rendering code context) = cs := by
  rw [List.flatMap_map]
  exact List.flatMap_singleton' cs

/-- A template is in normal form and is written as the text it was read from. Segments in normal
form are read back from what is written for them, whatever their texts hold, and a text with its
braces doubled is a template for itself. -/
theorem parse_print_inverse :
    (∀ s t, parse s = .ok t → Normal t.segments ∧ print t.segments = s) ∧
    (∀ segments, Normal segments →
      parse (print segments) = .ok ⟨print segments, segments⟩) ∧
    ∀ text : String, ∃ t, parse (String.ofList (doubleBraces text.toList)) = .ok t ∧
      ∀ code context, t.render code context = text := by
  refine ⟨?_, ?_, ?_⟩
  · intro s t h
    obtain ⟨-, hn, hp⟩ := parse_eq_ok_iff_print.mp h
    exact ⟨hn, hp⟩
  · intro segments hn
    exact parse_eq_ok_iff_print.mpr ⟨rfl, hn, rfl⟩
  · intro text
    have hs : (String.ofList (doubleBraces text.toList)).toList =
        spell (text.toList.map .char) := by
      rw [String.toList_ofList, spell_map_char]
    refine ⟨_, parse_of_spell hs, ?_⟩
    intro code context
    rw [render_of_spell (parse_of_spell hs) hs, flatMap_rendering_map_char, String.ofList_toList]

/-- Braces of a text stay apart from the placeholder beside them. -/
example : print [.text ['\x7b'], .code, .text ['\x7d', 'c']] = "\x7b\x7b\x7bcode\x7d\x7d\x7dc" := by
  decide

end Template
end TypeExchange
