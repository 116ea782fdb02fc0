import TypeExchange.Pattern
import TypeExchange.Proofs.Regex.Language

/-! The names that a pattern accepts, as the language of a plain expression. -/
namespace TypeExchange

namespace Pattern

/-- The plain expression for the names that a pattern accepts, if it asks for whole names. -/
def plain? : Pattern → Option Regex
  | literal name => some (.word name.toList .empty)
  | expression _ r => r.whole?.filter Regex.isPlain

/-- The plain expression of a text does not depend on how the text is known to be valid. -/
theorem plain?_ofValid {text : String} {valid : (Regex.ofText text).isOk = true} {s : Regex}
    (h : (ofExpression text).toOption.bind plain? = some s) :
    (ofValid text valid).plain? = some s := by
  unfold ofValid
  split
  next r hr _ =>
    rw [ofExpression, hr] at h
    exact h

theorem accepts_iff_mem_language {p : Pattern} {s : Regex} (h : p.plain? = some s)
    {name : String} : p.accepts name = true ↔ name.toList ∈ s.language := by
  cases p with
  | literal known =>
    obtain rfl := Option.some.inj h
    have hw : name.toList ∈ (Regex.word known.toList .empty).language ↔
        name.toList = known.toList := by
      simp [Regex.mem_language_word, Regex.language]
    rw [hw, String.toList_inj, accepts, beq_iff_eq, eq_comm]
  | expression text r =>
    obtain ⟨hr, hs⟩ := Option.filter_eq_some_iff.mp h
    exact Regex.isMatch_iff_mem_language hr hs

theorem accepts_iff_eq {p : Pattern} {known name : String}
    (h : p.plain? = some (.word known.toList .empty)) : p.accepts name = true ↔ name = known := by
  simp [accepts_iff_mem_language h, Regex.mem_language_word, Regex.language, String.toList_inj]

/-- A pattern accepts the names of two others where its language is that of both. -/
theorem accepts_eq_or {p q r : Pattern} {s u v : Regex} (hp : p.plain? = some s)
    (hq : q.plain? = some u) (hr : r.plain? = some v) (h : s.language = u.language + v.language)
    (name : String) : p.accepts name = (q.accepts name || r.accepts name) := by
  rw [Bool.eq_iff_iff, Bool.or_eq_true, accepts_iff_mem_language hp, accepts_iff_mem_language hq,
    accepts_iff_mem_language hr, h, Language.mem_add]

end Pattern
end TypeExchange
