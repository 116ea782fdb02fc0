import TypeExchange.Config.Basic
import TypeExchange.Proofs.Template.Grammar

/-! What a template does tells how it is written. Codes and contexts of one character keep the
places of the tokens, and two tokens that differ become different characters for some of them. -/
namespace TypeExchange

namespace TemplateToken

/-- What a token becomes where code and context have one character each. -/
def letter (code context : Char) : TemplateToken → Char
  | char c => c
  | .code => code
  | .context => context

theorem rendering_letter (a b : Char) (t : TemplateToken) :
    t.rendering [a] (some [b]) = [t.letter a b] := by
  cases t <;> rfl

/-- A character does not follow the code or the context, and these do not follow each other. -/
theorem eq_of_letter_eq {t u : TemplateToken} (h : ∀ a b, t.letter a b = u.letter a b) : t = u := by
  have hx := h 'a' 'a'
  have hy := h 'b' 'b'
  have hz := h 'a' 'b'
  cases t with
  | char c =>
    cases u with
    | char d => exact congrArg char hx
    | code | context => exact absurd (hx.symm.trans hy) (by decide)
  | code =>
    cases u with
    | char d => exact absurd (hx.trans hy.symm) (by decide)
    | code => rfl
    | context => exact absurd hz (by decide)
  | context =>
    cases u with
    | char d => exact absurd (hx.trans hy.symm) (by decide)
    | code => exact absurd hz (by decide)
    | context => rfl

theorem flatMap_rendering_letter (a b : Char) (ts : List TemplateToken) :
    ts.flatMap (rendering [a] (some [b])) = ts.map (letter a b) := by
  induction ts with
  | nil => rfl
  | cons t ts ih => rw [List.flatMap_cons, ih, rendering_letter]; rfl

theorem eq_of_map_letter_eq {ts us : List TemplateToken}
    (h : ∀ a b, ts.map (letter a b) = us.map (letter a b)) : ts = us := by
  induction ts generalizing us with
  | nil => exact (List.map_eq_nil_iff.mp (h 'a' 'a').symm).symm
  | cons t ts ih =>
    cases us with
    | nil => exact absurd (h 'a' 'a') (by simp)
    | cons u us =>
      have hcons := fun a b => List.cons.inj (h a b)
      rw [eq_of_letter_eq fun a b => (hcons a b).1, ih fun a b => (hcons a b).2]

end TemplateToken

namespace Template

section
variable {s s' : String} {t t' : Template}

theorem source_of_parse (h : parse s = .ok t) : t.source = s := by
  obtain ⟨ts, -, rfl⟩ := parse_eq_ok_iff.mp h
  rfl

theorem source_eq_of_renders_alike (h : parse s = .ok t) (h' : parse s' = .ok t')
    (hr : ∀ code context, t.render code context = t'.render code context) : s = s' := by
  obtain ⟨ts, hs, -⟩ := parse_eq_ok_iff.mp h
  obtain ⟨us, hs', -⟩ := parse_eq_ok_iff.mp h'
  have hletters : ∀ a b,
      ts.map (TemplateToken.letter a b) = us.map (TemplateToken.letter a b) := by
    intro a b
    have hab := hr (String.ofList [a]) (some (String.ofList [b]))
    rw [render_of_spell h hs, render_of_spell h' hs', String.ofList_inj] at hab
    simpa only [Option.map_some, String.toList_ofList,
      TemplateToken.flatMap_rendering_letter] using hab
  rw [← String.toList_inj, hs, hs', TemplateToken.eq_of_map_letter_eq hletters]

theorem renders_alike_iff (h : parse s = .ok t) (h' : parse s' = .ok t') :
    (∀ code context, t.render code context = t'.render code context) ↔ s = s' := by
  constructor
  · exact source_eq_of_renders_alike h h'
  · rintro rfl
    obtain rfl := Except.ok.inj (h.symm.trans h')
    exact fun _ _ => rfl

theorem eq_iff_source_eq (h : parse s = .ok t) (h' : parse s' = .ok t') : t = t' ↔ s = s' := by
  constructor
  · rintro rfl
    exact (source_of_parse h).symm.trans (source_of_parse h')
  · rintro rfl
    exact Except.ok.inj (h.symm.trans h')

end

theorem parse_identity : parse identity.source = .ok identity := by
  decide

theorem render_identity (code : String) (context : Option String) :
    identity.render code context = code := by
  simp [identity, render, renderSegment]

/-- Two templates do the same for every code and every context where they are written the same,
which is where they are equal. One text only gives back every code: the template of rules that
name none. -/
theorem renderings_determine_source :
    (∀ s s' t t', parse s = .ok t → parse s' = .ok t' →
      ((∀ code context, t.render code context = t'.render code context) ↔ s = s') ∧
      ((t == t') = true ↔ ∀ code context, t.render code context = t'.render code context)) ∧
    (∀ s t, parse s = .ok t →
      ((∀ code context, (Converter.ofTemplate t).convert code context =
        Converter.identity.convert code context) ↔ s = "\x7bcode\x7d")) ∧
    parse "\x7bcode\x7d" = .ok identity ∧ defaultConvert = "\x7bcode\x7d" := by
  refine ⟨?_, ?_, parse_identity, rfl⟩
  · intro s s' t t' h h'
    refine ⟨renders_alike_iff h h', ?_⟩
    rw [beq_iff_eq, eq_iff_source_eq h h', renders_alike_iff h h']
  · intro s t h
    have hid : (∀ code context, (Converter.ofTemplate t).convert code context =
        Converter.identity.convert code context) ↔
        ∀ code context, t.render code context = identity.render code context := by
      simp only [render_identity, Converter.ofTemplate, Converter.identity]
    rw [hid, renders_alike_iff h parse_identity]
    rfl

end Template
end TypeExchange
