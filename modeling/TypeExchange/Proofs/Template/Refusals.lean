import TypeExchange.Proofs.Config.Compilation
import TypeExchange.Proofs.Template.Grammar

/-! Texts that are no templates. The fault lies behind the longest template that such a text begins
with, and what stands there tells which fault it is. -/
namespace TypeExchange.Template

/-- The fault of a text that begins with a brace of no token. -/
inductive Shows : List Char → TokenFault → Prop
  | unmatched (rest : List Char) : Shows ('\x7d' :: rest) .unmatchedBrace
  | unterminated {rest : List Char} (hopen : '\x7d' ∉ rest) :
      Shows ('\x7b' :: rest) .unterminated
  | unknown {name : List Char} (rest : List Char) (hfirst : '\x7d' ∉ name)
      (hcode : name ≠ ['c', 'o', 'd', 'e'])
      (hcontext : name ≠ ['c', 'o', 'n', 't', 'e', 'x', 't']) :
      Shows ('\x7b' :: (name ++ '\x7d' :: rest)) (.unknownPlaceholder name)

/-- No token begins the text. -/
def Stuck (r : List Char) : Prop :=
  ∀ (t : TemplateToken) (rest : List Char), r ≠ t.spelling ++ rest

theorem takeWhile_name {name : List Char} (h : '\x7d' ∉ name) (rest : List Char) :
    (name ++ '\x7d' :: rest).takeWhile (· != '\x7d') = name := by
  rw [List.takeWhile_append_of_pos, List.takeWhile_cons_of_neg (by simp), List.append_nil]
  intro c hc
  have hb : c ≠ '\x7d' := by
    rintro rfl
    exact h hc
  simpa using hb

theorem Shows.unique {r : List Char} {fault fault' : TokenFault} (h : Shows r fault)
    (h' : Shows r fault') : fault = fault' := by
  generalize hr : r = q at h'
  cases h with
  | unmatched rest =>
    cases h' with
    | unmatched => rfl
    | unterminated | unknown => simp at hr
  | unterminated hopen =>
    cases h' with
    | unmatched => simp at hr
    | unterminated => rfl
    | unknown => simp [(List.cons.inj hr).2] at hopen
  | unknown rest hfirst =>
    cases h' with
    | unmatched => simp at hr
    | unterminated hopen => simp [← (List.cons.inj hr).2] at hopen
    | unknown rest' hfirst' =>
      have hname := congrArg (List.takeWhile (· != '\x7d')) (List.cons.inj hr).2
      rw [takeWhile_name hfirst, takeWhile_name hfirst'] at hname
      rw [hname]

/-- A brace begins a character only where it is doubled. -/
theorem stuck_of_brace {brace : Char} {rest : List Char} (hb : brace = '\x7b' ∨ brace = '\x7d')
    (hdouble : ∀ rest', rest ≠ brace :: rest')
    (hcode : ∀ rest', brace :: rest ≠ TemplateToken.code.spelling ++ rest')
    (hcontext : ∀ rest', brace :: rest ≠ TemplateToken.context.spelling ++ rest') :
    Stuck (brace :: rest) := by
  rintro (c | _ | _) rest' he
  · by_cases hc : c = '\x7b' ∨ c = '\x7d'
    · rw [TemplateToken.spelling, if_pos hc] at he
      obtain ⟨rfl, hrest⟩ := List.cons.inj he
      exact hdouble rest' hrest
    · rw [TemplateToken.spelling, if_neg hc] at he
      obtain ⟨rfl, -⟩ := List.cons.inj he
      exact hc hb
  · exact hcode rest' he
  · exact hcontext rest' he

theorem stuck_unmatched {rest : List Char} (h : ∀ rest', rest ≠ '\x7d' :: rest') :
    Stuck ('\x7d' :: rest) :=
  stuck_of_brace (.inr rfl) h (by simp [TemplateToken.spelling]) (by simp [TemplateToken.spelling])

theorem stuck_open {rest : List Char} (hbrace : ∀ rest', rest ≠ '\x7b' :: rest')
    (hcode : ∀ rest', rest ≠ 'c' :: 'o' :: 'd' :: 'e' :: '\x7d' :: rest')
    (hcontext : ∀ rest',
      rest ≠ 'c' :: 'o' :: 'n' :: 't' :: 'e' :: 'x' :: 't' :: '\x7d' :: rest') :
    Stuck ('\x7b' :: rest) :=
  stuck_of_brace (.inl rfl) hbrace (fun rest' he => hcode rest' (List.cons.inj he).2)
    fun rest' he => hcontext rest' (List.cons.inj he).2

theorem exists_spell_append_cons (t : TemplateToken) {rest : List Char} {P : List Char → Prop}
    (h : ∃ ts r, rest = spell ts ++ r ∧ P r) :
    ∃ ts r, t.spelling ++ rest = spell ts ++ r ∧ P r := by
  obtain ⟨ts, r, rfl, hr⟩ := h
  exact ⟨t :: ts, r, by rw [spell_cons, List.append_assoc], hr⟩

/-- The tokens before a fault, and what it begins with. -/
theorem exists_stuck_of_tokens {s : List Char} {fault : TokenFault} (h : tokens s = .error fault) :
    ∃ ts r, s = spell ts ++ r ∧ Stuck r ∧ Shows r fault := by
  fun_induction tokens s with
  | case1 => contradiction
  | case2 rest ih => exact exists_spell_append_cons (.char '\x7b') (ih (map_eq_error_iff.mp h))
  | case3 rest ih => exact exists_spell_append_cons (.char '\x7d') (ih (map_eq_error_iff.mp h))
  | case4 rest ih => exact exists_spell_append_cons .code (ih (map_eq_error_iff.mp h))
  | case5 rest ih => exact exists_spell_append_cons .context (ih (map_eq_error_iff.mp h))
  | case6 rest hbrace hcode hcontext hclosed =>
    obtain rfl := Except.error.inj h
    refine ⟨[], _, rfl, stuck_open hbrace hcode hcontext, ?_⟩
    obtain ⟨name, rest, rfl, hfirst⟩ :=
      List.eq_append_cons_of_mem (List.contains_iff_mem.mp hclosed)
    rw [takeWhile_name hfirst]
    refine .unknown rest hfirst ?_ ?_
    · rintro rfl
      exact hcode rest rfl
    · rintro rfl
      exact hcontext rest rfl
  | case7 rest hbrace hcode hcontext hopen =>
    obtain rfl := Except.error.inj h
    refine ⟨[], _, rfl, stuck_open hbrace hcode hcontext, .unterminated ?_⟩
    exact fun hmem => hopen (List.contains_iff_mem.mpr hmem)
  | case8 rest hbrace =>
    obtain rfl := Except.error.inj h
    exact ⟨[], _, rfl, stuck_unmatched hbrace, .unmatched rest⟩
  | case9 c rest _ _ _ _ ho hc ih =>
    have hspelling : (TemplateToken.char c).spelling = [c] := if_neg (not_or.mpr ⟨ho, hc⟩)
    have hcons := exists_spell_append_cons (.char c) (ih (map_eq_error_iff.mp h))
    rwa [hspelling] at hcons

/-- A template does not reach into a text that no token begins. -/
theorem length_spell_le_of_stuck {ts us : List TemplateToken} {r w : List Char} (hr : Stuck r)
    (h : spell us ++ w = spell ts ++ r) : (spell us).length ≤ (spell ts).length := by
  rcases List.append_eq_append_iff.mp h with ⟨as, hts, -⟩ | ⟨bs, hus, hbs⟩
  · rw [hts, List.length_append]
    omega
  · -- The tokens of `us` beyond those of `ts` would begin `r`.
    have htokens : (tokens bs).map (ts ++ ·) = .ok us := by
      rw [← tokens_spell_append, ← hus]
      exact tokens_eq_ok_iff.mpr rfl
    obtain ⟨vs, hvs, -⟩ := map_eq_ok_iff.mp htokens
    rw [tokens_eq_ok_iff] at hvs
    cases vs with
    | nil =>
      rw [hus, hvs]
      exact Nat.le_of_eq (congrArg List.length (List.append_nil _))
    | cons v vs =>
      have hv : r = v.spelling ++ (spell vs ++ w) := by
        rw [hbs, hvs, spell_cons, List.append_assoc]
      exact absurd hv (hr v _)

/-- `u` is the longest template that `s` begins with, and `r` is what follows it. -/
structure LongestTemplate (s u r : String) : Prop where
  split : s = u ++ r
  accepted : ∃ t, parse u = .ok t
  longest : ∀ v w, s = v ++ w → (∃ t, parse v = .ok t) → v.length ≤ u.length

section
variable {s u r : String}

theorem accepted_iff : (∃ t, parse s = .ok t) ↔ ∃ ts, s.toList = spell ts := by
  simp only [parse_eq_ok_iff]
  constructor
  · rintro ⟨t, ts, hs, -⟩
    exact ⟨ts, hs⟩
  · rintro ⟨ts, hs⟩
    exact ⟨_, ts, hs, rfl⟩

theorem longestTemplate_of_stuck {ts : List TemplateToken} {rest : List Char}
    (hs : s.toList = spell ts ++ rest) (hr : Stuck rest) :
    LongestTemplate s (String.ofList (spell ts)) (String.ofList rest) := by
  refine ⟨?_, accepted_iff.mpr ⟨ts, String.toList_ofList⟩, ?_⟩
  · rw [← String.toList_inj, String.toList_append, String.toList_ofList, String.toList_ofList, hs]
  · rintro v w rfl hv
    obtain ⟨us, hus⟩ := accepted_iff.mp hv
    rw [String.toList_append, hus] at hs
    rw [← String.length_toList, ← String.length_toList, hus, String.toList_ofList]
    exact length_spell_le_of_stuck hr hs

theorem LongestTemplate.unique {u' r' : String} (h : LongestTemplate s u r)
    (h' : LongestTemplate s u' r') : u = u' ∧ r = r' := by
  have hlength := Nat.le_antisymm (h'.longest u r h.split h.accepted)
    (h.longest u' r' h'.split h'.accepted)
  have hsplit : u.toList ++ r.toList = u'.toList ++ r'.toList := by
    rw [← String.toList_append, ← String.toList_append, ← h.split, ← h'.split]
  rw [← String.length_toList, ← String.length_toList] at hlength
  obtain ⟨hu, hr⟩ := List.append_inj hsplit hlength
  exact ⟨String.toList_inj.mp hu, String.toList_inj.mp hr⟩

theorem TokenFault.within_injective {fault fault' : TokenFault}
    (h : fault.within s = fault'.within s) : fault = fault' := by
  cases fault <;> cases fault' <;> simp_all [TokenFault.within, String.ofList_inj]

theorem parse_eq_error_iff {fault : TemplateFault} :
    parse s = .error fault ↔ ∃ kind, tokens s.toList = .error kind ∧ fault = kind.within s := by
  unfold parse
  split
  next ts h => simp [h]
  next kind h => simp [h, eq_comm]

theorem parse_eq_within_iff {kind : TokenFault} :
    parse s = .error (kind.within s) ↔ tokens s.toList = .error kind := by
  rw [parse_eq_error_iff]
  constructor
  · rintro ⟨kind', h, hw⟩
    rw [h, TokenFault.within_injective hw]
  · intro h
    exact ⟨kind, h, rfl⟩

/-- What a text that is no template shows behind the longest template it begins with. -/
theorem exists_longest_of_parse {fault : TemplateFault} (h : parse s = .error fault) :
    ∃ u r kind, LongestTemplate s u r ∧ Shows r.toList kind ∧ fault = kind.within s := by
  obtain ⟨kind, hk, rfl⟩ := parse_eq_error_iff.mp h
  obtain ⟨ts, rest, hs, hstuck, hshows⟩ := exists_stuck_of_tokens hk
  exact ⟨_, _, kind, longestTemplate_of_stuck hs hstuck, by rwa [String.toList_ofList], rfl⟩

theorem longestTemplate_self (h : ∃ t, parse s = .ok t) : LongestTemplate s s "" := by
  refine ⟨by simp, h, ?_⟩
  rintro v w rfl -
  simp

theorem exists_longestTemplate (s : String) : ∃ u r, LongestTemplate s u r := by
  cases h : parse s with
  | ok t => exact ⟨s, "", longestTemplate_self ⟨t, h⟩⟩
  | error fault =>
    obtain ⟨u, r, kind, hl, -⟩ := exists_longest_of_parse h
    exact ⟨u, r, hl⟩

theorem LongestTemplate.parse_eq_error_iff {fault : TemplateFault} (h : LongestTemplate s u r) :
    parse s = .error fault ↔ ∃ kind, Shows r.toList kind ∧ fault = kind.within s := by
  constructor
  · intro hp
    obtain ⟨u', r', kind, hl, hshows, rfl⟩ := exists_longest_of_parse hp
    obtain ⟨-, rfl⟩ := h.unique hl
    exact ⟨kind, hshows, rfl⟩
  · rintro ⟨kind, hshows, rfl⟩
    cases hp : parse s with
    | ok t =>
      obtain ⟨-, rfl⟩ := h.unique (longestTemplate_self ⟨t, hp⟩)
      cases hshows
    | error fault =>
      obtain ⟨u', r', kind', hl, hshows', rfl⟩ := exists_longest_of_parse hp
      obtain ⟨-, rfl⟩ := h.unique hl
      rw [hshows.unique hshows']

/-- A template in front changes neither whether a text is refused nor why. -/
theorem parse_append_eq_within_iff {kind : TokenFault} (hu : ∃ t, parse u = .ok t) :
    parse (u ++ r) = .error (kind.within (u ++ r)) ↔ parse r = .error (kind.within r) := by
  obtain ⟨ts, hts⟩ := accepted_iff.mp hu
  rw [parse_eq_within_iff, parse_eq_within_iff, String.toList_append, hts, tokens_spell_append,
    map_eq_error_iff]

theorem parse_append_fails_iff (hu : ∃ t, parse u = .ok t) :
    (∃ fault, parse (u ++ r) = .error fault) ↔ ∃ fault, parse r = .error fault := by
  constructor
  · rintro ⟨fault, h⟩
    obtain ⟨kind, -, rfl⟩ := parse_eq_error_iff.mp h
    exact ⟨_, (parse_append_eq_within_iff hu).mp h⟩
  · rintro ⟨fault, h⟩
    obtain ⟨kind, -, rfl⟩ := parse_eq_error_iff.mp h
    exact ⟨_, (parse_append_eq_within_iff hu).mpr h⟩

end

/-- Every text begins with a longest template, and what follows it tells how the text is refused,
in a report that quotes the whole of it. A template in front of a text changes neither whether that
is refused nor why. -/
theorem refusals_located :
    (∀ s, ∃ u r, LongestTemplate s u r) ∧
    (∀ s u r, LongestTemplate s u r → ∀ e, parseConfig s = .error e ↔
      ∃ kind, Shows r.toList kind ∧ e = .config (.template (kind.within s))) ∧
    (∀ s, (ConfigFault.template (TokenFault.unmatchedBrace.within s)).text =
        "Unmatched '\x7d' in template '" ++ s ++ "'" ∧
      (ConfigFault.template (TokenFault.unterminated.within s)).text =
        "Unterminated placeholder in template '" ++ s ++ "'" ∧
      ∀ name, (ConfigFault.template ((TokenFault.unknownPlaceholder name).within s)).text =
        "Unknown placeholder '\x7b" ++ String.ofList name ++ "\x7d' in template '" ++ s ++
          "' (expected \x7bcode\x7d or \x7bcontext\x7d)") ∧
    ∀ u r, (∃ t, parse u = .ok t) →
      ((∃ fault, parse (u ++ r) = .error fault) ↔ ∃ fault, parse r = .error fault) ∧
      ∀ kind : TokenFault,
        parse (u ++ r) = .error (kind.within (u ++ r)) ↔ parse r = .error (kind.within r) := by
  refine ⟨exists_longestTemplate, ?_, fun s => ⟨rfl, rfl, fun name => rfl⟩, ?_⟩
  · intro s u r h e
    rw [parseConfig_eq_error_iff]
    constructor
    · intro hfails
      cases hfails with
      | template hp =>
        obtain ⟨kind, hshows, rfl⟩ := h.parse_eq_error_iff.mp hp
        exact ⟨kind, hshows, rfl⟩
    · rintro ⟨kind, hshows, rfl⟩
      exact .template (h.parse_eq_error_iff.mpr ⟨kind, hshows, rfl⟩)
  · intro u r hu
    exact ⟨parse_append_fails_iff hu, fun kind => parse_append_eq_within_iff hu⟩

/-- A name ends at the first closing brace, whatever is opened in it. -/
example : parse "\x7b\x7bco\x7bde\x7b\x7d\x7d" =
    .error (.unknownPlaceholder "de\x7b" "\x7b\x7bco\x7bde\x7b\x7d\x7d") := by decide

end TypeExchange.Template
