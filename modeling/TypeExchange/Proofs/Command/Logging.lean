import Mathlib.Tactic.Common
import TypeExchange.Proofs.Command.Reading

/-! The options about logging. A line on which one of them has another value, or is left out, asks
for the same. -/
namespace TypeExchange
namespace Command

/-- The options that change nothing but the log. -/
def logging : List String := ["verbosity", "log-format"]

namespace Reading

variable {g : Grammar} {q r : Reading}

/-- `q` has been given what `r` has been given, but options about logging may be missing or have
other values. -/
structure Quieter (q r : Reading) : Prop where
  flags : q.flags = r.flags
  operands : q.operands = r.operands
  pending : q.pending = r.pending
  values : ∀ name, q.values.lookup name = r.values.lookup name ∨
    name ∈ logging ∧ (r.values.lookup name).isSome

/-- Where `y` gives a reading, `x` gives a quieter one. -/
def Follows (x y : Except Stop Reading) : Prop :=
  ∀ r, y = .ok r → ∃ q, x = .ok q ∧ q.Quieter r

theorem Quieter.follows (h : q.Quieter r) : Follows (.ok q) (.ok r) := by
  rintro _ ⟨⟩
  exact ⟨q, rfl, h⟩

theorem Quieter.withPending (h : q.Quieter r) (pending : Option (String × Option String)) :
    Quieter { q with pending } { r with pending } :=
  ⟨h.flags, h.operands, rfl, h.values⟩

theorem follows_error (x : Except Stop Reading) (stop : Stop) : Follows x (.error stop) := by
  intro r h
  contradiction

theorem Follows.bind {x y : Except Stop Reading} {f f' : Reading → Except Stop Reading}
    (h : Follows x y) (hf : ∀ q r, q.Quieter r → Follows (f q) (f' r)) :
    Follows (x >>= f) (y >>= f') := by
  intro t ht
  obtain ⟨r, rfl, ht⟩ := bind_eq_ok_iff.mp ht
  obtain ⟨q, rfl, hq⟩ := h r rfl
  exact hf q r hq t ht

theorem Quieter.give (h : q.Quieter r) (name value : String) :
    Follows (q.give g name value) (r.give g name value) := by
  intro s hs
  obtain ⟨hnone, hpermits, rfl⟩ := give_eq_ok_iff.mp hs
  have hq : q.values.lookup name = none := by
    rcases h.values name with hname | ⟨-, hsome⟩
    · rw [hname, hnone]
    · simp [hnone] at hsome
  refine ⟨_, give_eq_ok_iff.mpr ⟨hq, hpermits, rfl⟩, h.flags, h.operands, h.pending, ?_⟩
  intro other
  simp only [List.lookup_append]
  rcases h.values other with hother | ⟨hother, hsome⟩
  · exact .inl (by rw [hother])
  · exact .inr ⟨hother, by simp [Option.isSome_or, hsome]⟩

theorem Quieter.settle (h : q.Quieter r) : Follows (q.settle g) (r.settle g) := by
  rw [Reading.settle, Reading.settle, h.pending]
  split
  · exact h.follows
  · exact follows_error _ _
  · exact (h.withPending none).give _ _

theorem Quieter.raise (h : q.Quieter r) (name : String) :
    Follows (q.raise g name) (r.raise g name) := by
  refine h.settle.bind fun q r h => ?_
  rw [h.flags]
  dsimp only
  split
  · exact follows_error _ .help
  split
  · exact follows_error _ .version
  split
  · exact follows_error _ .usage
  · exact Quieter.follows ⟨rfl, h.operands, h.pending, h.values⟩

theorem Quieter.option (h : q.Quieter r) (name : String) (value : Option String) :
    Follows (q.option g name value) (r.option g name value) := by
  cases value with
  | some value => exact h.settle.bind fun q r h => h.give name value
  | none =>
    exact h.settle.bind fun q r h => (h.withPending _).follows

theorem Quieter.operand (h : q.Quieter r) (word : String) :
    Follows (q.operand g word) (r.operand g word) := by
  refine h.settle.bind fun q r h => ?_
  rw [h.operands]
  split
  · exact Quieter.follows ⟨h.flags, rfl, h.pending, h.values⟩
  · exact follows_error _ .usage

theorem Quieter.long (h : q.Quieter r) (text : List Char) :
    Follows (q.long g text) (r.long g text) := by
  unfold Reading.long
  extract_lets name value
  split
  · exact h.option _ _
  split
  · exact h.raise _
  · exact follows_error _ _

theorem Quieter.short (h : q.Quieter r) (letters : List Char) :
    Follows (q.short g letters) (r.short g letters) := by
  induction letters generalizing q r with
  | nil => exact h.follows
  | cons c letters ih =>
    unfold Reading.short
    split
    · exact follows_error _ _
    split
    · exact h.option _ _
    · exact (h.raise _).bind fun q r h => ih h

theorem Quieter.foldlM_operand (h : q.Quieter r) (words : List String) :
    Follows (words.foldlM (Reading.operand g) q) (words.foldlM (Reading.operand g) r) := by
  induction words generalizing q r with
  | nil => exact h.follows
  | cons word words ih =>
    rw [List.foldlM_cons, List.foldlM_cons]
    exact (h.operand word).bind fun q r h => ih h

end Reading

namespace Grammar

variable {g : Grammar} {q r s : Reading}

theorem read_of_quieter {words rest : List String} (h : q.Quieter r)
    (hr : g.read r words = .ok (s, rest)) : ∃ t, g.read q words = .ok (t, rest) ∧ t.Quieter s := by
  induction words generalizing q r with
  | nil =>
    cases hr
    exact ⟨q, rfl, h⟩
  | cons word words ih =>
    -- How a word is read depends on what is pending, which is the same for both readings.
    rw [read] at hr ⊢
    rw [h.pending]
    split at hr
    · obtain ⟨s, hs, ⟨⟩⟩ := bind_eq_ok_iff.mp hr
      obtain ⟨t, ht, hq⟩ := h.foldlM_operand words s hs
      exact ⟨t, by rw [ht]; rfl, hq⟩
    · obtain ⟨s, hs, hr⟩ := bind_eq_ok_iff.mp hr
      obtain ⟨t, ht, hq⟩ := h.long _ s hs
      rw [ht]
      exact ih hq hr
    · obtain ⟨s, hs, hr⟩ := bind_eq_ok_iff.mp hr
      obtain ⟨t, ht, hq⟩ := h.short _ s hs
      rw [ht]
      exact ih hq hr
    · exact ih (h.withPending _) hr
    · split at hr
      next hverb =>
        cases hr
        exact ⟨q, if_pos hverb, h⟩
      next hverb =>
        obtain ⟨s, hs, hr⟩ := bind_eq_ok_iff.mp hr
        obtain ⟨t, ht, hq⟩ := h.operand word s hs
        rw [if_neg hverb, ht]
        exact ih hq hr

theorem readSettled_of_quieter {words rest : List String} (h : q.Quieter r)
    (hr : g.readSettled r words = .ok (s, rest)) :
    ∃ t, g.readSettled q words = .ok (t, rest) ∧ t.Quieter s := by
  obtain ⟨u, hu, hs⟩ := readSettled_eq_ok_iff.mp hr
  obtain ⟨v, hv, hq⟩ := read_of_quieter h hu
  obtain ⟨t, ht, hq⟩ := hq.settle s hs
  exact ⟨t, readSettled_eq_ok_iff.mpr ⟨v, hv, ht⟩, hq⟩

end Grammar

/-- The words that give a logging option its value, which is in the same word or in the next. -/
inductive Logs (name value : String) : List String → Prop
  | joined : Logs name value ["--" ++ name ++ "=" ++ value]
  | apart (plain : Shape.ofWord value = .plain) : Logs name value ["--" ++ name, value]

theorem mem_logging {name : String} :
    name ∈ logging ↔ name = "verbosity" ∨ name = "log-format" := by
  simp [logging]

section
variable {name value : String} (hname : name ∈ logging)
include hname

theorem ofWord_logging : Shape.ofWord ("--" ++ name) = .long name.toList := by
  rcases mem_logging.mp hname with rfl | rfl <;> rfl

theorem ofWord_logging_joined : Shape.ofWord ("--" ++ name ++ "=" ++ value) =
    .long (name.toList ++ '=' :: value.toList) := by
  rcases mem_logging.mp hname with rfl | rfl <;> simp [Shape.ofWord]

theorem long_logging (r : Reading) : r.long grammar name.toList = r.option grammar name none := by
  rcases mem_logging.mp hname with rfl | rfl <;> rfl

theorem long_logging_joined (r : Reading) :
    r.long grammar (name.toList ++ '=' :: value.toList) = r.option grammar name (some value) := by
  rcases mem_logging.mp hname with rfl | rfl <;> simp [Reading.long, grammar]

theorem permits_logging : grammar.permits name value = true := by
  rcases mem_logging.mp hname with rfl | rfl <;> rfl

theorem bind_give_logging {α : Type} {r : Reading} {act : Reading → Except Stop α} {x : α} :
    (r.give grammar name value >>= act) = .ok x ↔ r.values.lookup name = none ∧
      act { r with values := r.values ++ [(name, value)] } = .ok x := by
  simp only [bind_eq_ok_iff, Reading.give_eq_ok_iff, permits_logging hname, true_and]
  constructor
  · rintro ⟨_, ⟨hnone, rfl⟩, hx⟩
    exact ⟨hnone, hx⟩
  · rintro ⟨hnone, hx⟩
    exact ⟨_, ⟨hnone, rfl⟩, hx⟩

/-- An option about logging may be given once. The line is read on with its value. -/
theorem readSettled_logs {r : Reading} {given rest : List String} {x : Reading × List String}
    (h : Logs name value given) : grammar.readSettled r (given ++ rest) = .ok x ↔
      ∃ s, r.settle grammar = .ok s ∧ s.values.lookup name = none ∧
        grammar.readSettled { s with values := s.values ++ [(name, value)] } rest = .ok x := by
  cases h with
  | joined =>
    rw [List.singleton_append, Grammar.readSettled_long _ (ofWord_logging_joined hname),
      long_logging_joined hname, Reading.option, bind_assoc, bind_eq_ok_iff]
    exact exists_congr fun s => and_congr_right fun _ => bind_give_logging hname
  | apart plain =>
    rw [List.cons_append, List.singleton_append,
      Grammar.readSettled_long _ (ofWord_logging hname), long_logging hname, Reading.option,
      bind_assoc, bind_eq_ok_iff]
    refine exists_congr fun s => and_congr_right fun hs => ?_
    rw [pure_bind, Grammar.readSettled_value rest plain rfl]
    refine (Grammar.settles_readSettled (by simp) rest x).trans ?_
    have hnone : { s with pending := none } = s := by rw [← Reading.pending_of_settle hs]
    rw [← bind_eq_ok_iff, Reading.settle, hnone]
    exact bind_give_logging hname

end

/-- No verb stands among the words. -/
def BeforeVerb (words : List String) : Prop :=
  ∀ r rest, grammar.read {} words = .ok (r, rest) → rest = []

/-- The second line differs from the first in one option in front of the verb: an option about
logging has another value, or is left out. -/
inductive Relogged : List String → List String → Prop
  | changed {name value value' : String} {pre given given' post : List String}
      (hname : name ∈ logging) (before : BeforeVerb pre) (hgiven : Logs name value given)
      (hgiven' : Logs name value' given') : Relogged (pre ++ given ++ post) (pre ++ given' ++ post)
  | omitted {name value : String} {pre given post : List String} (hname : name ∈ logging)
      (before : BeforeVerb pre) (hgiven : Logs name value given) :
      Relogged (pre ++ given ++ post) (pre ++ post)

theorem lookup_given_of_ne {values : List (String × String)} {name value other : String}
    (h : other ≠ name) : (values ++ [(name, value)]).lookup other = values.lookup other := by
  have hother : (other == name) = false := beq_eq_false_iff_ne.mpr h
  simp [List.lookup_append, List.lookup_cons, hother]

/-- It does not matter what an option about logging is given, or that it is given. -/
theorem quieter_given {r : Reading} {name value : String} {values : List (String × String)}
    (hname : name ∈ logging) (h : ∀ other, other ≠ name →
      values.lookup other = r.values.lookup other) :
    Reading.Quieter { r with values } { r with values := r.values ++ [(name, value)] } := by
  refine ⟨rfl, rfl, rfl, fun other => ?_⟩
  by_cases hother : other = name
  · subst hother
    exact .inr ⟨hname, by simp [List.lookup_append]⟩
  · exact .inl ((h other hother).trans (lookup_given_of_ne hother).symm)

/-- Up to an option about logging a line is read to a point where all options can be checked. -/
theorem exists_reading_before {name value : String} {pre given post : List String}
    {x : Reading × List String} (hname : name ∈ logging) (before : BeforeVerb pre)
    (hgiven : Logs name value given)
    (h : grammar.readSettled {} (pre ++ given ++ post) = .ok x) :
    ∃ r s, (∀ words, grammar.readSettled {} (pre ++ words) = grammar.readSettled r words) ∧
      r.settle grammar = .ok s ∧ s.values.lookup name = none ∧
      grammar.readSettled { s with values := s.values ++ [(name, value)] } post = .ok x := by
  have hne : given ++ post ≠ [] := by
    cases hgiven <;> exact List.cons_ne_nil _ _
  rw [List.append_assoc] at h
  obtain ⟨r, hr⟩ := Grammar.exists_readSettled_append rfl before hne h
  rw [hr] at h
  obtain ⟨s, hs, hnone, h⟩ := (readSettled_logs hname hgiven).mp h
  exact ⟨r, s, hr, hs, hnone, h⟩

theorem readSettled_relogged {words words' rest : List String} {t : Reading}
    (h : Relogged words words') (ht : grammar.readSettled {} words = .ok (t, rest)) :
    ∃ q, grammar.readSettled {} words' = .ok (q, rest) ∧ q.Quieter t := by
  cases h with
  | changed hname before hgiven hgiven' =>
    obtain ⟨r, s, hr, hs, hnone, ht⟩ := exists_reading_before hname before hgiven ht
    obtain ⟨q, hq, hquiet⟩ := Grammar.readSettled_of_quieter
      (quieter_given hname fun other hother => lookup_given_of_ne hother) ht
    refine ⟨q, ?_, hquiet⟩
    rw [List.append_assoc, hr]
    exact (readSettled_logs hname hgiven').mpr ⟨s, hs, hnone, hq⟩
  | omitted hname before hgiven =>
    obtain ⟨r, s, hr, hs, -, ht⟩ := exists_reading_before hname before hgiven ht
    obtain ⟨q, hq, hquiet⟩ := Grammar.readSettled_of_quieter
      (quieter_given hname fun other hother => rfl) ht
    have hpending : ∀ name, r.pending ≠ some (name, none) := by
      intro name hp
      simp [Reading.settle, hp] at hs
    refine ⟨q, ?_, hquiet⟩
    rw [hr]
    exact (Grammar.settles_readSettled hpending _ _).mpr ⟨s, hs, hq⟩

end Command

/-- The options about logging change nothing but what is asked of the log. -/
theorem Invocation.ofArguments_relogged {words words' : List String} {i : Invocation}
    (h : Command.Relogged words words') (hi : ofArguments words = .ok i) :
    ∃ verbosity logFormat, ofArguments words' = .ok { i with verbosity, logFormat } := by
  obtain ⟨r, word, rest, verb, hr, hhelp, hverb, hcommand, htable, hjson, -, -⟩ :=
    ofArguments_eq_ok_iff.mp hi
  obtain ⟨q, hq, hquiet⟩ := Command.readSettled_relogged h hr
  have hlookup : q.values.lookup "table" = r.values.lookup "table" :=
    (hquiet.values "table").resolve_right fun hn => absurd hn.1 (by decide)
  refine ⟨(q.values.lookup "verbosity").getD "info", (q.values.lookup "log-format").getD "text",
    ofArguments_eq_ok_iff.mpr
      ⟨q, word, rest, verb, hq, hhelp, hverb, hcommand, ?_, ?_, rfl, rfl⟩⟩
  · rw [htable, hlookup]
  · rw [hjson, hquiet.flags]

end TypeExchange
