import Mathlib.Tactic.Common
import TypeExchange.Command.Invocation
import TypeExchange.Proofs.Results

/-! How a line is read. The last option in front of a word may be checked before the word is read,
and what stands behind some words is read from what those gave. -/
namespace TypeExchange
namespace Command
namespace Reading

variable {g : Grammar} {r s t : Reading}

theorem give_eq_ok_iff {name value : String} : r.give g name value = .ok s ↔
    r.values.lookup name = none ∧ g.permits name value = true ∧
      s = { r with values := r.values ++ [(name, value)] } := by
  unfold give
  split
  next h =>
    simp only [reduceCtorEq, false_iff]
    rintro ⟨hn, hp, -⟩
    simp [hn, hp] at h
  next h =>
    obtain ⟨hn, hp⟩ := not_or.mp h
    simp only [Option.not_isSome_iff_eq_none, Bool.not_eq_false] at hn hp
    simp [hn, hp, eq_comm]

theorem pending_of_settle (h : r.settle g = .ok s) : s.pending = none := by
  unfold settle at h
  split at h
  next hp =>
    cases h
    exact hp
  · contradiction
  · obtain ⟨-, -, rfl⟩ := give_eq_ok_iff.mp h
    rfl

theorem settle_of_pending (h : r.pending = none) : r.settle g = .ok r := by
  rw [settle, h]

/-- `act` begins with a check of the pending option, which may as well have been made before. -/
def Settles {α : Type} (g : Grammar) (r : Reading) (act : Reading → Except Stop α) : Prop :=
  ∀ x, act r = .ok x ↔ ∃ s, r.settle g = .ok s ∧ act s = .ok x

theorem settles_settle_bind {α : Type} (f : Reading → Except Stop α) :
    Settles g r fun r => r.settle g >>= f := by
  intro x
  rw [bind_eq_ok_iff]
  refine exists_congr fun s => and_congr_right fun h => ?_
  simp only [settle_of_pending (pending_of_settle h), ok_bind]

theorem settles_error {α : Type} (stop : Stop) :
    Settles g r fun _ => (.error stop : Except Stop α) := by
  intro x
  simp

theorem Settles.bind {α β : Type} {act : Reading → Except Stop α} (h : Settles g r act)
    (f : α → Except Stop β) : Settles g r fun r => act r >>= f := by
  intro x
  simp only [bind_eq_ok_iff]
  constructor
  · rintro ⟨a, ha, hx⟩
    obtain ⟨s, hs, ha⟩ := (h a).mp ha
    exact ⟨s, hs, a, ha, hx⟩
  · rintro ⟨s, hs, a, ha, hx⟩
    exact ⟨a, (h a).mpr ⟨s, hs, ha⟩, hx⟩

theorem Settles.congr {α : Type} {act act' : Reading → Except Stop α} (h : Settles g r act)
    (hr : ∀ name, r.pending ≠ some (name, none))
    (heq : ∀ s : Reading, (∀ name, s.pending ≠ some (name, none)) → act' s = act s) :
    Settles g r act' := by
  intro x
  rw [heq r hr, h x]
  refine exists_congr fun s => and_congr_right fun hs => ?_
  rw [heq s (by simp [pending_of_settle hs])]

theorem settles_raise (name : String) : Settles g r (raise g · name) :=
  settles_settle_bind _

theorem settles_option (name : String) (value : Option String) :
    Settles g r (option g · name value) := by
  cases value <;> exact settles_settle_bind _

theorem settles_operand (word : String) : Settles g r (operand g · word) :=
  settles_settle_bind _

theorem settles_long (text : List Char) : Settles g r (long g · text) := by
  unfold long
  extract_lets name value
  split_ifs
  · exact settles_option name value
  · exact settles_raise name
  · exact settles_error .usage

theorem settles_short (c : Char) (letters : List Char) :
    Settles g r (short g · (c :: letters)) := by
  unfold short
  split
  · exact settles_error .usage
  split_ifs
  · exact settles_option _ _
  · exact (settles_raise _).bind _

theorem operand_ne_ok (hg : g.operands = 0) {word : String} : r.operand g word ≠ .ok t := by
  intro h
  obtain ⟨s, -, h⟩ := bind_eq_ok_iff.mp h
  simp [hg, throw, throwThe, MonadExceptOf.throw] at h

end Reading

namespace Grammar

variable {g : Grammar} {r s : Reading}

/-- Reads a line up to a verb, and checks the last option in front of the verb. -/
def readSettled (g : Grammar) (r : Reading) (words : List String) :
    Except Stop (Reading × List String) := do
  let (r, rest) ← g.read r words
  return (← r.settle g, rest)

theorem readSettled_eq_ok_iff {words rest : List String} :
    g.readSettled r words = .ok (s, rest) ↔
      ∃ t, g.read r words = .ok (t, rest) ∧ t.settle g = .ok s := by
  constructor
  · intro h
    obtain ⟨⟨t, after⟩, ht, h⟩ := bind_eq_ok_iff.mp h
    obtain ⟨u, hu, ⟨⟩⟩ := bind_eq_ok_iff.mp h
    exact ⟨t, ht, hu⟩
  · rintro ⟨t, ht, hs⟩
    simp only [readSettled, ht, hs, ok_bind]
    rfl

theorem ofWord_short {word : String} {letters : List Char}
    (h : Shape.ofWord word = .short letters) : ∃ c rest, letters = c :: rest := by
  unfold Shape.ofWord at h
  split at h <;> cases h
  exact ⟨_, _, rfl⟩

section
variable {word : String} (rest : List String)

theorem readSettled_separator (h : Shape.ofWord word = .separator) :
    g.readSettled r (word :: rest) =
      rest.foldlM (Reading.operand g) r >>= fun s => do return (← s.settle g, []) := by
  simp [readSettled, read, h]

theorem readSettled_long {text : List Char} (h : Shape.ofWord word = .long text) :
    g.readSettled r (word :: rest) = r.long g text >>= (g.readSettled · rest) := by
  simp [readSettled, read, h, bind_assoc]

theorem readSettled_short {letters : List Char} (h : Shape.ofWord word = .short letters) :
    g.readSettled r (word :: rest) = r.short g letters >>= (g.readSettled · rest) := by
  simp [readSettled, read, h, bind_assoc]

theorem readSettled_value {name : String} (h : Shape.ofWord word = .plain)
    (hr : r.pending = some (name, none)) : g.readSettled r (word :: rest) =
      g.readSettled { r with pending := some (name, some word) } rest := by
  simp [readSettled, read, h, hr]

theorem read_plain (h : Shape.ofWord word = .plain)
    (hr : ∀ name, r.pending ≠ some (name, none)) : g.read r (word :: rest) =
      if g.verbs.contains word then .ok (r, word :: rest)
      else r.operand g word >>= (g.read · rest) := by
  rcases hp : r.pending with _ | ⟨name, _ | value⟩
  case some.none => exact absurd hp (hr name)
  all_goals simp [read, h, hp]

theorem readSettled_plain (h : Shape.ofWord word = .plain)
    (hr : ∀ name, r.pending ≠ some (name, none)) : g.readSettled r (word :: rest) =
      if g.verbs.contains word then do return (← r.settle g, word :: rest)
      else r.operand g word >>= (g.readSettled · rest) := by
  rw [readSettled, read_plain rest h hr]
  split_ifs
  · rfl
  · simp [readSettled, bind_assoc]

end

/-- The option in front of a line may be checked before the line is read. -/
theorem settles_readSettled (hr : ∀ name, r.pending ≠ some (name, none)) (words : List String) :
    Reading.Settles g r (g.readSettled · words) := by
  cases words with
  | nil => exact Reading.settles_settle_bind fun s => pure (s, [])
  | cons word rest =>
    cases hw : Shape.ofWord word with
    | separator =>
      simp only [readSettled_separator rest hw]
      cases rest with
      | nil => exact Reading.settles_settle_bind fun s => pure (s, [])
      | cons word rest =>
        simp only [List.foldlM_cons, bind_assoc]
        exact (Reading.settles_operand word).bind _
    | long text =>
      simp only [readSettled_long rest hw]
      exact (Reading.settles_long text).bind _
    | short letters =>
      obtain ⟨c, letters, rfl⟩ := ofWord_short hw
      simp only [readSettled_short rest hw]
      exact (Reading.settles_short c letters).bind _
    | plain =>
      have h : Reading.Settles g r fun s =>
          if g.verbs.contains word then do return (← s.settle g, word :: rest)
          else s.operand g word >>= (g.readSettled · rest) := by
        split_ifs
        · exact Reading.settles_settle_bind fun s => pure (s, word :: rest)
        · exact (Reading.settles_operand word).bind _
      exact h.congr hr fun s hs => readSettled_plain rest hw hs

/-- Where no verb stands among the first words, the words behind them are read from what those
gave. -/
theorem exists_readSettled_append {pre post : List String} {x : Reading × List String}
    (hg : g.operands = 0) (hpre : ∀ s rest, g.read r pre = .ok (s, rest) → rest = [])
    (hpost : post ≠ []) (h : g.readSettled r (pre ++ post) = .ok x) :
    ∃ s, ∀ words, g.readSettled r (pre ++ words) = g.readSettled s words := by
  induction pre generalizing r with
  | nil => exact ⟨r, fun words => rfl⟩
  | cons word pre ih =>
    rw [List.cons_append] at h
    -- The word gives a reading from which the others go on.
    have hstep : ∀ s, (∀ words, g.readSettled r (word :: words) = g.readSettled s words) →
        (∀ words, g.read r (word :: words) = g.read s words) →
        ∃ t, ∀ words, g.readSettled r (word :: pre ++ words) = g.readSettled t words := by
      intro s hsettled hread
      rw [hsettled] at h
      obtain ⟨t, ht⟩ := ih (by rwa [hread] at hpre) h
      exact ⟨t, fun words => (hsettled _).trans (ht words)⟩
    cases hw : Shape.ofWord word with
    | separator =>
      -- All words behind a separator are operands, and there is at least one.
      rw [readSettled_separator _ hw] at h
      obtain ⟨s, hs, -⟩ := bind_eq_ok_iff.mp h
      obtain ⟨first, others, hwords⟩ :=
        List.exists_cons_of_ne_nil (List.append_ne_nil_of_right_ne_nil pre hpost)
      rw [hwords, List.foldlM_cons] at hs
      obtain ⟨t, ht, -⟩ := bind_eq_ok_iff.mp hs
      exact absurd ht (Reading.operand_ne_ok hg)
    | long text =>
      rw [readSettled_long _ hw] at h
      obtain ⟨s, hs, -⟩ := bind_eq_ok_iff.mp h
      refine hstep s (fun words => ?_) fun words => ?_
      · rw [readSettled_long _ hw, hs, ok_bind]
      · simp [read, hw, hs]
    | short letters =>
      rw [readSettled_short _ hw] at h
      obtain ⟨s, hs, -⟩ := bind_eq_ok_iff.mp h
      refine hstep s (fun words => ?_) fun words => ?_
      · rw [readSettled_short _ hw, hs, ok_bind]
      · simp [read, hw, hs]
    | plain =>
      by_cases hr : ∃ name, r.pending = some (name, none)
      · obtain ⟨name, hr⟩ := hr
        refine hstep _ (fun words => readSettled_value words hw hr) fun words => ?_
        simp [read, hw, hr]
      · have hr := not_exists.mp hr
        rw [readSettled_plain _ hw hr] at h
        split_ifs at h with hverb
        · have hread := read_plain (g := g) pre hw hr
          rw [if_pos hverb] at hread
          exact absurd (hpre _ _ hread) (List.cons_ne_nil word pre)
        · obtain ⟨t, ht, -⟩ := bind_eq_ok_iff.mp h
          exact absurd ht (Reading.operand_ne_ok hg)

end Grammar

end Command

theorem Invocation.ofArguments_eq_ok_iff {words : List String} {i : Invocation} :
    ofArguments words = .ok i ↔ ∃ r word rest verb,
      Command.grammar.readSettled {} words = .ok (r, word :: rest) ∧
      word ≠ Command.helpVerb ∧ Command.Verb.ofName? word = some verb ∧
      verb.read rest = .ok i.command ∧ i.table = r.values.lookup "table" ∧
      i.json = r.flags.contains "output-json" ∧
      i.verbosity = (r.values.lookup "verbosity").getD "info" ∧
      i.logFormat = (r.values.lookup "log-format").getD "text" := by
  simp only [Command.Grammar.readSettled_eq_ok_iff]
  constructor
  · intro h
    obtain ⟨⟨s, rest⟩, hs, h⟩ := bind_eq_ok_iff.mp h
    dsimp only at h
    split at h
    · contradiction
    split_ifs at h with hhelp
    · contradiction
    split at h
    · contradiction
    obtain ⟨command, hcommand, h⟩ := bind_eq_ok_iff.mp h
    obtain ⟨r, hr, h⟩ := bind_eq_ok_iff.mp h
    cases h
    exact ⟨r, _, _, _, ⟨s, hs, hr⟩, hhelp, ‹_›, hcommand, rfl, rfl, rfl, rfl⟩
  · rintro ⟨r, word, rest, verb, ⟨s, hs, hr⟩, hhelp, hverb, hcommand, hoptions⟩
    obtain ⟨htable, hjson, hlevel, hformat⟩ := hoptions
    obtain ⟨table, json, command, verbosity, logFormat⟩ := i
    dsimp only at hcommand htable hjson hlevel hformat
    subst htable hjson hlevel hformat
    simp [ofArguments, hs, hhelp, hverb, hcommand, hr]

end TypeExchange
