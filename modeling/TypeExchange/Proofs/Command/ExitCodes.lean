import TypeExchange.Proofs.Command.Lookups
import TypeExchange.Proofs.Command.Tally
import TypeExchange.Proofs.Config.Loading
import TypeExchange.Proofs.Table.Opposite

/-! Which exit code a run ends with. The stages of a run come in a fixed order, and the first that
fails decides, whatever the stages behind it would do. -/
namespace TypeExchange

theorem fromUTF8?_eq_some_iff {bytes : ByteArray} {text : String} :
    String.fromUTF8? bytes = some text ↔ bytes = text.toUTF8 := by
  unfold String.fromUTF8?
  split
  next h =>
    rw [Option.some_inj]
    constructor
    · rintro rfl
      rfl
    · rintro rfl
      rfl
  next h =>
    constructor
    · intro h'
      contradiction
    · rintro rfl
      exact absurd text.isValidUTF8 h

theorem fileText_eq_ok_iff {file : Except FileFault ByteArray} {text : String} :
    fileText file = .ok text ↔ file = .ok text.toUTF8 := by
  cases file with
  | error fault => simp [fileText]
  | ok bytes =>
    rw [fileText, Except.ok.injEq, ← fromUTF8?_eq_some_iff]
    cases String.fromUTF8? bytes <;> simp

theorem exists_fault_of_fileText {file : Except FileFault ByteArray}
    (h : ∀ text : String, file ≠ .ok text.toUTF8) :
    ∃ fault, fileText file = .error (.file fault) := by
  cases hf : fileText file with
  | ok text => exact absurd (fileText_eq_ok_iff.mp hf) (h text)
  | error e =>
    unfold fileText at hf
    split at hf
    next fault =>
      cases hf
      exact ⟨fault, rfl⟩
    next bytes =>
      split at hf
      · contradiction
      · cases hf
        exact ⟨.notUtf8, rfl⟩

/-- There is no text under a path: nothing can be read there, or it is not UTF-8. -/
def Unreadable (files : Files) (path : String) : Prop :=
  ∀ text : String, files path ≠ .ok text.toUTF8

namespace TableConfig

section
variable {text : String}

theorem exitCode_of_validate {c : TableConfig} {e : Failure} (h : c.validate = .error e) :
    e.exitCode = 1 := by
  unfold validate at h
  split at h <;> cases h
  rfl

theorem exitCode_of_ofYaml {e : Failure} (h : ofYaml text = .error e) : e.exitCode = 1 := by
  unfold ofYaml at h
  split at h
  next c hc =>
    rcases bind_eq_error_iff.mp h with h | ⟨_, _, h⟩
    · exact exitCode_of_validate h
    · contradiction
  next fault hf =>
    cases h
    rfl

theorem exitCode_of_build {c : TableConfig} {e : Failure} (h : c.build = .error e) :
    e.exitCode = 1 := by
  obtain ⟨place, component, hf⟩ := build_eq_error_iff.mp h
  cases hf.fails <;> rfl

theorem exitCode_of_load {e : Failure} (h : load text = .error e) : e.exitCode = 1 := by
  rcases bind_eq_error_iff.mp h with h | ⟨c, _, h⟩
  · exact exitCode_of_ofYaml h
  · exact exitCode_of_build h

end

end TableConfig

/-- The table that an invocation looks up in. -/
inductive Invocation.Uses (files : Files) (i : Invocation) : Table → Prop
  | builtin (h : i.table = none) : Uses files i Table.builtin
  | loaded {path text : String} {t : Table} (hp : i.table = some path)
      (hf : files path = .ok text.toUTF8) (ht : TableConfig.Gives text t) : Uses files i t

/-- The exit codes, by the first stage of a run that fails: the reading of the line, of the file of
a table and of the table in it, and the lookup. -/
inductive Exits (files : Files) (words : List String) : Nat → Prop
  | usage (h : Invocation.ofArguments words = .error .usage) : Exits files words 2
  | about {stop : Command.Stop} (h : Invocation.ofArguments words = .error stop)
      (hs : stop ≠ .usage) : Exits files words 0
  | unreadable {i : Invocation} {path : String} (hi : Invocation.ofArguments words = .ok i)
      (hp : i.table = some path) (h : Unreadable files path) : Exits files words 7
  | rejected {i : Invocation} {path text : String} (hi : Invocation.ofArguments words = .ok i)
      (hp : i.table = some path) (hf : files path = .ok text.toUTF8)
      (h : TableConfig.Rejected text) : Exits files words 1
  | unregistered {i : Invocation} {t : Table} {pair : SystemPair} {side : Side} {name : String}
      (hi : Invocation.ofArguments words = .ok i) (ht : i.Uses files t)
      (hl : i.command.lookup? = some (pair, side, name)) (h : t.hasPair pair = false) :
      Exits files words 4
  | unmatched {i : Invocation} {t : Table} {pair : SystemPair} {side : Side} {name : String}
      {rules : List Rule} (hi : Invocation.ofArguments words = .ok i) (ht : i.Uses files t)
      (hl : i.command.lookup? = some (pair, side, name)) (hr : t.rules pair = .ok rules)
      (h : ∀ r ∈ rules, r.accepts side name = false) : Exits files words 3
  | found {i : Invocation} {t : Table} {pair : SystemPair} {side : Side} {name : String}
      {rules : List Rule} {r : Rule} (hi : Invocation.ofArguments words = .ok i)
      (ht : i.Uses files t) (hl : i.command.lookup? = some (pair, side, name))
      (hr : t.rules pair = .ok rules) (hm : r ∈ rules) (h : r.accepts side name = true) :
      Exits files words 0
  | pairs {i : Invocation} {t : Table} (hi : Invocation.ofArguments words = .ok i)
      (ht : i.Uses files t) (hl : i.command = .pairs) : Exits files words 0

section
variable {t : Table} {command : Command} {pair : SystemPair} {side : Side} {name : String}

theorem Table.resolve_of_not_hasPair (h : t.hasPair pair = false) :
    t.resolve pair side name = .error (.unsupportedPair pair) := by
  rw [hasPair, Option.isSome_eq_false_iff, Option.isNone_iff_eq_none] at h
  apply resolve_eq_unsupported
  unfold Table.rules
  rw [h]

theorem Command.eq_pairs (h : command.lookup? = none) : command = .pairs := by
  cases command <;> simp [lookup?] at h ⊢

/-- A command fails as the lookup behind it does. -/
theorem Command.output_eq_error_iff (h : command.lookup? = some (pair, side, name)) (json : Bool)
    {e : Failure} : command.output t json = .error e ↔ t.resolve pair side name = .error e := by
  obtain ⟨describe, result, -, houtput⟩ := exists_resolved h
  rw [houtput, map_eq_error_iff]

theorem Command.output_isOk_iff (h : command.lookup? = some (pair, side, name)) (json : Bool) :
    (∃ text, command.output t json = .ok text) ↔ ∃ r, t.resolve pair side name = .ok r := by
  simp only [exists_ok_iff, ne_eq, output_eq_error_iff h]

end

namespace Invocation

variable {files : Files} {i : Invocation} {t : Table}

theorem loadTable_of_path {path : String} (h : i.table = some path) :
    i.loadTable files = fileText (files path) >>= TableConfig.load := by
  rw [loadTable, findTable, h]
  simp only [Logged.bind_result, Logged.load_result, Logged.build_result, Logged.log_result,
    Logged.pure_result, ok_bind, TableConfig.ofFile]
  cases fileText (files path) with
  | error fault => rfl
  | ok text =>
    rw [ok_bind, ok_bind, TableConfig.load]
    cases TableConfig.ofYaml text with
    | error e => rfl
    | ok c =>
      rw [ok_bind, ok_bind]
      cases c.build <;> rfl

theorem loadTable_of_unreadable {path : String} (hp : i.table = some path)
    (h : Unreadable files path) : ∃ fault, i.loadTable files = .error (.file fault) := by
  obtain ⟨fault, hf⟩ := exists_fault_of_fileText h
  exact ⟨fault, by rw [loadTable_of_path hp, hf, error_bind]⟩

theorem loadTable_of_text {path text : String} (hp : i.table = some path)
    (hf : files path = .ok text.toUTF8) : i.loadTable files = TableConfig.load text := by
  rw [loadTable_of_path hp, fileText_eq_ok_iff.mpr hf, ok_bind]

theorem loadTable_of_uses (h : i.Uses files t) : i.loadTable files = .ok t := by
  cases h with
  | builtin h =>
    rw [loadTable, findTable, h]
    rfl
  | loaded hp hf ht => rw [loadTable_of_text hp hf, TableConfig.load_eq_ok_iff.mpr ht]

end Invocation

namespace Outcome

variable {files : Files} {words : List String} {i : Invocation} {t : Table}

theorem exitCode_of_stop {stop : Command.Stop} (h : Invocation.ofArguments words = .error stop) :
    (ofArguments files words).exitCode = if stop = .usage then 2 else 0 := by
  rw [ofArguments, Run.ofArguments, h]
  cases stop <;> rfl

theorem ofArguments_eq (hi : Invocation.ofArguments words = .ok i) : ofArguments files words =
    .ofResult (i.loadTable files >>= fun t => i.command.output t i.json) := by
  rw [ofArguments, Run.ofArguments, hi]
  exact congrArg ofResult (i.run_result files)

theorem exitCode_of_load_error {e : Failure} (hi : Invocation.ofArguments words = .ok i)
    (he : i.loadTable files = .error e) : (ofArguments files words).exitCode = e.exitCode := by
  rw [ofArguments_eq hi, he]
  rfl

theorem exitCode_of_output_error {e : Failure} (hi : Invocation.ofArguments words = .ok i)
    (ht : i.Uses files t) (he : i.command.output t i.json = .error e) :
    (ofArguments files words).exitCode = e.exitCode := by
  rw [ofArguments_eq hi, Invocation.loadTable_of_uses ht, ok_bind, he]
  rfl

theorem exitCode_of_output {text : String} (hi : Invocation.ofArguments words = .ok i)
    (ht : i.Uses files t) (he : i.command.output t i.json = .ok text) :
    (ofArguments files words).exitCode = 0 := by
  rw [ofArguments_eq hi, Invocation.loadTable_of_uses ht, ok_bind, he]
  rfl

theorem exitCode_eq_of_exits {n : Nat} (h : Exits files words n) :
    (ofArguments files words).exitCode = n := by
  cases h with
  | usage h => rw [exitCode_of_stop h, if_pos rfl]
  | about h hs => rw [exitCode_of_stop h, if_neg hs]
  | unreadable hi hp h =>
    obtain ⟨fault, he⟩ := Invocation.loadTable_of_unreadable hp h
    rw [exitCode_of_load_error hi he]
    rfl
  | @rejected i path text hi hp hf h =>
    cases hl : TableConfig.load text with
    | ok t => exact absurd (TableConfig.load_eq_ok_iff.mp hl) h.not_gives
    | error e =>
      rw [exitCode_of_load_error hi ((Invocation.loadTable_of_text hp hf).trans hl),
        TableConfig.exitCode_of_load hl]
  | unregistered hi ht hl h =>
    rw [exitCode_of_output_error hi ht
      ((Command.output_eq_error_iff hl _).mpr (Table.resolve_of_not_hasPair h))]
    rfl
  | unmatched hi ht hl hr h =>
    rw [exitCode_of_output_error hi ht
      ((Command.output_eq_error_iff hl _).mpr (Table.resolve_eq_noMatch hr h))]
    rfl
  | found hi ht hl hr hm h =>
    have hfound := (Table.exists_resolve_iff hr).mpr ⟨_, hm, h⟩
    obtain ⟨text, ho⟩ := (Command.output_isOk_iff hl _).mpr hfound
    exact exitCode_of_output hi ht ho
  | pairs hi ht hl => exact exitCode_of_output hi ht (hl ▸ Table.output_pairs _ _)

/-- Every run ends in one of these ways. -/
theorem exists_exits (files : Files) (words : List String) : ∃ n, Exits files words n := by
  cases hi : Invocation.ofArguments words with
  | error stop =>
    by_cases hs : stop = .usage
    · exact ⟨2, .usage (hs ▸ hi)⟩
    · exact ⟨0, .about hi hs⟩
  | ok i =>
    suffices h : ∀ t, i.Uses files t → ∃ n, Exits files words n by
      cases hp : i.table with
      | none => exact h _ (.builtin hp)
      | some path =>
        by_cases hf : Unreadable files path
        · exact ⟨7, .unreadable hi hp hf⟩
        obtain ⟨text, hf⟩ := not_forall_not.mp hf
        rcases TableConfig.gives_or_rejected text with ⟨t, ht⟩ | hr
        · exact h t (.loaded hp hf ht)
        · exact ⟨1, .rejected hi hp hf hr⟩
    intro t ht
    cases hl : i.command.lookup? with
    | none => exact ⟨0, .pairs hi ht (Command.eq_pairs hl)⟩
    | some found =>
      obtain ⟨pair, side, name⟩ := found
      cases hp : t.hasPair pair with
      | false => exact ⟨4, .unregistered hi ht hl hp⟩
      | true =>
        obtain ⟨rules, hr⟩ := Table.hasPair_iff.mp hp
        by_cases h : ∃ r ∈ rules, r.accepts side name = true
        · obtain ⟨r, hm, ha⟩ := h
          exact ⟨0, .found hi ht hl hr hm ha⟩
        · exact ⟨3, .unmatched hi ht hl hr (by simpa using h)⟩

theorem stdout_of_exitCode_ne_zero {o : Outcome} (h : o.exitCode ≠ 0) : o.stdout = "" := by
  cases o with
  | printed text => exact absurd rfl h
  | stopped stop => cases stop <;> first | rfl | exact absurd rfl h
  | failed e => rfl

/-- The first stage that fails decides how a run exits: the reading of the line, which asks nothing
of any file; then that of the file, then of the table in it, whatever is looked up; then the lookup,
in a pair that must be registered and by a rule that must match. A run that fails prints nothing. -/
theorem exitCode_iff (files : Files) (words : List String) :
    (∀ n, (ofArguments files words).exitCode = n ↔ Exits files words n) ∧
    ((ofArguments files words).exitCode ≠ 0 → (ofArguments files words).stdout = "") := by
  refine ⟨fun n => ⟨?_, exitCode_eq_of_exits⟩, stdout_of_exitCode_ne_zero⟩
  rintro rfl
  obtain ⟨n, hn⟩ := exists_exits files words
  exact exitCode_eq_of_exits hn ▸ hn

/-- The file is missed before the pair is. -/
example : (ofArguments (fun _ => .error .missing)
    ["--table", "none.yaml", "init", "--from", "abi", "--to", "value", "bool"]).exitCode = 7 := by
  decide +kernel

end Outcome
end TypeExchange
