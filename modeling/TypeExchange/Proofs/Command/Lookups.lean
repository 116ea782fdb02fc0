import TypeExchange.Proofs.Command.Logging
import TypeExchange.Proofs.Json.Text
import TypeExchange.Proofs.LoggedTable

/-! The program prints what the operations on a table give, and reports how they fail behind the
lines of the log. -/
namespace TypeExchange

/-- The operation on a table that a command stands for, behind the lookup of its two types. -/
def Command.call? (t : Table) :
    Command → Option (Except Failure Descriptor × Except Failure String)
  | typeFor pair name => some (t.findFromType pair name, t.typeFor pair name)
  | convert pair code name context =>
    some (t.findFromType pair name, t.convertForward pair code name context)
  | convertBack pair code name => some (t.findToType pair name, t.convertBackward pair code name)
  | init pair name => some (t.findFromType pair name, t.initializedValue pair name)
  | pairs => none

section
variable {t : Table} {command : Command} {pair : SystemPair} {side : Side} {name : String}

theorem Command.exists_lookup {call : Except Failure Descriptor × Except Failure String}
    (h : command.call? t = some call) :
    ∃ pair side name, command.lookup? = some (pair, side, name) := by
  cases command with
  | pairs => contradiction
  | _ => exact ⟨_, _, _, rfl⟩

/-- All that a command looks up is in one rule. -/
theorem Command.exists_resolved (h : command.lookup? = some (pair, side, name)) :
    ∃ (describe : Rule → Descriptor) (result : Rule → String),
      command.call? t = some ((t.resolve pair side name).map describe,
        (t.resolve pair side name).map result) ∧
      ∀ json, command.output t json = (t.resolve pair side name).map fun r =>
        (Finding.ofDescriptor (describe r) (result r)).text json := by
  cases command with
  | typeFor pair name =>
    cases h
    refine ⟨_, _, by rw [call?, t.findFromType_eq, t.typeFor_eq], fun json => ?_⟩
    rw [output, run, Logged.bind_result, Logged.typeFor_result, t.typeFor_eq]
    cases hr : t.resolve pair .source name with
    | error e => rfl
    | ok r =>
      cases json with
      | false => rfl
      | true => simp [Table.descriptor, hr]
  | convert pair code name context =>
    cases h
    refine ⟨_, _, by rw [call?, t.findFromType_eq, t.convertForward_eq], fun json => ?_⟩
    rw [output, run, Logged.bind_result, Logged.descriptor_result, Table.descriptor]
    cases t.resolve pair .source name <;> rfl
  | convertBack pair code name =>
    cases h
    refine ⟨_, _, by rw [call?, t.findToType_eq, t.convertBackward_eq], fun json => ?_⟩
    rw [output, run, Logged.bind_result, Logged.descriptor_result, Table.descriptor]
    cases t.resolve pair .target name <;> rfl
  | init pair name =>
    cases h
    refine ⟨_, _, by rw [call?, t.findFromType_eq, t.initializedValue_eq], fun json => ?_⟩
    rw [output, run, Logged.bind_result, Logged.descriptor_result, Table.descriptor]
    cases hr : t.resolve pair .source name with
    | error e => rfl
    | ok r => simp [t.initializedValue_eq, hr]
  | pairs => contradiction

/-- A lookup that fails is not logged. -/
theorem Command.run_events_of_error {e : Failure} (h : command.lookup? = some (pair, side, name))
    (he : t.resolve pair side name = .error e) (json : Bool) :
    (command.run t json).events = [] := by
  rw [t.resolve_eq_map_locate, map_eq_error_iff] at he
  rw [run_events h, he]

end

theorem Failure.exitCode_ne_zero (e : Failure) : e.exitCode ≠ 0 := by
  cases e <;> simp [exitCode]

namespace Outcome

variable {result : Except Failure String}

theorem exitCode_ofResult_eq_zero_iff :
    (ofResult result).exitCode = 0 ↔ ∃ text, result = .ok text := by
  cases result with
  | error e => simp [ofResult, exitCode, e.exitCode_ne_zero]
  | ok text => simp [ofResult, exitCode]

theorem prints_iff {text : String} :
    (ofResult result).exitCode = 0 ∧ (ofResult result).stdout = text ↔ result = .ok text := by
  rw [exitCode_ofResult_eq_zero_iff]
  cases result with
  | error e => simp
  | ok printed => simp [ofResult, stdout]

end Outcome

/-- A type as a reader of the output sees it. -/
def TypeRef.reply (t : TypeRef) : Json :=
  .object [("type", .string t.typeName), ("type_system", .string t.system.name)]

/-- A lookup as a reader of the output sees it. -/
def Descriptor.reply (d : Descriptor) (result : String) : Json :=
  .object [("from", d.source.reply), ("result", .string result), ("to", d.target.reply)]

theorem Finding.parse?_text (d : Descriptor) (result : String) :
    Json.parse? ((ofDescriptor d result).text true) = some (d.reply result) := by
  have hsorted : (ofDescriptor d result).toJson.sorted = d.reply result := rfl
  rw [← hsorted]
  exact Json.parse?_pretty rfl rfl

namespace Run

variable {files : Files} {words : List String} {i : Invocation} {t : Table}

theorem ofArguments_eq (hi : Invocation.ofArguments words = .ok i)
    (ht : i.loadTable files = .ok t) :
    ofArguments files words =
      ⟨i.settings.lines ((i.findTable files).events ++ (i.command.run t i.json).events),
        .ofResult (i.command.output t i.json)⟩ := by
  have hevents : (i.run files).events =
      (i.findTable files).events ++ (i.command.run t i.json).events :=
    Logged.bind_events_of_ok ht _
  rw [ofArguments, hi]
  simp only [i.run_result files, ht, hevents, ok_bind]

/-- Nothing is logged for those who do not ask for the lowest level. -/
theorem log_eq_nil (hi : Invocation.ofArguments words = .ok i)
    (h : Log.Level.ofWord i.verbosity ≠ .debug) : (ofArguments files words).log = [] := by
  rw [ofArguments, hi]
  exact Log.Settings.lines_eq_nil h (i.run_atDebug files)

/-- A line that asks for a lookup prints the result of the operation, on a line or as JSON with the
two types, and exits with success. Where the operation fails, nothing is printed, and the failure is
reported behind the log, which is about the table alone then. The options about logging change
neither what is printed nor the exit. -/
theorem ofArguments_call (files : Files) {words : List String} {i : Invocation} {t : Table}
    {found : Except Failure Descriptor} {answer : Except Failure String}
    (hi : Invocation.ofArguments words = .ok i) (ht : i.loadTable files = .ok t)
    (hcall : i.command.call? t = some (found, answer)) :
    (i.json = false → ∀ r, ((ofArguments files words).exitCode = 0 ∧
      (ofArguments files words).stdout = r ++ "\n") ↔ answer = .ok r) ∧
    (i.json = true → ((ofArguments files words).exitCode = 0 ↔ ∃ r, answer = .ok r) ∧
      ∀ r, answer = .ok r → ∃ d, found = .ok d ∧
        Json.parse? (ofArguments files words).stdout = some (d.reply r)) ∧
    (∀ e, answer = .error e → (ofArguments files words).stdout = "" ∧
      (ofArguments files words).exitCode = e.exitCode ∧
      ∀ write, (ofArguments files words).stderr write =
          Log.text write (i.settings.lines (i.findTable files).events) ++ (e.detailed ++ "\n") ∧
        (Log.Level.ofWord i.verbosity ≠ .debug →
          (ofArguments files words).stderr write = e.detailed ++ "\n")) ∧
    ∀ words', Command.Relogged words words' →
      (ofArguments files words').exitCode = (ofArguments files words).exitCode ∧
      (ofArguments files words').stdout = (ofArguments files words).stdout := by
  obtain ⟨pair, side, name, hl⟩ := Command.exists_lookup hcall
  obtain ⟨describe, result, hcall', houtput⟩ := Command.exists_resolved (t := t) hl
  obtain ⟨rfl, rfl⟩ := Prod.mk.inj (Option.some.inj (hcall.symm.trans hcall'))
  have hrun := ofArguments_eq hi ht
  have hlogging : ∀ words', Command.Relogged words words' →
      (ofArguments files words').outcome = (ofArguments files words).outcome := by
    intro words' h
    obtain ⟨verbosity, logFormat, hi'⟩ := Invocation.ofArguments_relogged h hi
    rw [hrun, ofArguments_eq hi' ht]
  refine ⟨?_, ?_, ?_, fun words' h => ?_⟩
  · intro hjson r
    rw [exitCode, stdout, hrun, Outcome.prints_iff, houtput, hjson, map_eq_ok_iff, map_eq_ok_iff]
    simp [Finding.text, Finding.ofDescriptor]
  · intro hjson
    rw [exitCode, stdout, hrun, Outcome.exitCode_ofResult_eq_zero_iff, houtput, hjson]
    cases t.resolve pair side name with
    | error e => simp
    | ok rule =>
      refine ⟨by simp, fun r hr => ?_⟩
      obtain rfl := Except.ok.inj hr
      exact ⟨_, rfl, Finding.parse?_text _ _⟩
  · intro e he
    rw [map_eq_error_iff] at he
    rw [houtput, he, Command.run_events_of_error hl he, List.append_nil] at hrun
    have hreport : ∀ write, (ofArguments files words).stderr write =
        Log.text write (ofArguments files words).log ++ (e.detailed ++ "\n") := by
      intro write
      rw [stderr, hrun]
      rfl
    refine ⟨by rw [hrun]; rfl, by rw [hrun]; rfl, fun write => ⟨?_, fun hlevel => ?_⟩⟩
    · rw [hreport, hrun]
    · rw [hreport, log_eq_nil hi hlevel, Log.text_nil, String.empty_append]
  · have houtcome := hlogging words' h
    exact ⟨congrArg Outcome.exitCode houtcome, congrArg Outcome.stdout houtcome⟩

def noFiles : Files := fun _ => .error .missing

/-- A line that reads a tuple as an instance of the class `Pair`. -/
def tupleLine (options : List String) : List String :=
  options ++ ["convert", "--from", "abi", "--to", "runtime", "--context", "Pair", "x", "tuple"]

/-- A line for a pair without rules, on which the whole log is asked for. -/
def unsupportedLine : List String :=
  ["--verbosity", "DEBUG", "type-for", "--from", "abi", "--to", "value", "bool"]

theorem ofArguments_call_tuple :
    ((ofArguments noFiles (tupleLine ["--log-format=json"])).exitCode = 0 ∧
      (ofArguments noFiles (tupleLine ["--log-format=json"])).stdout =
        "changetype<Pair>(x.toTuple())" ++ "\n") ∧
    Json.parse? (ofArguments noFiles (tupleLine ["--output-json", "--verbosity", "debug"])).stdout =
      some (.object [("from", TypeRef.reply ⟨.abi, "tuple"⟩),
        ("result", .string "changetype<Pair>(x.toTuple())"),
        ("to", TypeRef.reply ⟨.runtime, "ethereum.Tuple"⟩)]) ∧
    (ofArguments noFiles (tupleLine ["--output-json"])).stdout =
      (ofArguments noFiles (tupleLine ["--output-json", "--verbosity", "debug"])).stdout ∧
    (ofArguments noFiles unsupportedLine).stdout = "" ∧
    (ofArguments noFiles unsupportedLine).exitCode = 4 ∧
    ∀ write, (ofArguments noFiles unsupportedLine).stderr write =
      Log.text write [⟨.text, .built Table.builtin⟩] ++
        "Error: Conversions from 'abi' to 'value' are not supported\n\n" := by
  have hanswer : Table.builtin.convertForward ⟨.abi, .runtime⟩ "x" "tuple" (some "Pair") =
      .ok "changetype<Pair>(x.toTuple())" := by decide +kernel
  have hfound : (Table.builtin.findFromType ⟨.abi, .runtime⟩ "tuple").map
      (fun d => (d.source, d.target)) =
        .ok (⟨.abi, "tuple"⟩, ⟨.runtime, "ethereum.Tuple"⟩) := by decide +kernel
  have hrefused : Table.builtin.typeFor ⟨.abi, .value⟩ "bool" =
      .error (.unsupportedPair ⟨.abi, .value⟩) := by decide +kernel
  have hline : Invocation.ofArguments (tupleLine ["--log-format=json"]) =
      .ok ⟨none, false, .convert ⟨.abi, .runtime⟩ "x" "tuple" (some "Pair"), "info", "json"⟩ := by
    decide +kernel
  have hjson : Invocation.ofArguments (tupleLine ["--output-json", "--verbosity", "debug"]) =
      .ok ⟨none, true, .convert ⟨.abi, .runtime⟩ "x" "tuple" (some "Pair"), "debug", "text"⟩ := by
    decide +kernel
  have hunsupported : Invocation.ofArguments unsupportedLine =
      .ok ⟨none, false, .typeFor ⟨.abi, .value⟩ "bool", "DEBUG", "text"⟩ := by decide +kernel
  have hlines : (Log.Settings.ofWords "DEBUG" "text").lines [.built Table.builtin] =
      [⟨.text, .built Table.builtin⟩] := by decide +kernel
  obtain ⟨hprinted, -⟩ := ofArguments_call noFiles hline rfl rfl
  obtain ⟨-, hobject, -, hlogging⟩ := ofArguments_call noFiles hjson rfl rfl
  obtain ⟨-, -, hfailed, -⟩ := ofArguments_call noFiles hunsupported rfl rfl
  obtain ⟨hstdout, hcode, hreport⟩ := hfailed _ hrefused
  refine ⟨(hprinted rfl _).mpr hanswer, ?_, ?_, hstdout, hcode, fun write => ?_⟩
  · obtain ⟨d, hd, hparse⟩ := (hobject rfl).2 _ hanswer
    rw [hd] at hfound
    obtain ⟨hsource, htarget⟩ := Prod.mk.inj (Except.ok.inj hfound)
    rw [hparse, Descriptor.reply, hsource, htarget]
  · have hbefore : Command.BeforeVerb ["--output-json"] := by
      rintro r rest ⟨⟩
      rfl
    exact (hlogging _ (@Command.Relogged.omitted "verbosity" "debug" ["--output-json"] _ _
      (by decide) hbefore (.apart rfl))).2
  · rw [(hreport write).1]
    exact congrArg₂ (Log.text write · ++ ·) hlines (by decide +kernel)

end Run
end TypeExchange
