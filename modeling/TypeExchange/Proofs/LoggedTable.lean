import TypeExchange.Command.Outcome
import TypeExchange.Proofs.Table.Operations
import TypeExchange.Proofs.Table.Resolution

/-! What is logged does not change what comes of a computation, and none of it is written unless the
level is the lowest. A command logs the place of its rule each time it looks it up. -/
namespace TypeExchange

namespace Log

theorem Level.rank_lt_debug {level : Level} (h : level ≠ .debug) : level.rank < debug.rank := by
  cases level with
  | debug => contradiction
  | _ => decide

theorem Settings.lines_eq_nil {s : Settings} {events : List Event} (hs : s.level ≠ .debug)
    (h : ∀ e ∈ events, e.level = .debug) : s.lines events = [] := by
  unfold lines
  rw [List.map_eq_nil_iff, List.filter_eq_nil_iff]
  intro e he
  have hlt := Level.rank_lt_debug hs
  rw [h e he]
  simpa using hlt

end Log

namespace Logged

section
variable {α β : Type} {x : Logged α}

/-- All that is logged is of the lowest level. -/
def AtDebug (x : Logged α) : Prop := ∀ e ∈ x.events, e.level = .debug

theorem atDebug_pure (a : α) : (pure a : Logged α).AtDebug := List.forall_mem_nil _

theorem atDebug_lift (x : Except Failure α) : (liftM x : Logged α).AtDebug := List.forall_mem_nil _

theorem atDebug_log {event : Log.Event} (h : event.level = .debug) : (log event).AtDebug :=
  List.forall_mem_singleton.mpr h

theorem AtDebug.bind {f : α → Logged β} (hx : x.AtDebug) (hf : ∀ a, (f a).AtDebug) :
    (x >>= f).AtDebug := by
  cases h : x.result with
  | error e =>
    unfold AtDebug
    rwa [bind_events_of_error h]
  | ok a =>
    unfold AtDebug
    rw [bind_events_of_ok h, List.forall_mem_append]
    exact ⟨hx, hf a⟩

theorem AtDebug.map (h : x.AtDebug) (f : α → β) : (x >>= fun a => pure (f a)).AtDebug :=
  h.bind fun _ => atDebug_pure _

end

section
variable (path : String) (file : Except FileFault ByteArray) (c : TableConfig)

@[simp] theorem load_result : (load path file).result = TableConfig.ofFile file := by
  simp [load, TableConfig.ofFile]

@[simp] theorem build_result : (build c).result = c.build := by
  cases h : c.build <;> simp [build, h]

theorem load_atDebug : (load path file).AtDebug :=
  (atDebug_lift _).bind fun _ => (atDebug_log rfl).bind fun _ => atDebug_lift _

theorem build_atDebug : (build c).AtDebug :=
  (atDebug_lift _).bind fun t => (atDebug_log rfl).map fun _ => t

theorem builtin_atDebug : builtin.AtDebug := (atDebug_log rfl).map fun _ => Table.builtin

end

section
variable (t : Table) (pair : SystemPair) (side : Side) (name : String)

@[simp] theorem resolve_result : (resolve t pair side name).result = t.resolve pair side name := by
  rw [t.resolve_eq_map_locate]
  cases h : t.locate pair side name <;> simp [resolve, h]

@[simp] theorem descriptor_result :
    (descriptor t pair side name).result = t.descriptor pair side name := by
  simp [descriptor, Table.descriptor]

@[simp] theorem typeFor_result : (typeFor t pair name).result = t.typeFor pair name := by
  simp [typeFor, Table.typeFor, Table.findFromType]

@[simp] theorem initializedValue_result :
    (initializedValue t pair name).result = t.initializedValue pair name := by
  simp [initializedValue, Table.initializedValue, Table.initializer, Table.resolveBySource]

theorem resolve_atDebug : (resolve t pair side name).AtDebug :=
  (atDebug_lift _).bind fun found => (atDebug_log rfl).map fun _ => found.1

theorem descriptor_atDebug : (descriptor t pair side name).AtDebug :=
  (resolve_atDebug t pair side name).map _

theorem typeFor_atDebug : (typeFor t pair name).AtDebug :=
  (descriptor_atDebug t pair .source name).map _

theorem initializedValue_atDebug : (initializedValue t pair name).AtDebug :=
  (resolve_atDebug t pair .source name).map _

end

end Logged

namespace Command

variable {t : Table} {command : Command} {pair : SystemPair} {side : Side} {name : String}

/-- The pair that a command looks up in, the side and the name. -/
def lookup? : Command → Option (SystemPair × Side × String)
  | typeFor pair name | convert pair _ name _ | init pair name => some (pair, .source, name)
  | convertBack pair _ name => some (pair, .target, name)
  | pairs => none

/-- How often a command looks up. -/
def lookups (json : Bool) : Command → Nat
  | typeFor .. => if json then 2 else 1
  | convert .. | convertBack .. => 1
  | init .. => 2
  | pairs => 0

/-- The place of the rule is logged at each lookup, and nothing where no rule is found. -/
theorem run_events (h : command.lookup? = some (pair, side, name)) (json : Bool) :
    (command.run t json).events = match t.locate pair side name with
      | .error _ => []
      | .ok found => .replicate (command.lookups json) (.resolved pair side name found.2) := by
  cases command with
  | typeFor pair name =>
    cases h
    simp only [run, Logged.typeFor, Logged.descriptor, Logged.resolve]
    cases t.locate pair .source name <;> cases json <;> rfl
  | convert pair code name context =>
    cases h
    simp only [run, Logged.descriptor, Logged.resolve]
    cases t.locate pair .source name <;> rfl
  | convertBack pair code name =>
    cases h
    simp only [run, Logged.descriptor, Logged.resolve]
    cases t.locate pair .target name <;> rfl
  | init pair name =>
    cases h
    simp only [run, Logged.initializedValue, Logged.descriptor, Logged.resolve]
    cases t.locate pair .source name <;> rfl
  | pairs => contradiction

theorem run_atDebug (t : Table) (json : Bool) (command : Command) :
    (command.run t json).AtDebug := by
  cases command with
  | typeFor pair name =>
    refine (Logged.typeFor_atDebug t pair name).bind fun result => ?_
    cases json with
    | false => exact Logged.atDebug_pure _
    | true => exact (Logged.descriptor_atDebug t pair .source name).map _
  | convert pair code name context => exact (Logged.descriptor_atDebug t pair .source name).map _
  | convertBack pair code name => exact (Logged.descriptor_atDebug t pair .target name).map _
  | init pair name =>
    exact (Logged.descriptor_atDebug t pair .source name).bind fun d =>
      (Logged.initializedValue_atDebug t pair name).map _
  | pairs => exact (Logged.atDebug_lift _).map _

end Command

namespace Invocation

variable (files : Files) (i : Invocation)

theorem findTable_atDebug : (i.findTable files).AtDebug := by
  unfold findTable
  split
  · exact Logged.builtin_atDebug
  next path _ =>
    exact (Logged.load_atDebug path (files path)).bind fun c =>
      (Logged.build_atDebug c).bind fun t => (Logged.atDebug_log rfl).map fun _ => t

theorem run_result : (i.run files).result =
    i.loadTable files >>= fun t => i.command.output t i.json := Logged.bind_result _ _

theorem run_atDebug : (i.run files).AtDebug :=
  (i.findTable_atDebug files).bind fun t => i.command.run_atDebug t i.json

end Invocation
end TypeExchange
