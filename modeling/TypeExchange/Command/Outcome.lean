import TypeExchange.Command.Invocation
import TypeExchange.Json.Printer
import TypeExchange.LoggedTable

/-! What a run of the program logs and prints, and how it exits. -/
namespace TypeExchange

/-- What is found under the name of a file. -/
abbrev Files := String → Except FileFault ByteArray

namespace Invocation

def settings (i : Invocation) : Log.Settings := .ofWords i.verbosity i.logFormat

/-- The table that an invocation looks up in. -/
def findTable (files : Files) (i : Invocation) : Logged Table :=
  match i.table with
  | none => Logged.builtin
  | some path => do
    let t ← Logged.build (← Logged.load path (files path))
    Logged.log (.tableLoaded path)
    return t

def loadTable (files : Files) (i : Invocation) : Except Failure Table := (i.findTable files).result

end Invocation

/-- The registered pairs in ascending order, each with the number of its rules. -/
def Table.tally (t : Table) : Except Failure (List (SystemPair × Nat)) :=
  t.pairs.mapM fun p => do return (p, (← t.rules p).length)

/-- The text that a lookup gives, with the two types between which it leads. -/
structure Finding where
  source : TypeRef
  target : TypeRef
  result : String
  deriving DecidableEq, Repr

namespace Finding

def ofDescriptor (d : Descriptor) (result : String) : Finding := ⟨d.source, d.target, result⟩

def typeJson (t : TypeRef) : Json :=
  .object [("type_system", .string t.system.name), ("type", .string t.typeName)]

def toJson (f : Finding) : Json :=
  .object [("from", typeJson f.source), ("to", typeJson f.target), ("result", .string f.result)]

/-- One line, or an indented object. -/
def text (json : Bool) (f : Finding) : String :=
  (if json then f.toJson.pretty else f.result) ++ "\n"

end Finding

def tallyText (tally : List (SystemPair × Nat)) : String :=
  String.join (tally.map fun c => s!"{c.1.text} ({c.2} rules)\n")

def tallyJson (tally : List (SystemPair × Nat)) : Json :=
  .array (tally.map fun c =>
    .object [("from", .string c.1.source.name), ("to", .string c.1.target.name),
      ("rules", .integer c.2)])

namespace Command

/-- Where only a type is printed, only the type is looked up. -/
def run (t : Table) (json : Bool) : Command → Logged String
  | typeFor pair name => do
    let result ← Logged.typeFor t pair name
    if json then
      return (Finding.ofDescriptor (← Logged.descriptor t pair .source name) result).text true
    return result ++ "\n"
  | convert pair code name context => do
    let d ← Logged.descriptor t pair .source name
    return (Finding.ofDescriptor d (d.convert code context)).text json
  | convertBack pair code name => do
    let d ← Logged.descriptor t pair .target name
    return (Finding.ofDescriptor d (d.convert code none)).text json
  | init pair name => do
    let d ← Logged.descriptor t pair .source name
    return (Finding.ofDescriptor d (← Logged.initializedValue t pair name)).text json
  | pairs => do
    let tally ← t.tally
    return if json then (tallyJson tally).pretty ++ "\n" else tallyText tally

def output (t : Table) (json : Bool) (command : Command) : Except Failure String :=
  (command.run t json).result

end Command

inductive Outcome where
  | printed (text : String)
  | stopped (stop : Command.Stop)
  | failed (failure : Failure)
  deriving DecidableEq, Repr

namespace Outcome

def ofResult : Except Failure String → Outcome
  | .ok text => printed text
  | .error f => failed f

def programName : String := "typebridge"

def versionText : String := programName ++ " 0.1.0\n"

/-- What may stand on a line, for the help and for any complaint about the arguments. Neither the
meaning of an option nor what is wrong with a line is explained. -/
def usageText : String :=
  "Usage: " ++ programName ++ " [OPTIONS] <COMMAND>\n\n" ++
  "Commands: " ++ String.intercalate ", " Command.grammar.verbs ++ "\n" ++
  "Options: " ++ String.intercalate ", "
    ((Command.grammar.valued ++ Command.grammar.flags).map ("--" ++ ·)) ++ "\n"

def exitCode : Outcome → Nat
  | printed _ | stopped .help | stopped .version => 0
  | stopped .usage => 2
  | failed f => f.exitCode

def stdout : Outcome → String
  | printed text => text
  | stopped .help => usageText
  | stopped .version => versionText
  | stopped .usage | failed _ => ""

/-- What is said of a failure, behind the log. -/
def report : Outcome → String
  | stopped .usage => usageText
  | failed f => f.detailed ++ "\n"
  | printed _ | stopped .help | stopped .version => ""

end Outcome

/-- The arguments are read before the table, and that before anything is looked up. -/
def Invocation.run (files : Files) (i : Invocation) : Logged String := do
  let table ← i.findTable files
  i.command.run table i.json

/-- A run of the program: what it writes to the log, and how it ends. -/
structure Run where
  log : List Log.Line
  outcome : Outcome
  deriving DecidableEq, Repr

namespace Run

/-- Nothing is logged before all arguments have been read. -/
def ofArguments (files : Files) (words : List String) : Run :=
  match Invocation.ofArguments words with
  | .error stop => ⟨[], .stopped stop⟩
  | .ok i => ⟨i.settings.lines (i.run files).events, .ofResult (i.run files).result⟩

def exitCode (r : Run) : Nat := r.outcome.exitCode

def stdout (r : Run) : String := r.outcome.stdout

/-- Log and report go the same way, and the report comes last. -/
def stderr (write : Log.Writer) (r : Run) : String := Log.text write r.log ++ r.outcome.report

end Run

def Outcome.ofArguments (files : Files) (words : List String) : Outcome :=
  (Run.ofArguments files words).outcome

end TypeExchange
