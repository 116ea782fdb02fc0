import TypeExchange.Command.Options
import TypeExchange.Naming

/-! What a command line asks for. -/
namespace TypeExchange

/-- What to look up in a table. -/
inductive Command where
  | typeFor (pair : SystemPair) (name : String)
  | convert (pair : SystemPair) (code name : String) (context : Option String)
  | convertBack (pair : SystemPair) (code name : String)
  | init (pair : SystemPair) (name : String)
  | pairs
  deriving DecidableEq, Repr

namespace Command

inductive Verb where
  | typeFor | convert | convertBack | init | pairs
  deriving DecidableEq, Repr

namespace Verb

def all : List Verb := [typeFor, convert, convertBack, init, pairs]

def name : Verb → String
  | typeFor => "type-for"
  | convert => "convert"
  | convertBack => "convert-back"
  | init => "init"
  | pairs => "pairs"

def ofName? (name : String) : Option Verb := all.find? (·.name == name)

def operands : Verb → Nat
  | typeFor | init => 1
  | convert | convertBack => 2
  | pairs => 0

def valued : Verb → List String
  | typeFor | convertBack | init => ["from", "to"]
  | convert => ["from", "to", "context"]
  | pairs => []

end Verb

/-- The system that an option names. -/
def systemOf? (name : String) : Option TypeSystem := (TypeSystem.ofName name).toOption

def Verb.grammar (v : Verb) : Grammar where
  flags := ["help"]
  valued := v.valued
  letter c := if c = 'h' then some "help" else none
  permits name value := name = "context" || (systemOf? value).isSome
  operands := v.operands
  verbs := []

/-- The two systems of a line. Both are needed. -/
def Reading.pair? (r : Reading) : Option SystemPair := do
  let source ← r.values.lookup "from"
  let target ← r.values.lookup "to"
  return ⟨← systemOf? source, ← systemOf? target⟩

/-- The command of a line on which all is present. -/
def Verb.command? (v : Verb) (r : Reading) : Option Command :=
  match v, r.operands with
  | typeFor, [name] => return .typeFor (← r.pair?) name
  | convert, [code, name] => return .convert (← r.pair?) code name (r.values.lookup "context")
  | convertBack, [code, name] => return .convertBack (← r.pair?) code name
  | init, [name] => return .init (← r.pair?) name
  | pairs, [] => some .pairs
  | _, _ => none

/-- The command that a verb makes of the words behind it. -/
def Verb.read (v : Verb) (words : List String) : Except Stop Command := do
  let (r, _) ← v.grammar.read {} words
  match v.command? (← r.settle v.grammar) with
  | some command => return command
  | none => throw .usage

/-- The verb that asks about the program or about another verb. -/
def helpVerb : String := "help"

/-- The line before the verb. -/
def grammar : Grammar where
  flags := ["output-json", "help", "version"]
  valued := ["table", "log-format", "verbosity"]
  letter c :=
    if c = 't' then some "table" else if c = 'h' then some "help"
    else if c = 'V' then some "version" else none
  permits name value := name != "table" || value != ""
  operands := 0
  verbs := helpVerb :: Verb.all.map Verb.name

/-- What help is for: nothing, or one verb. -/
def helpStop : List String → Stop
  | [] => .help
  | [topic] => if grammar.verbs.contains topic then .help else .usage
  | _ => .usage

end Command

/-- A command with the table in which it looks up, the form in which it prints and what is asked of
the log. -/
structure Invocation where
  /-- The path of a table to use in place of the built-in one. -/
  table : Option String
  json : Bool
  command : Command
  /-- A level of the log. Any word will do. -/
  verbosity : String := "info"
  /-- The layout of the log. Any word will do. -/
  logFormat : String := "text"
  deriving DecidableEq, Repr

/-- The words of a verb are read before the last option that stands in front of it is checked. -/
def Invocation.ofArguments (words : List String) : Except Command.Stop Invocation := do
  let (r, rest) ← Command.grammar.read {} words
  match rest with
  | [] => throw .usage
  | word :: rest =>
    if word = Command.helpVerb then throw (Command.helpStop rest)
    match Command.Verb.ofName? word with
    | none => throw .usage
    | some verb =>
      let command ← verb.read rest
      let r ← r.settle Command.grammar
      return {
        table := r.values.lookup "table"
        json := r.flags.contains "output-json"
        command
        verbosity := (r.values.lookup "verbosity").getD "info"
        logFormat := (r.values.lookup "log-format").getD "text" }

end TypeExchange
