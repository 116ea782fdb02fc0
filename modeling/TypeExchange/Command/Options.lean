/-! Options and operands on a command line. -/
namespace TypeExchange.Command

/-- Why reading ends early: the user asks about the program, or the line is wrong. -/
inductive Stop where
  | help | version | usage
  deriving DecidableEq, Repr

/-- What may stand on a line. Every option has a long name. -/
structure Grammar where
  /-- Options without a value. -/
  flags : List String
  /-- Options with a value. -/
  valued : List String
  /-- The option that a letter stands for. -/
  letter : Char → Option String
  /-- Whether an option takes a value. -/
  permits : String → String → Bool
  /-- The greatest number of operands. -/
  operands : Nat
  /-- Words that end the line. -/
  verbs : List String

/-- What has been read. -/
structure Reading where
  flags : List String := []
  values : List (String × String) := []
  operands : List String := []
  /-- The last option, with the word behind it. It is checked when the line goes on with another
  option or operand, or ends. -/
  pending : Option (String × Option String) := none

/-- How a word looks. A hyphen alone is a plain word. -/
inductive Shape where
  | separator
  | long (text : List Char)
  | short (letters : List Char)
  | plain

def Shape.ofWord (word : String) : Shape :=
  match word.toList with
  | ['-', '-'] => separator
  | '-' :: '-' :: text => long text
  | '-' :: c :: letters => short (c :: letters)
  | _ => plain

namespace Reading

/-- An option has one value. -/
def give (g : Grammar) (r : Reading) (name value : String) : Except Stop Reading :=
  if (r.values.lookup name).isSome ∨ g.permits name value = false then .error .usage
  else .ok { r with values := r.values ++ [(name, value)] }

/-- Checks the pending option. -/
def settle (g : Grammar) (r : Reading) : Except Stop Reading :=
  match r.pending with
  | none => .ok r
  | some (_, none) => .error .usage
  | some (name, some value) => give g { r with pending := none } name value

def raise (g : Grammar) (r : Reading) (name : String) : Except Stop Reading := do
  let r ← r.settle g
  if name = "help" then throw .help
  if name = "version" then throw .version
  if r.flags.contains name then throw .usage
  return { r with flags := r.flags ++ [name] }

/-- A value in the same word is checked at once. -/
def option (g : Grammar) (r : Reading) (name : String) : Option String → Except Stop Reading
  | some value => do (← r.settle g).give g name value
  | none => do return { ← r.settle g with pending := some (name, none) }

def operand (g : Grammar) (r : Reading) (word : String) : Except Stop Reading := do
  let r ← r.settle g
  if r.operands.length < g.operands then return { r with operands := r.operands ++ [word] }
  throw .usage

/-- An option by its name; a value may follow an equals sign. -/
def long (g : Grammar) (r : Reading) (text : List Char) : Except Stop Reading :=
  let name := String.ofList (text.takeWhile (· != '='))
  let value := match text.dropWhile (· != '=') with
    | [] => none
    | _ :: v => some (String.ofList v)
  if g.valued.contains name then r.option g name value
  else if g.flags.contains name ∧ value = none then r.raise g name
  else .error .usage

/-- Options by their letters. What follows the letter of an option with a value is the value. -/
def short (g : Grammar) (r : Reading) : List Char → Except Stop Reading
  | [] => .ok r
  | c :: letters =>
    match g.letter c with
    | none => .error .usage
    | some name =>
      if g.valued.contains name then
        r.option g name <| match letters with
          | [] => none
          | '=' :: v => some (String.ofList v)
          | v => some (String.ofList v)
      else do short g (← r.raise g name) letters

end Reading

namespace Grammar

/-- Reads a line up to a verb, and returns the rest from there on. Behind a separator all words are
operands. -/
def read (g : Grammar) (r : Reading) : List String → Except Stop (Reading × List String)
  | [] => .ok (r, [])
  | word :: rest =>
    match Shape.ofWord word, r.pending with
    | .separator, _ => do return (← rest.foldlM (Reading.operand g) r, [])
    | .long text, _ => do g.read (← r.long g text) rest
    | .short letters, _ => do g.read (← r.short g letters) rest
    | .plain, some (name, none) => g.read { r with pending := some (name, some word) } rest
    | .plain, _ =>
      if g.verbs.contains word then .ok (r, word :: rest)
      else do g.read (← r.operand g word) rest

end Grammar
end TypeExchange.Command
