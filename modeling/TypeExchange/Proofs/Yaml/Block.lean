import TypeExchange.Proofs.Yaml.Quoted
import TypeExchange.Yaml.Value

/-! Documents in block style: mappings of plain keys, sequences of mappings, and texts between
double quotes. Collections that are not empty stand on lines of their own, indented as far as one
likes. -/
namespace TypeExchange.Yaml.Block

def IsKeyLetter (c : Char) : Prop := c ∈ "abcdefghijklmnopqrstuvwxyz".toList

instance : DecidablePred IsKeyLetter := fun _ => inferInstanceAs (Decidable (_ ∈ _))

/-- A word of small letters, no longer than a key may be. -/
structure Key where
  name : String
  nonempty : name.toList ≠ []
  letters : ∀ c ∈ name.toList, IsKeyLetter c
  short : name.toList.length ≤ 1024

mutual

/-- What stands behind the colon of a key. -/
inductive Field where
  | quoted (q : Quoted)
  /-- A sequence without items, in brackets. -/
  | noItems
  /-- A mapping on lines of its own, indented by this number of spaces and one more. -/
  | mapping (more : Nat) (m : Mapping)
  /-- A sequence on lines of its own, indented by this number of spaces, which may be zero. -/
  | sequence (indent : Nat) (s : Sequence)

inductive Mapping where
  | last (key : Key) (field : Field)
  | more (key : Key) (field : Field) (rest : Mapping)

inductive Sequence where
  | last (item : Mapping)
  | more (item : Mapping) (rest : Sequence)

end

/-- The end of a line and the indentation of the next. -/
def newline (column : Nat) : List Char := '\n' :: List.replicate column ' '

mutual

/-- The text behind a colon, where the key stands at a column. -/
def Field.text (column : Nat) : Field → List Char
  | .quoted q => ' ' :: q.text
  | .noItems => [' ', '[', ']']
  | .mapping more m => newline (column + more + 1) ++ m.text (column + more + 1)
  | .sequence indent s => newline (column + indent) ++ s.text (column + indent)

/-- The text of a mapping from its first key on. -/
def Mapping.text (column : Nat) : Mapping → List Char
  | .last key field => key.name.toList ++ ':' :: field.text column
  | .more key field rest =>
    key.name.toList ++ ':' :: (field.text column ++ (newline column ++ rest.text column))

/-- The text of a sequence from its first hyphen on. -/
def Sequence.text (column : Nat) : Sequence → List Char
  | .last item => '-' :: ' ' :: item.text (column + 2)
  | .more item rest =>
    '-' :: ' ' :: (item.text (column + 2) ++ (newline column ++ rest.text column))

end

/-- The tokens of a key and its colon. -/
def Key.tokens (key : Key) : List Token := [.key, .scalar .plain key.name.toList, .value]

mutual

def Field.tokens : Field → List Token
  | .quoted q => [.scalar .double q.value.toList]
  | .noItems => [.flowSequence, .flowSequenceEnd]
  | .mapping _ m => .blockMapping :: (m.tokens ++ [.blockEnd])
  | .sequence indent s =>
    -- A sequence below its key is no collection of its own.
    if indent = 0 then s.tokens else .blockSequence :: (s.tokens ++ [.blockEnd])

def Mapping.tokens : Mapping → List Token
  | .last key field => key.tokens ++ field.tokens
  | .more key field rest => key.tokens ++ (field.tokens ++ rest.tokens)

def Sequence.tokens : Sequence → List Token
  | .last item => .blockEntry :: .blockMapping :: (item.tokens ++ [.blockEnd])
  | .more item rest =>
    .blockEntry :: .blockMapping :: (item.tokens ++ .blockEnd :: rest.tokens)

end

def Key.value (key : Key) : Value := .scalar none .plain key.name.toList

mutual

def Field.value : Field → Value
  | .quoted q => .scalar none .double q.value.toList
  | .noItems => .sequence none []
  | .mapping _ m => .mapping none m.entries
  | .sequence _ s => .sequence none s.items

def Mapping.entries : Mapping → List (Value × Value)
  | .last key field => [(key.value, field.value)]
  | .more key field rest => (key.value, field.value) :: rest.entries

def Sequence.items : Sequence → List Value
  | .last item => [.mapping none item.entries]
  | .more item rest => .mapping none item.entries :: rest.items

end

/-- A mapping that is a whole text. Its last line may have an end or not. -/
structure Document where
  root : Mapping
  endsLine : Bool

namespace Document

variable (d : Document)

def ending : List Char := if d.endsLine then ['\n'] else []

def text : String := String.ofList (d.root.text 0 ++ d.ending)

def value : Value := .mapping none d.root.entries

end Document
end TypeExchange.Yaml.Block
