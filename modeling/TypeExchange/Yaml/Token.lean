/-! The tokens of a YAML document. -/
namespace TypeExchange.Yaml

inductive Style where
  | plain | single | double | literal | folded
  deriving DecidableEq, Repr

/-- The octets of a tag. They need not be the encoding of a text. -/
abbrev Tag := List UInt8

def Tag.ofString (s : String) : Tag := s.toUTF8.toList

/-- A tag ends before its first zero octet. -/
def Tag.cut (t : Tag) : Tag := t.takeWhile (· != 0)

/-- The mark that tags of the document's own begin with. -/
def Tag.mark : UInt8 := 0x21

/-- Whether a tag begins with an exclamation mark. -/
def Tag.isMarked : Tag → Bool
  | c :: _ => c == mark
  | [] => false

/-- Whether a tag is one of the document's own: a text behind an exclamation mark, or the mark
alone. -/
def Tag.isLocal (t : Tag) : Bool := t.isMarked && (String.fromUTF8? ⟨t.tail.toArray⟩).isSome

inductive Token where
  | version (major minor : Nat)
  | tagDirective (handle : List Char) (pre : Tag)
  | documentStart
  | documentEnd
  | blockSequence
  | blockMapping
  | blockEnd
  | flowSequence
  | flowSequenceEnd
  | flowMapping
  | flowMappingEnd
  | blockEntry
  | flowEntry
  | key
  | value
  | alias (name : List Char)
  | anchor (name : List Char)
  | tag (handle : List Char) (suffix : Tag)
  | scalar (style : Style) (text : List Char)
  | streamEnd
  deriving DecidableEq, Repr

end TypeExchange.Yaml
