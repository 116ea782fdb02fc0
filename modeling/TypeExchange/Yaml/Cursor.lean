/-! Places in the text of a YAML document. -/
namespace TypeExchange.Yaml

/-- Why a text is no document, or not the one that was asked for. -/
inductive Fault where
  | character | tab | quote | escape | blockHeader | directive | version | tag | anchor | indicator
  | colon | entry | key | value | token | unknownAlias | tooDeep | tooManyAliases
  | empty | moreDocuments
  | schema (text : String)
  deriving DecidableEq, Repr

/-- The wording is this library's own, but for that of the schema where it quotes a reader of names:
other readers of documents refuse the same texts in other words. -/
def Fault.message : Fault → String
  | character => "control characters are not allowed"
  | tab => "found a tab character where an indentation space is expected"
  | quote => "found unexpected end of a quoted scalar"
  | escape => "found unknown escape character"
  | blockHeader => "invalid header of a block scalar"
  | directive => "invalid directive"
  | version => "found incompatible YAML document"
  | tag => "invalid tag"
  | anchor => "did not find expected alphabetic or numeric character"
  | indicator => "found character that cannot start any token"
  | colon => "could not find expected ':'"
  | entry => "block sequence entries are not allowed in this context"
  | key => "mapping keys are not allowed in this context"
  | value => "mapping values are not allowed in this context"
  | token => "did not find expected node content"
  | unknownAlias => "unknown anchor"
  | tooDeep => "recursion limit exceeded"
  | tooManyAliases => "repetition limit exceeded"
  | empty => "EOF while parsing a value"
  | moreDocuments => "deserializing from YAML containing more than one document is not supported"
  | schema text => text

/-- The characters that may stand in a document. -/
def isAllowed (c : Char) : Bool :=
  let n := c.toNat
  n == 9 || n == 10 || n == 13 || (0x20 ≤ n && n ≤ 0x7e) || n == 0x85 ||
  (0xa0 ≤ n && n ≤ 0xd7ff) || (0xe000 ≤ n && n ≤ 0xfffd) || 0x10000 ≤ n

/-- Every ending of a line becomes a line feed, except the two separators of Unicode. -/
def normalizeBreaks : List Char → List Char
  | [] => []
  | '\r' :: '\n' :: cs => '\n' :: normalizeBreaks cs
  | c :: cs => (if c = '\r' ∨ c = '\u0085' then '\n' else c) :: normalizeBreaks cs

def isBlank (c : Char) : Bool := c == ' ' || c == '\t'

def isBreak (c : Char) : Bool := c == '\n' || c == '\u2028' || c == '\u2029'

def isSpacing (c : Char) : Bool := isBlank c || isBreak c

/-- Whether a blank, a break or the end of the text comes next. -/
def endsToken : List Char → Bool
  | [] => true
  | c :: _ => isSpacing c

/-- What is left of the text, with the column and the line of its first character and the number
of bytes before it. -/
structure Cursor where
  rest : List Char
  column : Nat
  line : Nat
  index : Nat
  deriving Repr

namespace Cursor

def start (text : List Char) : Cursor := ⟨text, 0, 0, 0⟩

/-- Past the next character, which is no break. -/
def next (cur : Cursor) : Cursor :=
  match cur.rest with
  | [] => cur
  | c :: rest => ⟨rest, cur.column + 1, cur.line, cur.index + c.utf8Size⟩

/-- Past the next characters, none of which is a break. -/
def skip (cur : Cursor) : Nat → Cursor
  | 0 => cur
  | n + 1 => cur.next.skip n

/-- Past a break. -/
def nextLine (cur : Cursor) : Cursor :=
  match cur.rest with
  | [] => cur
  | c :: rest => ⟨rest, 0, cur.line + 1, cur.index + c.utf8Size⟩

/-- Whether a line begins here with three hyphens or three dots that stand alone. -/
def atDocumentMark (cur : Cursor) : Bool :=
  cur.column == 0 &&
    match cur.rest with
    | '-' :: '-' :: '-' :: rest => endsToken rest
    | '.' :: '.' :: '.' :: rest => endsToken rest
    | _ => false

/-- Past the characters before the end of the line. -/
def toLineEnd (cur : Cursor) : Cursor :=
  cur.skip (cur.rest.takeWhile (!isBreak ·)).length

/-- Past the blanks that come next. -/
def pastBlanks (cur : Cursor) : Cursor := cur.skip (cur.rest.takeWhile isBlank).length

end Cursor
end TypeExchange.Yaml
