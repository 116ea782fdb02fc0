import TypeExchange.Yaml.Scalar
import TypeExchange.Yaml.Token

/-! The division of a document into tokens. Whether a scalar or a collection was a key shows only
at the colon behind it, so the tokens that begin a key are put in before it then. -/
namespace TypeExchange.Yaml

/-- A place where a key may have begun. -/
structure KeyPlace where
  /-- Whether the line would have no meaning without its colon. -/
  required : Bool
  tokensBefore : Nat
  line : Nat
  index : Nat
  column : Nat

structure Lexer where
  cursor : Cursor
  /-- The tokens so far, the last one first. -/
  tokens : List Token
  count : Nat
  /-- The least column at which the innermost block collection goes on. -/
  margin : Nat
  /-- The margins of the collections around it. -/
  margins : List Nat
  /-- Whether a key may begin here. -/
  keyAllowed : Bool
  /-- The place of a possible key in the document and in each flow collection that is open, the
  innermost first. -/
  keys : List (Option KeyPlace)

namespace Lexer

def start (text : List Char) : Lexer where
  cursor := .start text
  tokens := []
  count := 0
  margin := 0
  margins := []
  keyAllowed := true
  keys := [none]

def inFlow (l : Lexer) : Bool := 1 < l.keys.length

def add (l : Lexer) (t : Token) : Lexer := { l with tokens := t :: l.tokens, count := l.count + 1 }

/-- Puts tokens in behind the first `place` ones. -/
def insert (l : Lexer) (place : Nat) (new : List Token) : Lexer :=
  let later := l.count - place
  { l with
    tokens := l.tokens.take later ++ new.reverse ++ l.tokens.drop later
    count := l.count + new.length }

/-- Drops the possible key of the innermost collection. -/
def dropKey (l : Lexer) : Except Fault Lexer :=
  match l.keys with
  | some k :: rest => if k.required then .error .colon else .ok { l with keys := none :: rest }
  | _ => .ok l

/-- Keeps this place, if a key may begin here. -/
def saveKey (l : Lexer) : Except Fault Lexer :=
  if l.keyAllowed then do
    let k : KeyPlace :=
      { required := !l.inFlow && l.margin == l.cursor.column + 1
        tokensBefore := l.count
        line := l.cursor.line
        index := l.cursor.index
        column := l.cursor.column }
    let l ← l.dropKey
    return { l with keys := some k :: l.keys.tail }
  else .ok l

/-- A key ends on the line where it began, at most 1024 bytes further on. -/
def dropStale (cur : Cursor) : List (Option KeyPlace) → Except Fault (List (Option KeyPlace))
  | [] => .ok []
  | none :: rest => do return none :: (← dropStale cur rest)
  | some k :: rest =>
    if k.line < cur.line ∨ k.index + 1024 < cur.index then
      if k.required then .error .colon else do return none :: (← dropStale cur rest)
    else do return some k :: (← dropStale cur rest)

/-- Whether a block collection begins at this column; it is put in by the caller. -/
def opensBlock (l : Lexer) (column : Nat) : Bool := !l.inFlow && l.margin ≤ column

def openBlock (l : Lexer) (column : Nat) : Lexer :=
  if l.opensBlock column then
    { l with margins := l.margin :: l.margins, margin := column + 1 }
  else l

/-- Ends the block collections whose margin is beyond `limit`. -/
def closeBlocks (limit : Nat) : List Nat → Lexer → Lexer
  | [], l => l
  | outer :: rest, l =>
    if limit < l.margin then
      closeBlocks limit rest { l.add .blockEnd with margin := outer, margins := rest }
    else l

def closeTo (l : Lexer) (limit : Nat) : Lexer :=
  if l.inFlow then l else closeBlocks limit l.margins l

/-- Past blanks, comments and breaks. A tab is no indentation. -/
def skipSpacing : Nat → Lexer → Lexer
  | 0, l => l
  | n + 1, l =>
    match l.cursor.rest with
    | [] => l
    | c :: _ =>
      if c = ' ' ∨ (c = '\t' ∧ (l.inFlow ∨ !l.keyAllowed)) ∨
          (c = '\ufeff' ∧ l.cursor.column = 0) then
        skipSpacing n { l with cursor := l.cursor.next }
      else if c = '#' then skipSpacing n { l with cursor := l.cursor.toLineEnd }
      else if isBreak c then
        skipSpacing n
          { l with cursor := l.cursor.nextLine, keyAllowed := l.keyAllowed || !l.inFlow }
      else l

def isWordChar (c : Char) : Bool := c.isAlphanum || c == '-' || c == '_'

/-- A name and the place behind it. -/
def readWord (cur : Cursor) : List Char × Cursor :=
  let word := cur.rest.takeWhile isWordChar
  (word, cur.skip word.length)

/-- A number of at most nine digits. -/
def readVersionNumber (cur : Cursor) : Except Fault (Nat × Cursor) :=
  let digits := cur.rest.takeWhile Char.isDigit
  if digits = [] ∨ 9 < digits.length then .error .directive
  else .ok (digits.foldl (fun n c => 10 * n + (c.toNat - '0'.toNat)) 0, cur.skip digits.length)

/-- The handle of a tag: an exclamation mark, or a word between two. In a directive nothing else
may begin with one. -/
def readHandle (inDirective : Bool) (cur : Cursor) : Except Fault (List Char × Cursor) :=
  match cur.rest with
  | '!' :: _ =>
    let (word, cur) := readWord cur.next
    match cur.rest with
    | '!' :: _ => .ok ('!' :: word ++ ['!'], cur.next)
    | _ => if inDirective ∧ word ≠ [] then .error .tag else .ok ('!' :: word, cur)
  | _ => .error .tag

def isUriChar (inBrackets : Bool) (c : Char) : Bool :=
  isWordChar c ||
    [';', '/', '?', ':', '@', '&', '=', '+', '$', '.', '%', '!', '~', '*', '\'', '(', ')'].contains
      c ||
    (inBrackets && (c == ',' || c == '[' || c == ']'))

/-- The octet that a percent sign and two digits write. -/
def escapedOctet? : List Char → Option (UInt8 × List Char)
  | '%' :: a :: b :: rest => do
    let a ← Unicode.hexDigit? a
    let b ← Unicode.hexDigit? b
    some ((16 * a + b).toUInt8, rest)
  | _ => none

/-- Octets that go on a character in UTF-8. -/
def continuation? : Nat → List Char → Option (Tag × List Char)
  | 0, rest => some ([], rest)
  | n + 1, rest => do
    let (octet, rest) ← escapedOctet? rest
    if octet / 64 = 2 then
      let (octets, rest) ← continuation? n rest
      some (octet :: octets, rest)
    else none

/-- As many octets as the first of them announces for its character. -/
def escapedOctets? (cs : List Char) : Option (Tag × List Char) := do
  let (octet, rest) ← escapedOctet? cs
  let more ←
    if octet < 128 then some 0
    else if octet / 32 = 6 then some 1
    else if octet / 16 = 14 then some 2
    else if octet / 8 = 30 then some 3
    else none
  let (octets, rest) ← continuation? more rest
  some (octet :: octets, rest)

def octetOf (c : Char) : UInt8 := c.toNat.toUInt8

/-- The octets of a tag up to the first character that cannot stand in one. -/
def readUri (inBrackets : Bool) : Nat → Cursor → Except Fault (Tag × Cursor)
  | 0, cur => .ok ([], cur)
  | n + 1, cur =>
    match cur.rest with
    | '%' :: _ =>
      match escapedOctets? cur.rest with
      | some (octets, _) => do
        let (uri, cur) ← readUri inBrackets n (cur.skip (3 * octets.length))
        return (octets ++ uri, cur)
      | none => .error .tag
    | c :: _ =>
      if isUriChar inBrackets c then do
        let (uri, cur) ← readUri inBrackets n cur.next
        return (octetOf c :: uri, cur)
      else .ok ([], cur)
    | [] => .ok ([], cur)

def readWholeUri (inBrackets : Bool) (cur : Cursor) : Except Fault (Tag × Cursor) :=
  readUri inBrackets cur.rest.length cur

/-- The end of a directive's line. -/
def endDirective (t : Token) (cur : Cursor) : Except Fault (Token × Cursor) :=
  let cur := cur.pastBlanks
  let cur := if cur.rest.head? = some '#' then cur.toLineEnd else cur
  match cur.rest with
  | [] => .ok (t, cur)
  | c :: _ => if isBreak c then .ok (t, cur.nextLine) else .error .directive

/-- A directive whose percent sign comes next: the version of the language, or a handle for
tags. -/
def readDirective (cur : Cursor) : Except Fault (Token × Cursor) := do
  let (name, cur) := readWord cur.next
  if name = [] ∨ !endsToken cur.rest then .error .directive
  else if name = "YAML".toList then
    let (major, cur) ← readVersionNumber cur.pastBlanks
    match cur.rest with
    | '.' :: _ =>
      let (minor, cur) ← readVersionNumber cur.next
      endDirective (.version major minor) cur
    | _ => .error .directive
  else if name = "TAG".toList then
    let (handle, cur) ← readHandle true cur.pastBlanks
    if !cur.rest.head?.any isBlank then .error .directive
    else
      let (uri, cur) ← readWholeUri true cur.pastBlanks
      if uri = [] ∨ !endsToken cur.rest then .error .directive
      else endDirective (.tagDirective handle uri.cut) cur
  else .error .directive

/-- A tag: in angle brackets, with a handle, or with the exclamation mark alone. -/
def readTag (inFlow : Bool) (cur : Cursor) : Except Fault (Token × Cursor) := do
  let (t, cur) ← match cur.rest with
    | '!' :: '<' :: _ => do
      let (uri, cur) ← readWholeUri true (cur.skip 2)
      match uri, cur.rest with
      | _ :: _, '>' :: _ => pure (Token.tag [] uri.cut, cur.next)
      | _, _ => .error .tag
    | _ => do
      let (handle, cur) ← readHandle false cur
      if 1 < handle.length ∧ handle.getLast? = some '!' then
        let (suffix, cur) ← readWholeUri false cur
        if suffix = [] then .error .tag else pure (Token.tag handle suffix.cut, cur)
      else
        let (more, cur) ← readWholeUri false cur
        match Tag.cut (handle.tail.map octetOf ++ more) with
        | [] => pure (Token.tag [] [Tag.mark], cur)
        | suffix => pure (Token.tag ['!'] suffix, cur)
  if (inFlow ∧ cur.rest.head? = some ',') ∨ endsToken cur.rest then return (t, cur)
  else .error .tag

/-- The name of an anchor, behind its sign. -/
def readAnchor (cur : Cursor) : Except Fault (List Char × Cursor) :=
  let (name, cur) := readWord cur.next
  if name ≠ [] ∧ (endsToken cur.rest ∨
      cur.rest.head?.any (['?', ':', ',', ']', '\x7d', '%', '@', '\x60'].contains ·)) then
    .ok (name, cur)
  else .error .anchor

/-- Ends all block collections before a directive or a mark between documents. -/
def leaveDocument (l : Lexer) : Except Fault Lexer := do
  let l ← (l.closeTo 0).dropKey
  return { l with keyAllowed := false }

def openFlow (l : Lexer) (t : Token) : Except Fault Lexer := do
  let l ← l.saveKey
  return { l.add t with keys := none :: l.keys, keyAllowed := true, cursor := l.cursor.next }

def closeFlow (l : Lexer) (t : Token) : Except Fault Lexer := do
  let l ← l.dropKey
  return { l.add t with
    keys := if l.inFlow then l.keys.tail else l.keys
    keyAllowed := false
    cursor := l.cursor.next }

/-- Begins a block collection where an entry or a key stands, if none is open at its column. -/
def beginBlock (l : Lexer) (t : Token) (misplaced : Fault) : Except Fault Lexer :=
  if l.inFlow then .ok l
  else if !l.keyAllowed then .error misplaced
  else if l.opensBlock l.cursor.column then .ok ((l.openBlock l.cursor.column).add t)
  else .ok l

def blockEntry (l : Lexer) : Except Fault Lexer := do
  let l ← (← l.beginBlock .blockSequence .entry).dropKey
  return { l.add .blockEntry with keyAllowed := true, cursor := l.cursor.next }

def explicitKey (l : Lexer) : Except Fault Lexer := do
  let l ← (← l.beginBlock .blockMapping .key).dropKey
  return { l.add .key with keyAllowed := !l.inFlow, cursor := l.cursor.next }

/-- The colon behind a key. -/
def value (l : Lexer) : Except Fault Lexer := do
  match l.keys with
  | some k :: rest =>
    let opening := if l.opensBlock k.column then [.blockMapping] else []
    let l := (l.insert k.tokensBefore (opening ++ [.key])).openBlock k.column
    return { l.add .value with
      keys := none :: rest
      keyAllowed := false
      cursor := l.cursor.next }
  | _ =>
    let l ← l.beginBlock .blockMapping .value
    return { l.add .value with keyAllowed := !l.inFlow, cursor := l.cursor.next }

/-- Adds a token with which a key may begin. -/
def node (l : Lexer) (read : Except Fault (Token × Cursor)) : Except Fault Lexer := do
  let l ← l.saveKey
  let (t, cursor) ← read
  return { l.add t with keyAllowed := false, cursor }

def blockScalar (n : Nat) (l : Lexer) (folded : Bool) : Except Fault Lexer := do
  let l ← l.dropKey
  let (text, cursor) ← readBlock folded l.margin n l.cursor.next
  let style := if folded then Style.folded else Style.literal
  return { l.add (.scalar style text) with keyAllowed := true, cursor }

def quoted (n : Nat) (l : Lexer) (single : Bool) : Except Fault Lexer :=
  l.node do
    let (text, cursor) ← readQuoted single n [] l.cursor.next
    return (.scalar (if single then .single else .double) text, cursor)

def plain (n : Nat) (l : Lexer) : Except Fault Lexer := do
  let l ← l.saveKey
  let (text, broken, cursor) ← readPlain l.inFlow l.margin n [] .none l.cursor
  return { l.add (.scalar .plain text) with keyAllowed := broken, cursor }

def isIndicator (c : Char) : Bool :=
  ['-', '?', ':', ',', '[', ']', '\x7b', '\x7d', '#', '&', '*', '!', '|', '>', '\'', '"', '%', '@',
    '\x60'].contains c

/-- Adds the token that comes next, where something is left of the text, but no more than `n`
characters. -/
def readToken (n : Nat) (l : Lexer) (c : Char) (rest : List Char) : Except Fault Lexer := do
  if l.cursor.column = 0 ∧ c = '%' then
    let l ← l.leaveDocument
    let (t, cursor) ← readDirective l.cursor
    return { l.add t with cursor }
  else if l.cursor.atDocumentMark then
    let l ← l.leaveDocument
    return { l.add (if c = '-' then .documentStart else .documentEnd) with
      cursor := l.cursor.skip 3 }
  else if c = '[' then l.openFlow .flowSequence
  else if c = '\x7b' then l.openFlow .flowMapping
  else if c = ']' then l.closeFlow .flowSequenceEnd
  else if c = '\x7d' then l.closeFlow .flowMappingEnd
  else if c = ',' then
    let l ← l.dropKey
    return { l.add .flowEntry with keyAllowed := true, cursor := l.cursor.next }
  else if c = '-' ∧ endsToken rest then l.blockEntry
  else if c = '?' ∧ (l.inFlow ∨ endsToken rest) then l.explicitKey
  else if c = ':' ∧ (l.inFlow ∨ endsToken rest) then l.value
  else if c = '*' then
    l.node do
      let (name, cursor) ← readAnchor l.cursor
      return (.alias name, cursor)
  else if c = '&' then
    l.node do
      let (name, cursor) ← readAnchor l.cursor
      return (.anchor name, cursor)
  else if c = '!' then l.node (readTag l.inFlow l.cursor)
  else if c = '|' ∧ !l.inFlow then blockScalar n l false
  else if c = '>' ∧ !l.inFlow then blockScalar n l true
  else if c = '\'' then quoted n l true
  else if c = '"' then quoted n l false
  else if !(isIndicator c || isSpacing c) ∨ (c = '-' ∧ !rest.head?.any isBlank) ∨
      (!l.inFlow ∧ (c = '?' ∨ c = ':') ∧ !endsToken rest) then plain n l
  else .error .indicator

/-- All tokens of the text. The first argument is greater than the number of characters left, of
which each token takes one at least. -/
def run : Nat → Lexer → Except Fault (List Token)
  | 0, _ => .error .indicator
  | n + 1, l => do
    let l := skipSpacing n l
    let l := { l with keys := ← dropStale l.cursor l.keys }
    let l := l.closeTo (l.cursor.column + 1)
    match l.cursor.rest with
    | [] =>
      let l ← (l.closeTo 0).dropKey
      return (l.add .streamEnd).tokens.reverse
    | c :: rest => run n (← readToken n l c rest)

end Lexer

/-- The tokens of a text, which may begin with a byte order mark. -/
def tokens (text : String) : Except Fault (List Token) :=
  let cs := text.toList
  let cs := if cs.head? = some '\ufeff' then cs.tail else cs
  if cs.all isAllowed then
    let cs := normalizeBreaks cs
    (Lexer.start cs).run (cs.length + 2)
  else .error .character

end TypeExchange.Yaml
