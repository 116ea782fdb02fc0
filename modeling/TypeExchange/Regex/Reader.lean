import TypeExchange.Regex.Expr
import TypeExchange.Unicode.Character
import TypeExchange.Unicode.WhiteSpace

/-! Reading regular expressions. Every reader takes the characters that are left and returns what
it read with the characters after it. -/
namespace TypeExchange.Regex

/-- Where a reader stands: what is left, whether white space and comments are skipped, and the
group names that are taken. -/
structure Cursor where
  rest : List Char
  verbose : Bool
  names : List (List Char)

/-- Drops white space and comments, which run to the end of the line. -/
def skipVerbose (inComment : Bool) : List Char → List Char
  | [] => []
  | c :: cs =>
    if inComment then skipVerbose (c != '\n') cs
    else if Unicode.isWhiteSpace c then skipVerbose false cs
    else if c = '#' then skipVerbose true cs
    else c :: cs

def skip (verbose : Bool) (cs : List Char) : List Char :=
  if verbose then skipVerbose false cs else cs

/-- The next character that counts, for the choice between a range and a literal hyphen. -/
def peekPast (verbose : Bool) (cs : List Char) : Option Char :=
  if verbose then
    match cs.dropWhile Unicode.isWhiteSpace with
    | '#' :: cs => (cs.dropWhile Unicode.isWhiteSpace).head?
    | cs => cs.head?
  else cs.head?

/-- Every character of ASCII but letters, digits and the angle brackets stands for itself after a
backslash. -/
def isEscapable (c : Char) : Bool :=
  c.toNat < 128 && !c.isAlphanum && c != '<' && c != '>'

def isHexDigit (c : Char) : Bool := (Unicode.hexDigit? c).isSome

def charOfHex? (digits : List Char) : Option Char :=
  let n := Unicode.natOfHex digits
  if n.isValidChar ∧ digits ≠ [] then some (Char.ofNat n) else none

/-- A fixed number of hexadecimal digits. -/
def readHexDigits (verbose : Bool) : Nat → List Char → Except Fault (List Char × List Char)
  | 0, cs => .ok ([], cs)
  | n + 1, c :: cs =>
    if isHexDigit c then do
      let (digits, rest) ← readHexDigits verbose n (skip verbose cs)
      return (c :: digits, rest)
    else .error .badEscape
  | _ + 1, [] => .error .badEscape

/-- Characters that satisfy `p`, with what is skipped between them. The first argument bounds
their number. -/
def readWhile (verbose : Bool) (p : Char → Bool) : Nat → List Char → List Char × List Char
  | n + 1, c :: cs =>
    if p c then
      let (taken, rest) := readWhile verbose p n (skip verbose cs)
      (c :: taken, rest)
    else ([], c :: cs)
  | _, cs => ([], cs)

def readAllWhile (verbose : Bool) (p : Char → Bool) (cs : List Char) : List Char × List Char :=
  readWhile verbose p cs.length cs

/-- The code point after `\x`, `\u` or `\U`, which takes `width` digits or any number in braces. -/
def readHex (verbose : Bool) (width : Nat) (cs : List Char) : Except Fault (Literal × List Char) :=
  match skip verbose cs with
  | '\x7b' :: cs =>
    let (digits, rest) := readAllWhile verbose isHexDigit (skip verbose cs)
    match rest, charOfHex? digits with
    | '\x7d' :: rest, some c => .ok (⟨c, false⟩, skip verbose rest)
    | _, _ => .error .badEscape
  | cs => do
    let (digits, rest) ← readHexDigits verbose width cs
    match charOfHex? digits with
    | some c => .ok (⟨c, width == 2⟩, rest)
    | none => .error .badEscape

/-- The first place where `mark` stands: what is before it and what is after it. -/
def splitAt? (mark : List Char) : List Char → Option (List Char × List Char)
  | [] => none
  | c :: cs =>
    if mark.isPrefixOf (c :: cs) then some ([], (c :: cs).drop mark.length)
    else (splitAt? mark cs).map fun (before, after) => (c :: before, after)

/-- The property in braces, and whether its value is excluded: `!=` asks for the characters that do
not have it, as `\P` does. -/
def propertyOf (text : List Char) : Property × Bool :=
  match splitAt? ['!', '='] text with
  | some (name, value) => (.valued name value, true)
  | none => match splitAt? [':'] text with
    | some (name, value) => (.valued name value, false)
    | none => match splitAt? ['='] text with
      | some (name, value) => (.valued name value, false)
      | none => (.named text, false)

/-- What follows `\p`: one letter, or a name in braces. -/
def readProperty (verbose : Bool) (cs : List Char) :
    Except Fault (Property × Bool × List Char) :=
  match skip verbose cs with
  | [] => .error .badEscape
  | '\x7b' :: cs =>
    let (text, rest) := readAllWhile verbose (· != '\x7d') (skip verbose cs)
    match rest with
    | '\x7d' :: rest =>
      let (p, excluded) := propertyOf text
      .ok (p, excluded, rest)
    | _ => .error .badEscape
  | c :: cs => if c = '\\' then .error .badEscape else .ok (.named [c], false, skip verbose cs)

/-- The kind of word boundary in braces after `\b`. The brace opens a repetition instead if no
letter or hyphen follows. -/
def readBoundary (verbose : Bool) (cs : List Char) : Except Fault (Anchor × List Char) :=
  let isNameChar (c : Char) : Bool := c.isAlpha || c == '-'
  match cs with
  | '\x7b' :: inner =>
    match skip verbose inner with
    | [] => .error .badEscape
    | c :: inner =>
      if !isNameChar c then .ok (.wordBoundary, cs)
      else
        let (name, rest) := readAllWhile verbose isNameChar (c :: inner)
        match rest with
        | '\x7d' :: rest =>
          if name = "start".toList then .ok (.wordStart, rest)
          else if name = "end".toList then .ok (.wordEnd, rest)
          else if name = "start-half".toList then .ok (.wordStartHalf, rest)
          else if name = "end-half".toList then .ok (.wordEndHalf, rest)
          else .error .badEscape
        | _ => .error .badEscape
  | cs => .ok (.wordBoundary, cs)

/-- What a letter or sign after a backslash stands for on its own. -/
def simpleEscape? : Char → Option Expr
  | 'a' => some (.literal ⟨'\x07', false⟩)
  | 'f' => some (.literal ⟨'\x0c', false⟩)
  | 't' => some (.literal ⟨'\t', false⟩)
  | 'n' => some (.literal ⟨'\n', false⟩)
  | 'r' => some (.literal ⟨'\r', false⟩)
  | 'v' => some (.literal ⟨'\x0b', false⟩)
  | 'd' => some (.shorthand .digit false)
  | 's' => some (.shorthand .space false)
  | 'w' => some (.shorthand .word false)
  | 'D' => some (.shorthand .digit true)
  | 'S' => some (.shorthand .space true)
  | 'W' => some (.shorthand .word true)
  | 'A' => some (.anchor .textStart)
  | 'z' => some (.anchor .textEnd)
  | 'B' => some (.anchor .notWordBoundary)
  | '<' => some (.anchor .wordStart)
  | '>' => some (.anchor .wordEnd)
  | _ => none

/-- What follows a backslash. Where `\P` and `!=` both exclude a value they cancel. -/
def readEscape (verbose : Bool) : List Char → Except Fault (Expr × List Char)
  | [] => .error .badEscape
  | c :: cs =>
    if c.isDigit then .error .backreference
    else if c = 'x' ∨ c = 'u' ∨ c = 'U' then do
      let width := if c = 'x' then 2 else if c = 'u' then 4 else 8
      let (l, rest) ← readHex verbose width cs
      return (.literal l, rest)
    else if c = 'p' ∨ c = 'P' then do
      let (p, excluded, rest) ← readProperty verbose cs
      return (.property p ((c == 'P') != excluded), rest)
    else if isEscapable c then .ok (.literal ⟨c, false⟩, cs)
    else if c = 'b' then do
      let (a, rest) ← readBoundary verbose cs
      return (.anchor a, rest)
    else match simpleEscape? c with
      | some e => .ok (e, cs)
      | none => .error .badEscape

/-- One character or escape outside of classes, where `c` has been read. -/
def readPrimitive (verbose : Bool) (c : Char) (cs : List Char) : Except Fault (Expr × List Char) :=
  match c with
  | '\\' => readEscape verbose cs
  | '.' => .ok (.dot, cs)
  | '^' => .ok (.anchor .lineStart, cs)
  | '$' => .ok (.anchor .lineEnd, cs)
  | c => .ok (.literal ⟨c, false⟩, cs)

/-- The ranges of the classes that have a name between colons. -/
def posixRanges? (name : List Char) : Option (List (Char × Char)) :=
  let upper := ('A', 'Z')
  let lower := ('a', 'z')
  let digit := ('0', '9')
  match String.ofList name with
  | "alnum" => some [digit, upper, lower]
  | "alpha" => some [upper, lower]
  | "ascii" => some [('\x00', '\x7f')]
  | "blank" => some [('\t', '\t'), (' ', ' ')]
  | "cntrl" => some [('\x00', '\x1f'), ('\x7f', '\x7f')]
  | "digit" => some [digit]
  | "graph" => some [('!', '~')]
  | "lower" => some [lower]
  | "print" => some [(' ', '~')]
  | "punct" => some [('!', '/'), (':', '@'), ('[', '\x60'), ('\x7b', '~')]
  | "space" => some [('\t', '\r'), (' ', ' ')]
  | "upper" => some [upper]
  | "word" => some [digit, upper, ('_', '_'), lower]
  | "xdigit" => some [digit, ('A', 'F'), ('a', 'f')]
  | _ => none

/-- A named class such as `[:alpha:]` whose bracket has been read, if one stands here. -/
def readPosix? : List Char → Option (SetExpr × List Char)
  | ':' :: cs =>
    let (negated, cs) := match cs with
      | '^' :: cs => (true, cs)
      | cs => (false, cs)
    match cs.dropWhile (· != ':') with
    | ':' :: ']' :: rest =>
      (posixRanges? (cs.takeWhile (· != ':'))).map fun ranges => (.posix ranges negated, rest)
    | _ => none
  | _ => none

/-- An item of a class by itself. -/
def setItem : Expr → Except Fault SetExpr
  | .literal l => .ok (.literal l)
  | .shorthand kind negated => .ok (.shorthand kind negated)
  | .property p negated => .ok (.property p negated)
  | _ => .error .badClassItem

def readSetPrimitive (verbose : Bool) : List Char → Except Fault (Expr × List Char)
  | [] => .error .unclosedClass
  | '\\' :: cs => readEscape verbose cs
  | c :: cs => .ok (.literal ⟨c, false⟩, cs)

/-- An item of a class, or a range between two literals. -/
def readSetItem (verbose : Bool) (cs : List Char) : Except Fault (SetExpr × List Char) := do
  let (first, rest) ← readSetPrimitive verbose cs
  match skip verbose rest with
  | [] => .error .unclosedClass
  | '-' :: rest =>
    let next := peekPast verbose rest
    if next = some ']' ∨ next = some '-' then
      return (← setItem first, '-' :: rest)
    else
      let (last, rest) ← readSetPrimitive verbose (skip verbose rest)
      match first, last with
      | .literal a, .literal b =>
        if a.char ≤ b.char then return (.range a b, rest) else .error .badRange
      | _, _ => .error .badRange
  | rest => return (← setItem first, rest)

def readHyphens (verbose : Bool) : Nat → List Char → List SetExpr × List Char
  | n + 1, '-' :: cs =>
    let (items, rest) := readHyphens verbose n (skip verbose cs)
    (.literal ⟨'-', false⟩ :: items, rest)
  | _, cs => ([], cs)

/-- What follows an opening bracket: whether the class is negated, and the hyphens or the closing
bracket that stand for themselves because they come first. -/
def readSetOpening (verbose : Bool) (cs : List Char) :
    Except Fault (Bool × List SetExpr × List Char) :=
  let cs := skip verbose cs
  let (negated, cs) := match cs with
    | '^' :: cs => (true, skip verbose cs)
    | cs => (false, cs)
  let (hyphens, cs) := readHyphens verbose cs.length cs
  match hyphens, cs with
  | _, [] => .error .unclosedClass
  | [], ']' :: cs =>
    match skip verbose cs with
    | [] => .error .unclosedClass
    | cs => .ok (negated, [.literal ⟨']', false⟩], cs)
  | hyphens, cs => .ok (negated, hyphens, cs)

/-- The operand on the left of an operator, with the operator. -/
abbrev PendingOperation := Option (SetOperation × SetExpr)

/-- Operators group to the left and bind alike. The items are in reverse order. -/
def closeOperand (pending : PendingOperation) (items : List SetExpr) : SetExpr :=
  let operand := SetExpr.ofItems items.reverse
  match pending with
  | none => operand
  | some (op, left) => .operation op left operand

/-- What stands in a class up to its closing bracket. -/
def readSet (verbose : Bool) :
    Nat → PendingOperation → List SetExpr → List Char → Except Fault (SetExpr × List Char)
  | 0, _, _, _ => .error .unclosedClass
  | n + 1, pending, items, cs =>
    match skip verbose cs with
    | [] => .error .unclosedClass
    | ']' :: rest => .ok (closeOperand pending items, rest)
    | '[' :: rest =>
      match readPosix? rest with
      | some (item, rest) => readSet verbose n pending (item :: items) rest
      | none => do
        let (negated, first, rest) ← readSetOpening verbose rest
        let (content, rest) ← readSet verbose n none first.reverse rest
        readSet verbose n pending (.bracketed negated content :: items) rest
    | '&' :: '&' :: rest =>
      readSet verbose n (some (.intersection, closeOperand pending items)) [] rest
    | '-' :: '-' :: rest =>
      readSet verbose n (some (.difference, closeOperand pending items)) [] rest
    | '~' :: '~' :: rest =>
      readSet verbose n (some (.symmetricDifference, closeOperand pending items)) [] rest
    | rest => do
      let (item, rest) ← readSetItem verbose rest
      readSet verbose n pending (item :: items) rest

/-- A class whose opening bracket has been read. -/
def readClass (verbose : Bool) (cs : List Char) : Except Fault (Expr × List Char) := do
  let (negated, first, rest) ← readSetOpening verbose cs
  let (content, rest) ← readSet verbose (cs.length + 1) none first.reverse rest
  return (.bracketed negated content, rest)

def flag? : Char → Option Flag
  | 'i' => some .ignoreCase
  | 'm' => some .multiLine
  | 's' => some .dotAll
  | 'U' => some .swapGreed
  | 'u' => some .unicode
  | 'R' => some .crlf
  | 'x' => some .verbose
  | _ => none

/-- Flags up to a colon or a closing parenthesis, which is returned. Those after a hyphen are
cleared. Neither a flag nor the hyphen comes twice, and a flag follows the hyphen. -/
def readFlags (changes : FlagChanges) (negated : Bool) :
    List Char → Except Fault (FlagChanges × Char × List Char)
  | [] => .error .unclosedGroup
  | c :: cs =>
    if c = ':' ∨ c = ')' then .ok (changes.reverse, c, cs)
    else if c = '-' then
      if negated ∨ cs.head? = some ':' ∨ cs.head? = some ')' then .error .badFlags
      else readFlags changes true cs
    else match flag? c with
      | none => .error .badFlags
      | some flag =>
        if (changes.find flag).isSome then .error .badFlags
        else readFlags ((flag, !negated) :: changes) negated cs

def isNameStart (c : Char) : Bool := c == '_' || Unicode.isAlphabetic c

def isNameChar (c : Char) : Bool :=
  isNameStart c || c == '.' || c == '[' || c == ']' || Unicode.isNumeric c

/-- The name of a group, up to the closing angle bracket. -/
def readGroupName (names : List (List Char)) (cs : List Char) :
    Except Fault (List Char × List Char) :=
  match cs.takeWhile (· != '>'), cs.dropWhile (· != '>') with
  | c :: name, _ :: rest =>
    if isNameStart c ∧ name.all isNameChar ∧ !names.contains (c :: name) then
      .ok (c :: name, rest)
    else .error .badGroupName
  | _, _ => .error .badGroupName

/-- What an opening parenthesis begins: flags for the rest of the group around it, or a group with
flags of its own. -/
inductive Opening where
  | flags (changes : FlagChanges)
  | group (captures : Bool) (changes : FlagChanges)

def readOpening (cursor : Cursor) : Except Fault (Opening × Cursor) :=
  let named (cs : List Char) : Except Fault (Opening × Cursor) := do
    let (name, rest) ← readGroupName cursor.names cs
    return (.group true [], { cursor with rest, names := name :: cursor.names })
  match skip cursor.verbose cursor.rest with
  | '?' :: '=' :: _ | '?' :: '!' :: _ | '?' :: '<' :: '=' :: _ | '?' :: '<' :: '!' :: _ =>
    .error .lookAround
  | '?' :: 'P' :: '<' :: cs => named cs
  | '?' :: '<' :: cs => named cs
  | '?' :: cs => do
    let (changes, close, rest) ← readFlags [] false cs
    if close = ')' then
      if changes.isEmpty then .error .nothingToRepeat
      else return (.flags changes, { cursor with rest })
    else return (.group false changes, { cursor with rest })
  | cs => .ok (.group true [], { cursor with rest := cs })

def decimal? (digits : List Char) : Option Nat :=
  let n := digits.foldl (fun n c => 10 * n + (c.toNat - '0'.toNat)) 0
  if digits = [] ∨ 0x100000000 ≤ n then none else some n

/-- Digits with white space around them. -/
def readCount (verbose : Bool) (cs : List Char) : Option Nat × List Char :=
  let (digits, rest) := readAllWhile verbose Char.isDigit (cs.dropWhile Unicode.isWhiteSpace)
  (decimal? digits, skip verbose (rest.dropWhile Unicode.isWhiteSpace))

/-- The bounds of a repetition whose opening brace has been read. -/
def readBounds (verbose : Bool) (cs : List Char) :
    Except Fault (Nat × Option Nat × List Char) :=
  match readCount verbose (skip verbose cs) with
  | (some least, '\x7d' :: rest) => .ok (least, some least, rest)
  | (some least, ',' :: rest) =>
    match skip verbose rest with
    | '\x7d' :: rest => .ok (least, none, rest)
    | rest =>
      match readCount verbose rest with
      | (some most, '\x7d' :: rest) =>
        if least ≤ most then .ok (least, some most, rest) else .error .badRepetition
      | _ => .error .badRepetition
  | _ => .error .badRepetition

/-- The mark that makes a repetition lazy. -/
def readGreedy : List Char → Bool × List Char
  | '?' :: rest => (false, rest)
  | rest => (true, rest)

/-- Repeats the last of the items, which are in reverse order. -/
def repeatLast (items : List Expr) (least : Nat) (most : Option Nat) (greedy : Bool) :
    Except Fault (List Expr) :=
  match items with
  | e :: items =>
    if e.isRepeatable then .ok (.times e least most greedy :: items) else .error .nothingToRepeat
  | [] => .error .nothingToRepeat

/-- The branches of a group and the items of its last branch, both in reverse order. -/
structure Pending where
  branches : List Expr
  items : List Expr

def Pending.add (p : Pending) (e : Expr) : Pending := { p with items := e :: p.items }

def Pending.branch (p : Pending) : Pending :=
  ⟨Expr.ofItems p.items.reverse :: p.branches, []⟩

def Pending.close (p : Pending) : Expr :=
  Expr.ofBranches (Expr.ofItems p.items.reverse :: p.branches).reverse

/-- Reads up to the parenthesis that closes the group, or to the end. -/
def readGroup : Nat → Pending → Cursor → Except Fault (Expr × Cursor)
  | 0, _, _ => .error .unclosedGroup
  | n + 1, p, cursor =>
    let v := cursor.verbose
    match skip v cursor.rest with
    | [] => .ok (p.close, { cursor with rest := [] })
    | ')' :: rest => .ok (p.close, { cursor with rest := ')' :: rest })
    | '|' :: rest => readGroup n p.branch { cursor with rest }
    | '(' :: rest => do
      let (opening, cursor) ← readOpening { cursor with rest }
      match opening with
      | .flags changes =>
        readGroup n (p.add (.setFlags changes))
          { cursor with verbose := (changes.find .verbose).getD v }
      | .group captures changes =>
        let (e, inner) ← readGroup n ⟨[], []⟩
          { cursor with verbose := (changes.find .verbose).getD v }
        match inner.rest with
        | ')' :: rest =>
          readGroup n (p.add (.group captures changes e)) { inner with rest, verbose := v }
        | _ => .error .unclosedGroup
    | '[' :: rest => do
      let (e, rest) ← readClass v rest
      readGroup n (p.add e) { cursor with rest }
    | '?' :: rest => do
      let (greedy, rest) := readGreedy rest
      readGroup n { p with items := ← repeatLast p.items 0 (some 1) greedy } { cursor with rest }
    | '*' :: rest => do
      let (greedy, rest) := readGreedy rest
      readGroup n { p with items := ← repeatLast p.items 0 none greedy } { cursor with rest }
    | '+' :: rest => do
      let (greedy, rest) := readGreedy rest
      readGroup n { p with items := ← repeatLast p.items 1 none greedy } { cursor with rest }
    | '\x7b' :: rest => do
      let (least, most, rest) ← readBounds v rest
      let (greedy, rest) := readGreedy (skip v rest)
      readGroup n { p with items := ← repeatLast p.items least most greedy } { cursor with rest }
    | c :: rest => do
      let (e, rest) ← readPrimitive v c rest
      readGroup n (p.add e) { cursor with rest }

/-- The expression that a text writes. -/
def Expr.parse (text : String) : Except Fault Expr := do
  let cs := text.toList
  let (e, cursor) ← readGroup (cs.length + 1) ⟨[], []⟩ ⟨cs, false, []⟩
  if cursor.rest ≠ [] then .error .unopenedGroup
  else if nestLimit < e.depth then .error .nestedTooDeep
  else return e

end TypeExchange.Regex
