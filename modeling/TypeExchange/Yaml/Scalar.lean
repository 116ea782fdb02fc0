import TypeExchange.Unicode.Run
import TypeExchange.Yaml.Cursor

/-! Reading scalars: quoted, plain, and in blocks. -/
namespace TypeExchange.Yaml

/-- Blanks and breaks between two characters of a scalar. After the first break blanks do not
count. -/
structure Gap where
  broken : Bool
  blanks : List Char
  first : List Char
  more : List Char

namespace Gap

def none : Gap := ⟨false, [], [], []⟩

/-- The gap after a break that was escaped. -/
def escaped : Gap := ⟨true, [], [], []⟩

def isEmpty (g : Gap) : Bool := !g.broken && g.blanks.isEmpty

/-- One line feed becomes a space, and of several the first is dropped. -/
def fold (g : Gap) : List Char :=
  if !g.broken then g.blanks
  else if g.first = ['\n'] then (if g.more.isEmpty then [' '] else g.more)
  else g.first ++ g.more

end Gap

/-- Reads the blanks and breaks that come next. Under a margin, no tab may stand left of it at the
beginning of a line. The first argument bounds their number. -/
def readGap (margin : Nat) : Nat → Gap → Cursor → Except Fault (Gap × Cursor)
  | 0, g, cur => .ok (g, cur)
  | n + 1, g, cur =>
    match cur.rest with
    | [] => .ok (g, cur)
    | c :: _ =>
      if isBlank c then
        if g.broken then
          if cur.column < margin ∧ c = '\t' then .error .tab else readGap margin n g cur.next
        else readGap margin n { g with blanks := g.blanks ++ [c] } cur.next
      else if isBreak c then
        if g.broken then readGap margin n { g with more := g.more ++ [c] } cur.nextLine
        else readGap margin n { g with broken := true, blanks := [], first := [c] } cur.nextLine
      else .ok (g, cur)

/-- The character that a letter or sign after a backslash stands for. -/
def simpleEscape? : Char → Option Char
  | '0' => some '\x00'
  | 'a' => some '\x07'
  | 'b' => some '\x08'
  | 't' | '\t' => some '\t'
  | 'n' => some '\n'
  | 'v' => some '\x0b'
  | 'f' => some '\x0c'
  | 'r' => some '\r'
  | 'e' => some '\x1b'
  | ' ' => some ' '
  | '"' => some '"'
  | '/' => some '/'
  | '\\' => some '\\'
  | 'N' => some '\u0085'
  | '_' => some '\u00a0'
  | 'L' => some '\u2028'
  | 'P' => some '\u2029'
  | _ => none

/-- The number of hexadecimal digits that follow a letter after a backslash. -/
def escapeWidth? : Char → Option Nat
  | 'x' => some 2
  | 'u' => some 4
  | 'U' => some 8
  | _ => none

/-- The character that an escape stands for and the number of characters after the backslash that
it takes. -/
def readEscape? : List Char → Option (Char × Nat)
  | [] => none
  | e :: rest =>
    match escapeWidth? e with
    | none => (simpleEscape? e).map fun c => (c, 1)
    | some width =>
      let digits := rest.take width
      let n := Unicode.natOfHex digits
      if digits.length = width ∧ digits.all (fun d => (Unicode.hexDigit? d).isSome) ∧
          n.isValidChar then
        some (Char.ofNat n, width + 1)
      else none

/-- Reads up to the closing quote. The text so far is reversed. The first number bounds the
characters that are left. -/
def readQuoted (single : Bool) : Nat → List Char → Cursor → Except Fault (List Char × Cursor)
  | 0, _, _ => .error .quote
  | n + 1, text, cur =>
    if cur.atDocumentMark then .error .quote
    else
      let between (g : Gap) (cur : Cursor) : Except Fault (List Char × Cursor) := do
        let (g, cur) ← readGap 0 n g cur
        readQuoted single n (g.fold.reverse ++ text) cur
      match cur.rest with
      | [] => .error .quote
      | c :: rest =>
        if isSpacing c then between .none cur
        else if single then
          if c = '\'' then
            match rest with
            | '\'' :: _ => readQuoted single n ('\'' :: text) (cur.skip 2)
            | _ => .ok (text.reverse, cur.next)
          else readQuoted single n (c :: text) cur.next
        else if c = '"' then .ok (text.reverse, cur.next)
        else if c = '\\' then
          match rest with
          | b :: _ =>
            if isBreak b then between .escaped cur.next.nextLine
            else match readEscape? rest with
              | some (e, width) => readQuoted single n (e :: text) (cur.skip (width + 1))
              | none => .error .escape
          | [] => .error .escape
        else readQuoted single n (c :: text) cur.next

def isFlowIndicator (c : Char) : Bool :=
  c == ',' || c == '[' || c == ']' || c == '\x7b' || c == '\x7d'

/-- Whether a plain scalar ends before `c`. -/
def endsPlain (inFlow afterGap : Bool) (c : Char) (rest : List Char) : Bool :=
  (c == '#' && afterGap) || (c == ':' && endsToken rest) || (inFlow && isFlowIndicator c)

/-- Reads a plain scalar. It ends before a colon that stands alone, a comment, a mark between
documents, an indicator of a flow collection that holds it, and a line left of the margin. `gap`
is what has been read since the last character; the text so far is reversed. Also returns whether
the scalar is followed by a break. -/
def readPlain (inFlow : Bool) (margin : Nat) :
    Nat → List Char → Gap → Cursor → Except Fault (List Char × Bool × Cursor)
  | 0, text, gap, cur => .ok (text.reverse, gap.broken, cur)
  | n + 1, text, gap, cur =>
    match if cur.atDocumentMark then [] else cur.rest with
    | [] => .ok (text.reverse, gap.broken, cur)
    | c :: rest =>
      if isSpacing c then do
        let (gap, cur) ← readGap margin n .none cur
        if !inFlow && cur.column < margin then return (text.reverse, gap.broken, cur)
        else readPlain inFlow margin n text gap cur
      else if c = ':' ∧ inFlow ∧
          (rest.head?.any fun d => isFlowIndicator d || d == '?') then .error .colon
      else if endsPlain inFlow (!gap.isEmpty) c rest then .ok (text.reverse, gap.broken, cur)
      else readPlain inFlow margin n (c :: (gap.fold.reverse ++ text)) .none cur.next

inductive Chomping where
  | strip | clip | keep
  deriving DecidableEq

def chomping? : Char → Option Chomping
  | '+' => some .keep
  | '-' => some .strip
  | _ => none

def increment? (c : Char) : Option Nat :=
  if c.isDigit then some (c.toNat - '0'.toNat) else none

/-- The header of a block scalar: how its end is chomped and how far it is indented, in either
order. Returns the characters that it takes. -/
def readBlockHeader : List Char → Chomping × Option Nat × Nat
  | [] => (.clip, none, 0)
  | c :: rest =>
    match chomping? c, increment? c with
    | some chomping, _ =>
      match rest.head?.bind increment? with
      | some n => (chomping, some n, 2)
      | none => (chomping, none, 1)
    | none, some n =>
      match rest.head?.bind chomping? with
      | some chomping => (chomping, some n, 2)
      | none => (.clip, some n, 1)
    | none, none => (.clip, none, 0)

/-- Reads indentation and empty lines. Without a known indentation all spaces are read and the
greatest column is kept. Returns the breaks, that column and the place after them. -/
def readBlockBreaks (indent : Option Nat) :
    Nat → List Char → Nat → Cursor → Except Fault (List Char × Nat × Cursor)
  | 0, breaks, greatest, cur => .ok (breaks, greatest, cur)
  | n + 1, breaks, greatest, cur =>
    let inside : Bool := indent.all (cur.column < ·)
    match cur.rest with
    | [] => .ok (breaks, max greatest cur.column, cur)
    | c :: _ =>
      if inside ∧ c = ' ' then readBlockBreaks indent n breaks greatest cur.next
      else if inside ∧ c = '\t' then .error .tab
      else if isBreak c then
        readBlockBreaks indent n (breaks ++ [c]) (max greatest cur.column) cur.nextLine
      else .ok (breaks, max greatest cur.column, cur)

/-- The parts of a block scalar that have been read: its text in reverse, the break that ended the
last line, whether that line began with a blank, and the breaks of empty lines after it. -/
structure BlockText where
  text : List Char
  lineBreak : List Char
  blankStart : Bool
  breaks : List Char

/-- Puts what stands between two lines behind the text. Folding turns a single line feed between
lines that begin without a blank into a space, and drops it before empty lines. -/
def BlockText.join (b : BlockText) (folded startsBlank : Bool) : List Char :=
  let between :=
    if folded && b.lineBreak == ['\n'] && !b.blankStart && !startsBlank then
      (if b.breaks.isEmpty then [' '] else []) ++ b.breaks
    else b.lineBreak ++ b.breaks
  between.reverse ++ b.text

/-- Reads the lines that are indented by `indent`. -/
def readBlockLines (folded : Bool) (indent : Nat) :
    Nat → BlockText → Cursor → Except Fault (BlockText × Cursor)
  | 0, b, cur => .ok (b, cur)
  | n + 1, b, cur =>
    match cur.rest with
    | [] => .ok (b, cur)
    | c :: _ =>
      if cur.column ≠ indent then .ok (b, cur)
      else do
        let line := cur.rest.takeWhile (!isBreak ·)
        let atEnd := cur.toLineEnd
        let text := line.reverse ++ b.join folded (isBlank c)
        match atEnd.rest with
        | [] => return (⟨text, [], isBlank c, []⟩, atEnd)
        | e :: _ =>
          let (breaks, _, cur) ←
            readBlockBreaks (some indent) n [] 0 atEnd.nextLine
          readBlockLines folded indent n ⟨text, [e], isBlank c, breaks⟩ cur

/-- Reads a block scalar whose indicator has been read, where at most `bound` characters are left. -/
def readBlock (folded : Bool) (margin bound : Nat) (cur : Cursor) :
    Except Fault (List Char × Cursor) := do
  let (chomping, increment, width) := readBlockHeader cur.rest
  if increment = some 0 then .error .blockHeader
  else
    let cur := (cur.skip width).pastBlanks
    let cur := if cur.rest.head? = some '#' then cur.toLineEnd else cur
    match cur.rest with
    | c :: _ =>
      if !isBreak c then .error .blockHeader
      else body chomping increment cur.nextLine
    | [] => body chomping increment cur
where
  body (chomping : Chomping) (increment : Option Nat) (cur : Cursor) :
      Except Fault (List Char × Cursor) := do
    let known := increment.map fun n => margin - 1 + n
    let (breaks, greatest, cur) ← readBlockBreaks known bound [] 0 cur
    let indent := known.getD (max greatest (max margin 1))
    let (b, cur) ← readBlockLines folded indent bound ⟨[], [], false, breaks⟩ cur
    let tail := match chomping with
      | .strip => []
      | .clip => b.lineBreak
      | .keep => b.lineBreak ++ b.breaks
    return (b.text.reverse ++ tail, cur)

end TypeExchange.Yaml
