import TypeExchange.Regex.Basic
import TypeExchange.Regex.Reader

/-! The meaning of a written expression: its flags are worked in where they hold. -/
namespace TypeExchange.Regex

/-- The flags in force. -/
structure Options where
  ignoreCase : Bool
  multiLine : Bool
  dotAll : Bool
  swapGreed : Bool
  unicode : Bool
  crlf : Bool
  deriving DecidableEq, Repr

def Options.standard : Options where
  ignoreCase := false
  multiLine := false
  dotAll := false
  swapGreed := false
  unicode := true
  crlf := false

def Options.apply (o : Options) (changes : FlagChanges) : Options where
  ignoreCase := (changes.find .ignoreCase).getD o.ignoreCase
  multiLine := (changes.find .multiLine).getD o.multiLine
  dotAll := (changes.find .dotAll).getD o.dotAll
  swapGreed := (changes.find .swapGreed).getD o.swapGreed
  unicode := (changes.find .unicode).getD o.unicode
  crlf := (changes.find .crlf).getD o.crlf

/-- The characters outside ASCII are alike to a class without Unicode, so one of them shows
whether the class holds any, which would match parts of characters. -/
def requireAscii (o : Options) (s : CharSet) : Except Fault CharSet :=
  if !o.unicode && s.contains '\u0080' then .error .notUnicode else .ok s

/-- Adds the case variants, if case is to be ignored. -/
def foldIf (o : Options) (s : CharSet) : CharSet :=
  if !o.ignoreCase then s
  else if o.unicode then .folded s
  else .union s (.inter .ascii (.folded s))

/-- Case variants are added before a class is negated. -/
def closeSet (o : Options) (negated : Bool) (s : CharSet) : Except Fault CharSet :=
  requireAscii o (.negateIf negated (foldIf o s))

def shorthandSet (o : Options) (kind : Shorthand) (negated : Bool) : Except Fault CharSet :=
  let s : CharSet := match kind with
    | .digit => if o.unicode then .runs Unicode.digitRuns else .range '0' '9'
    | .space =>
      if o.unicode then .ofRanges [('\t', '\r'), (' ', ' '), ('\u0085', '\u0085'),
        ('\u00a0', '\u00a0'), ('\u1680', '\u1680'), ('\u2000', '\u200a'), ('\u2028', '\u2029'),
        ('\u202f', '\u202f'), ('\u205f', '\u205f'), ('\u3000', '\u3000')]
      else .ofRanges [('\t', '\r'), (' ', ' ')]
    | .word =>
      if o.unicode then .runs Unicode.wordRuns
      else .ofRanges [('0', '9'), ('A', 'Z'), ('_', '_'), ('a', 'z')]
  requireAscii o (.negateIf negated s)

def propertySet (o : Options) (p : Property) (negated : Bool) : Except Fault CharSet :=
  let runs? := match p with
    | .named name => Unicode.propertyNamed name
    | .valued name value => Unicode.propertyValue name value
  match runs? with
  | none => .error .unknownProperty
  | some runs => if o.unicode then closeSet o negated (.runs runs) else .error .notUnicode

/-- A literal inside a class. -/
def setLiteral (o : Options) (l : Literal) : Except Fault Char :=
  if !o.unicode && 0x80 ≤ l.char.toNat then .error .notUnicode else .ok l.char

def SetExpr.compile (o : Options) : SetExpr → Except Fault CharSet
  | empty => .ok .empty
  | literal l => return .single (← setLiteral o l)
  | range first last => return .range (← setLiteral o first) (← setLiteral o last)
  | posix ranges negated => closeSet o negated (.ofRanges ranges)
  | shorthand kind negated => shorthandSet o kind negated
  | property p negated => propertySet o p negated
  | bracketed negated content => do closeSet o negated (← content.compile o)
  | union a b => return .union (← a.compile o) (← b.compile o)
  | operation op a b => do
    let a := foldIf o (← a.compile o)
    let b := foldIf o (← b.compile o)
    return match op with
      | .intersection => .inter a b
      | .difference => .diff a b
      | .symmetricDifference => .symmDiff a b

/-- A literal outside of classes. A byte beyond ASCII is no character. -/
def literalSet (o : Options) (l : Literal) : Except Fault CharSet :=
  if o.unicode then .ok (foldIf o (.single l.char))
  else if l.isByte ∧ 0x80 ≤ l.char.toNat then .error .notUnicode
  else if l.char.toNat < 0x80 then .ok (foldIf o (.single l.char))
  else .ok (.single l.char)

def dotSet (o : Options) : Except Fault CharSet :=
  if !o.unicode then .error .notUnicode
  else if o.dotAll then .ok .all
  else if o.crlf then .ok (.compl (.union (.single '\r') (.single '\n')))
  else .ok (.compl (.single '\n'))

def Anchor.compile (o : Options) : Anchor → Assertion
  | lineStart => if o.multiLine then .lineStart o.crlf else .textStart
  | lineEnd => if o.multiLine then .lineEnd o.crlf else .textEnd
  | textStart => .textStart
  | textEnd => .textEnd
  | wordBoundary => .wordBoundary o.unicode
  | notWordBoundary => .notWordBoundary o.unicode
  | wordStart => .wordStart o.unicode
  | wordEnd => .wordEnd o.unicode
  | wordStartHalf => .wordStartHalf o.unicode
  | wordEndHalf => .wordEndHalf o.unicode

/-- The meaning of an expression and the flags in force after it: flags that are set inside a
group last to its end, past the bars between its branches. -/
def Expr.compile (o : Options) : Expr → Except Fault (Regex × Options)
  | empty => .ok (.empty, o)
  | literal l => return (.chars (← literalSet o l), o)
  | dot => return (.chars (← dotSet o), o)
  | anchor a => .ok (.assertion (a.compile o), o)
  | shorthand kind negated => return (.chars (← shorthandSet o kind negated), o)
  | property p negated => return (.chars (← propertySet o p negated), o)
  | bracketed negated content => do
    return (.chars (← closeSet o negated (← content.compile o)), o)
  | setFlags changes => .ok (.empty, o.apply changes)
  | group _ changes e => do
    let (r, _) ← e.compile (o.apply changes)
    return (r, o)
  | times e least most _ => do
    let (r, o) ← e.compile o
    return (.times r least most, o)
  | seq a b => do
    let (r, o) ← a.compile o
    let (s, o) ← b.compile o
    return (.seq r s, o)
  | alt a b => do
    let (r, o) ← a.compile o
    let (s, o) ← b.compile o
    return (.alt r s, o)

end TypeExchange.Regex
