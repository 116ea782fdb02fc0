/-! Regular expressions as they are written. -/
namespace TypeExchange.Regex

inductive Flag where
  | ignoreCase | multiLine | dotAll | swapGreed | unicode | crlf | verbose
  deriving DecidableEq, Repr

/-- Flags that are set (`true`) or cleared. -/
abbrev FlagChanges := List (Flag × Bool)

/-- The state of a flag after the changes, if they mention it. -/
def FlagChanges.find (changes : FlagChanges) (flag : Flag) : Option Bool :=
  (List.find? (fun change => change.1 == flag) changes).map (·.2)

/-- A character, and whether it was written as a byte by two hexadecimal digits. -/
structure Literal where
  char : Char
  isByte : Bool
  deriving DecidableEq, Repr

inductive Shorthand where
  | digit | space | word
  deriving DecidableEq, Repr

inductive Property where
  | named (name : List Char)
  | valued (name value : List Char)
  deriving DecidableEq, Repr

inductive SetOperation where
  | intersection | difference | symmetricDifference
  deriving DecidableEq, Repr

/-- What stands between the brackets of a class. -/
inductive SetExpr where
  | empty
  | literal (l : Literal)
  | range (first last : Literal)
  | posix (ranges : List (Char × Char)) (negated : Bool)
  | shorthand (kind : Shorthand) (negated : Bool)
  | property (p : Property) (negated : Bool)
  | bracketed (negated : Bool) (content : SetExpr)
  | union (a b : SetExpr)
  | operation (op : SetOperation) (a b : SetExpr)
  deriving DecidableEq, Repr

inductive Anchor where
  | lineStart | lineEnd | textStart | textEnd
  | wordBoundary | notWordBoundary | wordStart | wordEnd | wordStartHalf | wordEndHalf
  deriving DecidableEq, Repr

inductive Expr where
  | empty
  | literal (l : Literal)
  | dot
  | anchor (a : Anchor)
  | shorthand (kind : Shorthand) (negated : Bool)
  | property (p : Property) (negated : Bool)
  | bracketed (negated : Bool) (content : SetExpr)
  /-- Flags for the rest of the group that holds them. -/
  | setFlags (changes : FlagChanges)
  /-- A group, which may keep what it matched. -/
  | group (captures : Bool) (changes : FlagChanges) (e : Expr)
  | times (e : Expr) (least : Nat) (most : Option Nat) (greedy : Bool)
  | seq (a b : Expr)
  | alt (a b : Expr)
  deriving DecidableEq, Repr

/-- Items that stand one beside the other make one union, however many they are. -/
def SetExpr.ofItems : List SetExpr → SetExpr
  | [] => empty
  | [e] => e
  | e :: rest => union e (ofItems rest)

def SetExpr.isUnion : SetExpr → Bool
  | union .. => true
  | _ => false

/-- How deep classes are nested. A union of many items counts once. -/
def SetExpr.depth : SetExpr → Nat
  | bracketed _ e => e.depth + 1
  | union a b => max (a.depth + 1) (if b.isUnion then b.depth else b.depth + 1)
  | operation _ a b => max a.depth b.depth + 1
  | _ => 0

namespace Expr

def ofItems : List Expr → Expr
  | [] => empty
  | [e] => e
  | e :: rest => seq e (ofItems rest)

def ofBranches : List Expr → Expr
  | [] => empty
  | [e] => e
  | e :: rest => alt e (ofBranches rest)

def isSeq : Expr → Bool
  | seq .. => true
  | _ => false

def isAlt : Expr → Bool
  | alt .. => true
  | _ => false

/-- How deep an expression is nested. A sequence of many items and an alternation of many
branches count once. -/
def depth : Expr → Nat
  | bracketed _ s => s.depth + 1
  | group _ _ e | times e .. => e.depth + 1
  | seq a b => max (a.depth + 1) (if b.isSeq then b.depth else b.depth + 1)
  | alt a b => max (a.depth + 1) (if b.isAlt then b.depth else b.depth + 1)
  | _ => 0

/-- Whether a repetition may follow. -/
def isRepeatable : Expr → Bool
  | empty | setFlags _ => false
  | _ => true

end Expr

/-- The deepest nesting that is accepted. -/
def nestLimit : Nat := 250

/-- Why a text is no regular expression that can be used. -/
inductive Fault where
  | unclosedGroup | unopenedGroup | unclosedClass | nothingToRepeat | badRepetition | badEscape
  | badFlags | badGroupName | lookAround | backreference | badRange | badClassItem
  | unknownProperty | notUnicode | nestedTooDeep | tooLarge
  deriving DecidableEq, Repr

/-- The wording is this library's own: where a text is refused is what the language of expressions
says, and other readers of it refuse the same texts in other words. -/
def Fault.message : Fault → String
  | unclosedGroup => "unclosed group"
  | unopenedGroup => "unopened group"
  | unclosedClass => "unclosed character class"
  | nothingToRepeat => "repetition operator missing expression"
  | badRepetition => "invalid repetition count"
  | badEscape => "unrecognized escape sequence"
  | badFlags => "invalid flags"
  | badGroupName => "invalid capture group name"
  | lookAround => "look-around is not supported"
  | backreference => "backreferences are not supported"
  | badRange => "invalid character class range"
  | badClassItem => "invalid item in a character class"
  | unknownProperty => "Unicode property not found"
  | notUnicode => "pattern can match invalid UTF-8"
  | nestedTooDeep => "exceeded the maximum number of nested parentheses/brackets"
  | tooLarge => "compiled regex exceeds size limit"

end TypeExchange.Regex
