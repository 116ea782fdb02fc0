import TypeExchange.Unicode.Run

/-! What a plain scalar without a tag denotes. -/
namespace TypeExchange.Yaml

inductive Meaning where
  | null
  | bool
  | natural (n : Nat)
  | negative
  /-- An integer of more than 64 bits. -/
  | wide
  | real
  | text
  deriving DecidableEq, Repr

def isNull (s : String) : Bool := ["null", "Null", "NULL", "~"].contains s

def isBool (s : String) : Bool := ["true", "True", "TRUE", "false", "False", "FALSE"].contains s

/-- Digits in a base up to sixteen; at least one. -/
def digits? (base : Nat) (cs : List Char) : Option Nat :=
  if cs = [] then none
  else cs.foldl (fun n c => do
    let n ← n
    let d ← Unicode.hexDigit? c
    if d < base then some (base * n + d) else none) (some 0)

/-- Digits in the base that the text begins with, as for numbers that are not decimal. -/
def based? : List Char → Option Nat
  | '0' :: 'x' :: cs => digits? 16 cs
  | '0' :: 'o' :: cs => digits? 8 cs
  | '0' :: 'b' :: cs => digits? 2 cs
  | _ => none

def dropSign : List Char → List Char
  | '+' :: cs | '-' :: cs => cs
  | cs => cs

/-- A zero before other digits makes a text. -/
def hasLeadingZero (cs : List Char) : Bool :=
  match dropSign cs with
  | '0' :: d :: rest => (d :: rest).all Char.isDigit
  | _ => false

/-- The size of an integer below zero. -/
def negative? (cs : List Char) : Option Nat :=
  match cs with
  | '-' :: rest => (based? rest).or (if hasLeadingZero cs then none else digits? 10 rest)
  | _ => none

/-- An integer that is not written as one below zero. -/
def natural? (cs : List Char) : Option Nat :=
  let rest := match cs with
    | '+' :: rest => rest
    | rest => rest
  (based? rest).or (if hasLeadingZero cs then none else digits? 10 rest)

/-- Digits and a point, with the number of digits behind the point. -/
def decimal? (cs : List Char) : Option (Nat × Nat) :=
  let whole := cs.takeWhile Char.isDigit
  match cs.dropWhile Char.isDigit with
  | [] => (digits? 10 whole).map fun n => (n, 0)
  | '.' :: fraction =>
    if fraction.all Char.isDigit then
      (digits? 10 (whole ++ fraction)).map fun n => (n, fraction.length)
    else none
  | _ => none

def isExponentMark (c : Char) : Bool := c == 'e' || c == 'E'

/-- The exponent behind its mark, zero where there is no mark. -/
def exponent? : List Char → Option Int
  | [] => some 0
  | _ :: '-' :: cs => (digits? 10 cs).map fun n => -(n : Int)
  | _ :: '+' :: cs => (digits? 10 cs).map fun n => (n : Int)
  | _ :: cs => (digits? 10 cs).map fun n => (n : Int)

/-- Whether `n * 10 ^ e` rounds to a finite double. -/
def isFinite (n : Nat) (e : Int) : Bool :=
  let digits : Int := (Nat.toDigits 10 n).length
  if n = 0 ∨ digits + e < 300 then true
  else if 320 < digits + e then false
  else n * Nat.pow 10 e.toNat < (Nat.pow 2 1024 - Nat.pow 2 970) * Nat.pow 10 (-e).toNat

/-- Whether a text is a finite decimal number, or one of the names of infinity and of what is no
number. -/
def isReal (s : String) : Bool :=
  let cs := s.toList
  let unsigned := match cs with
    | '+' :: rest | '-' :: rest => rest
    | rest => rest
  let body := unsigned.takeWhile (!isExponentMark ·)
  [".inf", ".Inf", ".INF"].contains (String.ofList unsigned) ||
  [".nan", ".NaN", ".NAN"].contains s ||
  match decimal? body, exponent? (unsigned.dropWhile (!isExponentMark ·)) with
  | some (n, places), some e => isFinite n (e - places)
  | _, _ => false

/-- What a text denotes if it is written as an integer of at most 128 bits. -/
def integer (s : String) : Option Meaning :=
  match natural? s.toList, negative? s.toList with
  | some n, _ =>
    if n < Nat.pow 2 64 then some (.natural n) else if n < Nat.pow 2 128 then some .wide else none
  | none, some n =>
    if n ≤ Nat.pow 2 63 then some .negative else if n ≤ Nat.pow 2 127 then some .wide else none
  | none, none => none

/-- What a text denotes; an empty one is null. -/
def meaning (s : String) : Meaning :=
  if s = "" ∨ isNull s then .null
  else if isBool s then .bool
  else match integer s with
    | some m => m
    | none => if !hasLeadingZero s.toList && isReal s then .real else .text

end TypeExchange.Yaml
