import TypeExchange.Json.Basic
import TypeExchange.Json.Double
import TypeExchange.Unicode.Run

/-! Reading JSON text. Every reader takes a list of characters and returns what is left of it. -/
namespace TypeExchange.Json

def isSpace (c : Char) : Bool := c == ' ' || c == '\n' || c == '\r' || c == '\t'

def skipSpace (cs : List Char) : List Char := cs.dropWhile isSpace

/-- Four hexadecimal digits. -/
def readUnit : List Char → Option (Nat × List Char)
  | a :: b :: c :: d :: rest => do
    let a ← Unicode.hexDigit? a
    let b ← Unicode.hexDigit? b
    let c ← Unicode.hexDigit? c
    let d ← Unicode.hexDigit? d
    some (((a * 16 + b) * 16 + c) * 16 + d, rest)
  | _ => none

/-- What follows `\u`: one unit, or a high and a low surrogate. -/
def readCodePoint (cs : List Char) : Option (Char × List Char) := do
  let (unit, rest) ← readUnit cs
  if 0xd800 ≤ unit ∧ unit < 0xdc00 then
    match rest with
    | '\\' :: 'u' :: rest =>
      let (low, rest) ← readUnit rest
      if 0xdc00 ≤ low ∧ low < 0xe000 then
        some (Char.ofNat (0x10000 + (unit - 0xd800) * 0x400 + (low - 0xdc00)), rest)
      else none
    | _ => none
  else if 0xdc00 ≤ unit ∧ unit < 0xe000 then none
  else some (Char.ofNat unit, rest)

/-- The character that a one-letter escape stands for. -/
def simpleEscape? : Char → Option Char
  | '"' => some '"'
  | '\\' => some '\\'
  | '/' => some '/'
  | 'b' => some '\x08'
  | 'f' => some '\x0c'
  | 'n' => some '\n'
  | 'r' => some '\r'
  | 't' => some '\t'
  | _ => none

/-- The characters up to the closing quote. The first argument bounds the number of characters. -/
def readCharacters : Nat → List Char → Option (List Char × List Char)
  | 0, _ => none
  | _ + 1, [] => none
  | _ + 1, '"' :: rest => some ([], rest)
  | n + 1, '\\' :: 'u' :: rest => do
    let (c, rest) ← readCodePoint rest
    let (cs, rest) ← readCharacters n rest
    some (c :: cs, rest)
  | n + 1, '\\' :: e :: rest => do
    let c ← simpleEscape? e
    let (cs, rest) ← readCharacters n rest
    some (c :: cs, rest)
  | n + 1, c :: rest =>
    if c.toNat < 0x20 ∨ c = '\\' then none
    else do
      let (cs, rest) ← readCharacters n rest
      some (c :: cs, rest)

/-- A text whose opening quote has been read. -/
def readText (bound : Nat) (cs : List Char) : Option (String × List Char) :=
  (readCharacters bound cs).map fun (text, rest) => (String.ofList text, rest)

def digitValues (digits : List Char) : List Nat := digits.map fun c => c.toNat - '0'.toNat

def natOfDigits (digits : List Char) : Nat :=
  (digitValues digits).foldl (fun n d => 10 * n + d) 0

/-- At least one digit, and what follows the digits. -/
def readDigits (cs : List Char) : Option (List Char × List Char) :=
  match cs.takeWhile Char.isDigit with
  | [] => none
  | digits => some (digits, cs.dropWhile Char.isDigit)

/-- The fraction of a number, empty where there is no point. -/
def readFraction : List Char → Option (List Char × List Char)
  | '.' :: rest => readDigits rest
  | cs => some ([], cs)

/-- The exponent of a number, if it has one. -/
def readExponent : List Char → Option (Option Int × List Char)
  | e :: rest =>
    if e = 'e' ∨ e = 'E' then
      let (negative, rest) := match rest with
        | '-' :: rest => (true, rest)
        | '+' :: rest => (false, rest)
        | rest => (false, rest)
      (readDigits rest).map fun (digits, rest) =>
        let n : Int := natOfDigits digits
        (some (if negative then -n else n), rest)
    else some (none, e :: rest)
  | [] => some (none, [])

/-- Digits that make a whole number of 64 bits are an integer, all else is a double. -/
def number? (negative : Bool) (whole fraction : List Char) (exponent : Option Int) : Option Json :=
  let n := natOfDigits whole
  if fraction = [] ∧ exponent = none ∧
      (if negative then 0 < n ∧ n ≤ Nat.pow 2 63 else n < Nat.pow 2 64) then
    some (.integer (if negative then -(n : Int) else n))
  else
    (Binary.ofDecimal? (digitValues whole) (digitValues fraction) (exponent.getD 0)).map fun b =>
      .real ((if negative then "-" else "") ++ b.text)

def readNumber (cs : List Char) : Option (Json × List Char) := do
  let (negative, cs) := match cs with
    | '-' :: rest => (true, rest)
    | cs => (false, cs)
  let (whole, rest) ← readDigits cs
  if whole.head? = some '0' ∧ whole ≠ ['0'] then none
  else
    let (fraction, rest) ← readFraction rest
    let (exponent, rest) ← readExponent rest
    let value ← number? negative whole fraction exponent
    some (value, rest)

mutual

/-- A value and what follows it. The first argument bounds the length of a text, the second the
number of nested readings. -/
def readValue (bound : Nat) : Nat → List Char → Option (Json × List Char)
  | 0, _ => none
  | n + 1, cs =>
    match skipSpace cs with
    | '"' :: rest => (readText bound rest).map fun (s, rest) => (.string s, rest)
    | '[' :: rest =>
      match skipSpace rest with
      | ']' :: rest => some (.array [], rest)
      | rest => (readItems bound n rest).map fun (items, rest) => (.array items, rest)
    | '\x7b' :: rest =>
      match skipSpace rest with
      | '\x7d' :: rest => some (.object [], rest)
      | rest => (readMembers bound n [] rest).map fun (members, rest) => (.object members, rest)
    | 'n' :: 'u' :: 'l' :: 'l' :: rest => some (.null, rest)
    | 't' :: 'r' :: 'u' :: 'e' :: rest => some (.bool true, rest)
    | 'f' :: 'a' :: 'l' :: 's' :: 'e' :: rest => some (.bool false, rest)
    | rest => readNumber rest

/-- The items up to the closing bracket. -/
def readItems (bound : Nat) : Nat → List Char → Option (List Json × List Char)
  | 0, _ => none
  | n + 1, cs => do
    let (item, rest) ← readValue bound n cs
    match skipSpace rest with
    | ',' :: rest =>
      let (items, rest) ← readItems bound n rest
      some (item :: items, rest)
    | ']' :: rest => some ([item], rest)
    | _ => none

/-- The members up to the closing brace, added to `members`. -/
def readMembers (bound : Nat) : Nat → List (String × Json) → List Char →
    Option (List (String × Json) × List Char)
  | 0, _, _ => none
  | n + 1, members, cs =>
    match skipSpace cs with
    | '"' :: rest => do
      let (key, rest) ← readText bound rest
      match skipSpace rest with
      | ':' :: rest =>
        let (value, rest) ← readValue bound n rest
        let members := insertMember key value members
        match skipSpace rest with
        | ',' :: rest => readMembers bound n members rest
        | '\x7d' :: rest => some (members, rest)
        | _ => none
      | _ => none
    | _ => none

end

/-- The value that the whole of a text writes. -/
def parse? (text : String) : Option Json :=
  let cs := text.toList
  let bound := cs.length + 1
  match readValue bound bound cs with
  | some (value, rest) => if skipSpace rest = [] then some value else none
  | none => none

end TypeExchange.Json
