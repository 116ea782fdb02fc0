/-! Runs of code points in steps, and their written form. -/
namespace TypeExchange.Unicode

/-- The code points `first`, `first + step`, … up to `last`. -/
structure Run where
  first : Nat
  last : Nat
  step : Nat
  deriving DecidableEq, Repr

def Run.contains (r : Run) (n : Nat) : Bool :=
  r.first ≤ n && n ≤ r.last && (n - r.first) % r.step == 0

/-- A run whose members map, in order and in the same steps, to `image` and what follows it. -/
structure ShiftedRun extends Run where
  image : Nat
  deriving DecidableEq, Repr

def ShiftedRun.apply (r : ShiftedRun) (n : Nat) : Nat := r.image + (n - r.first)

/-- The image of `n` under the first run that holds it. -/
def imageIn (runs : List ShiftedRun) (n : Nat) : Option Nat :=
  (runs.find? (·.contains n)).map (·.apply n)

def hexDigit? (c : Char) : Option Nat :=
  if '0' ≤ c ∧ c ≤ '9' then some (c.toNat - '0'.toNat)
  else if 'a' ≤ c ∧ c ≤ 'f' then some (c.toNat - 'a'.toNat + 10)
  else if 'A' ≤ c ∧ c ≤ 'F' then some (c.toNat - 'A'.toNat + 10)
  else none

/-- Reads hexadecimal digits; any other character counts as zero. -/
def natOfHex (digits : List Char) : Nat :=
  digits.foldl (fun n c => 16 * n + (hexDigit? c).getD 0) 0

/-- Reads one of `41`, `41-5a` and `100-12e/2`. -/
def Run.ofWord (word : List Char) : Run :=
  let (bounds, step) := match word.splitOn '/' with
    | [bounds, step] => (bounds, natOfHex step)
    | _ => (word, 1)
  match bounds.splitOn '-' with
  | [first, last] => ⟨natOfHex first, natOfHex last, step⟩
  | _ => ⟨natOfHex bounds, natOfHex bounds, 1⟩

/-- Reads runs that stand apart by single spaces. -/
def runsOfLine (line : List Char) : List Run := (line.splitOn ' ').map Run.ofWord

def runsOfLines (lines : List String) : List Run := lines.flatMap fun line => runsOfLine line.toList

end TypeExchange.Unicode
