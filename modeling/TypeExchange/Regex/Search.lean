import TypeExchange.Regex.Basic

/-! Searching a text for a match. A set of positions is a number: position `i` belongs to it where
bit `i` is set. -/
namespace TypeExchange.Regex

/-- An expression on one text: where it may stay and where it may go on by one character. -/
inductive Walk where
  | anywhere
  | stay (places : Nat)
  | step (places : Nat)
  | seq (v w : Walk)
  | alt (v w : Walk)
  | times (w : Walk) (least : Nat) (most : Option Nat)

/-- The positions whose next character satisfies `p`. -/
def placesBefore (p : Char → Bool) : List Char → Nat
  | [] => 0
  | c :: cs => 2 * placesBefore p cs + (p c).toNat

/-- The positions between two characters that satisfy `p`; the text stands after `before`. -/
def placesBetween (p : Option Char → Option Char → Bool) (before : Option Char) :
    List Char → Nat
  | [] => (p before none).toNat
  | c :: cs => 2 * placesBetween p (some c) cs + (p before (some c)).toNat

def walk (text : List Char) : Regex → Walk
  | empty => .anywhere
  | chars set => .step (placesBefore set.contains text)
  | assertion a => .stay (placesBetween a.holds none text)
  | seq r s => .seq (walk text r) (walk text s)
  | alt r s => .alt (walk text r) (walk text s)
  | times r least most => .times (walk text r) least most

/-- Applies `f` as often as told, or until nothing changes any more. -/
def power (f : Nat → Nat) : Nat → Nat → Nat
  | 0, places => places
  | n + 1, places =>
    let next := f places
    if next = places then places else power f n next

/-- Adds what `f` reaches in at most so many rounds. -/
def reach (f : Nat → Nat) : Nat → Nat → Nat
  | 0, places => places
  | n + 1, places =>
    let next := places ||| f places
    if next = places then places else reach f n next

/-- The positions where a match that starts at one of `places` may end. The text has `length`
characters, so an unbounded repetition reaches nothing new after that many rounds. -/
def Walk.from (length : Nat) : Walk → Nat → Nat
  | anywhere, places => places
  | stay here, places => places &&& here
  | step here, places => (places &&& here) <<< 1
  | seq v w, places => w.from length (v.from length places)
  | alt v w, places => v.from length places ||| w.from length places
  | times w least most, places =>
    reach (w.from length) (match most with | none => length + 1 | some m => m - least)
      (power (w.from length) least places)

/-- All positions of a text, its end included. -/
def allPlaces (length : Nat) : Nat := 1 <<< (length + 1) - 1

/-- Whether some part of the text matches. -/
def isMatch (r : Regex) (text : String) : Bool :=
  let cs := text.toList
  (walk cs r).from cs.length (allPlaces cs.length) != 0

end TypeExchange.Regex
