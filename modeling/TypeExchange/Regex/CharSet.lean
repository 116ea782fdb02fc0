import TypeExchange.Unicode.Folding
import TypeExchange.Unicode.Property
import TypeExchange.Unicode.WhiteSpace

/-! Sets of characters, as a class in a regular expression describes them. -/
namespace TypeExchange

inductive CharSet where
  | empty
  | range (first last : Char)
  /-- The characters of a property. -/
  | runs (runs : List Unicode.Run)
  | union (a b : CharSet)
  | inter (a b : CharSet)
  | compl (a : CharSet)
  /-- The characters that fold to what a member folds to. -/
  | folded (a : CharSet)
  deriving DecidableEq, Repr

namespace CharSet

def contains : CharSet → Char → Bool
  | empty, _ => false
  | range first last, c => first ≤ c && c ≤ last
  | runs rs, c => Unicode.inRuns rs c
  | union a b, c => a.contains c || b.contains c
  | inter a b, c => a.contains c && b.contains c
  | compl a, c => !a.contains c
  | folded a, c => (Unicode.caseVariants c).any a.contains

def single (c : Char) : CharSet := range c c

def all : CharSet := compl empty

def ascii : CharSet := range '\x00' '\x7f'

def diff (a b : CharSet) : CharSet := inter a (compl b)

def symmDiff (a b : CharSet) : CharSet := union (diff a b) (diff b a)

def ofRanges (ranges : List (Char × Char)) : CharSet :=
  ranges.foldr (fun r s => union (range r.1 r.2) s) empty

def negateIf (negated : Bool) (s : CharSet) : CharSet := if negated then compl s else s

end CharSet
end TypeExchange
