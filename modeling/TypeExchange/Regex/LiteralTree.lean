import TypeExchange.Regex.Footprint

/-! Literals that are branches of one alternation, by their common beginnings. -/
namespace TypeExchange.Regex

/-- What may follow. Where a literal ends, the steps of those before it are set apart from the
steps of those behind it, since it is preferred to the latter. -/
inductive LiteralTree where
  | node (before : List (List (UInt8 × LiteralTree))) (steps : List (UInt8 × LiteralTree))

namespace LiteralTree

def leaf : LiteralTree := node [] []

def isLeaf : LiteralTree → Bool
  | node before steps => before.all List.isEmpty && steps.isEmpty

/-- Ends a literal here. -/
def finish : LiteralTree → LiteralTree
  | node before steps =>
    if isLeaf (node before steps) ∧ before ≠ [] then node before steps
    else node (before ++ [steps]) []

/-- Changes what follows an octet. -/
def update (change : LiteralTree → LiteralTree) (octet : UInt8) :
    List (UInt8 × LiteralTree) → List (UInt8 × LiteralTree)
  | [] => [(octet, change leaf)]
  | (o, t) :: rest => if o = octet then (o, change t) :: rest else (o, t) :: update change octet rest

def insert : List UInt8 → LiteralTree → LiteralTree
  | [], t => t.finish
  | octet :: rest, node before steps => node before (update (insert rest) octet steps)

mutual

/-- The states for what follows, of which none are needed at the end of all literals. -/
def add : LiteralTree → Footprint → Option Footprint
  | node before steps, f => do
    let f ← addGroups before f
    let f ← addSteps steps f
    let groups := before.filter (!·.isEmpty)
    let last := if steps.isEmpty then 0 else 1
    let f ← f.grow (groups.length + last + 1) (Footprint.stepBytes steps.length +
      groups.foldl (fun n g => n + Footprint.stepBytes g.length) 0)
    f.addForks (groups.length + last + before.length)

def addGroups : List (List (UInt8 × LiteralTree)) → Footprint → Option Footprint
  | [], f => some f
  | g :: rest, f => do addGroups rest (← addSteps g f)

def addSteps : List (UInt8 × LiteralTree) → Footprint → Option Footprint
  | [], f => some f
  | (_, t) :: rest, f => do addSteps rest (← if t.isLeaf then some f else add t f)

end

/-- The tree of literals, and the state that all of them lead to. -/
def addAll (literals : List (List UInt8)) (f : Footprint) : Option Footprint := do
  (literals.foldl (fun t l => insert l t) leaf).add (← f.grow 1 0)

end LiteralTree
end TypeExchange.Regex
