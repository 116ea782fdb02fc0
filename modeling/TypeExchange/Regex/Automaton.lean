import TypeExchange.Regex.Form
import TypeExchange.Regex.LiteralTree

/-! The size of the two automata of an expression, of which one reads the text forwards and the
other backwards. -/
namespace TypeExchange.Regex

/-- A part of an automaton: all that has been built, and whether the part ends in a state with any
number of successors, which keeps a list of them. -/
structure Part where
  footprint : Footprint
  forks : Bool
  deriving DecidableEq, Repr

namespace Part

def simple (f : Footprint) : Part := ⟨f, false⟩

/-- Joins the end of a part to a state. -/
def join (p : Part) : Option Footprint := if p.forks then p.footprint.addForks 1 else some p.footprint

/-- Joins the end of an earlier part to a state. -/
def joinTo (p : Part) (forks : Bool) : Option Part := do
  some { p with footprint := ← Part.join ⟨p.footprint, forks⟩ }

/-- How to build a part behind what has been built. -/
abbrev Builder := Footprint → Option Part

/-- More copies behind a part. -/
def append (build : Builder) : Nat → Part → Option Part
  | 0, p => some p
  | n + 1, p => do append build n (← (← build p.footprint).joinTo p.forks)

def copies (build : Builder) : Nat → Builder
  | 0, f => do some (simple (← f.grow 1 0))
  | n + 1, f => do append build n (← build f)

/-- Copies of which each may be the last, behind a part. -/
def optional (build : Builder) : Nat → Part → Option Footprint
  | 0, p => p.join
  | n + 1, p => do
    let q ← build (← p.footprint.grow 1 0)
    optional build n (← { q with footprint := ← q.footprint.addForks 2 }.joinTo p.forks)

/-- A part that may be passed over. -/
def atMostOnce (build : Builder) (f : Footprint) : Option Part := do
  let p ← build (← f.grow 1 0)
  some (simple (← (← p.join).grow 1 8))

/-- Any number of copies. Where a copy may be empty, the first is kept apart from the others. -/
def anyNumber (build : Builder) (mayBeEmpty : Bool) (f : Footprint) : Option Part :=
  if mayBeEmpty then do
    let p ← build f
    some (simple (← (← p.join).grow 3 16))
  else do
    let p ← build (← f.grow 1 0)
    some ⟨← (← p.join).addForks 1, true⟩

/-- One copy or more. -/
def atLeastOnce (build : Builder) (f : Footprint) : Option Part := do
  let p ← build f
  some ⟨← (← p.join).grow 1 4, true⟩

/-- So many copies or more. -/
def atLeast (build : Builder) : Nat → Builder
  | 0, f => atLeastOnce build f
  | 1, f => atLeastOnce build f
  | n + 2, f => do
    let p ← copies build (n + 1) f
    let q ← atLeastOnce build p.footprint
    q.joinTo p.forks

def between (build : Builder) (least most : Nat) (f : Footprint) : Option Part := do
  let p ← copies build least f
  some (simple (← optional build (most - least) { p with footprint := ← p.footprint.grow 1 0 }))

def times (build : Builder) (mayBeEmpty : Bool) (least : Nat) (most : Option Nat) : Builder :=
  match least, most with
  | 0, some 1 => atMostOnce build
  | 0, none => anyNumber build mayBeEmpty
  | n, none => atLeast build n
  | least, some most => if least = most then copies build least else between build least most

/-- A part between two states that mark a capture. -/
def captured (build : Builder) (f : Footprint) : Option Part := do
  let p ← build (← f.grow 1 0)
  some (simple (← (← p.join).grow 1 0))

end Part

namespace Form

def octets? : Form → Option (List UInt8)
  | literal octets => some octets
  | _ => none

/-- A class. Where all members are ASCII its octets are read directly. -/
def addSet (backwards : Bool) (is : List Interval) (f : Footprint) : Option Footprint :=
  if is.all fun i => i.last < 0x80 then f.grow 2 (Footprint.stepBytes is.length)
  else
    let sequences := is.flatMap Interval.octetSequences
    if backwards then f.addClassBackwards sequences else f.addClass sequences

mutual

def build (backwards : Bool) : Form → Part.Builder
  | empty, f | assertion _, f => do some (.simple (← f.grow 1 0))
  | literal octets, f => do some (.simple (← f.grow octets.length 0))
  | set _ is, f => do some (.simple (← addSet backwards is f))
  | times g least most _, f =>
    Part.times (build backwards g) (g.leastLength.all (· == 0)) least most f
  | capture g, f => if backwards then build backwards g f else Part.captured (build backwards g) f
  | seq fs, f => do
    (if backwards then buildBackwards fs (.simple f) else buildForwards fs (.simple f))
  | alt fs, f =>
    match fs.mapM octets? with
    | some literals => do some (.simple (← LiteralTree.addAll literals f))
    | none => do some (.simple (← buildBranches backwards fs 0 f))

/-- Each part behind the one before it. -/
def buildForwards : List Form → Part → Option Part
  | [], p => some p
  | g :: gs, p => do buildForwards gs (← (← build false g p.footprint).joinTo p.forks)

/-- Each part behind the one after it. -/
def buildBackwards : List Form → Part → Option Part
  | [], p => some p
  | g :: gs, p => do
    let p ← buildBackwards gs p
    (← build true g p.footprint).joinTo p.forks

/-- The branches from the one with this number on. The states where they part and meet are made
with the second. -/
def buildBranches (backwards : Bool) : List Form → Nat → Footprint → Option Footprint
  | [], _, f => some f
  | g :: gs, n, f => do
    let p ← build backwards g f
    let f ← (← p.join).addForks 1
    buildBranches backwards gs (n + 1) (← if n = 1 then f.grow 2 0 else some f)

end

/-- What stands before the expression, so that a match may begin anywhere. -/
def addLead (isBound : Bool) (f : Footprint) : Option Footprint :=
  if isBound then f.grow 1 0 else f.grow 3 8

def fitsForwards (f : Form) : Bool :=
  Option.isSome do
    let p ← Part.captured (f.build false) (← addLead f.isBoundToStart .start)
    p.footprint.grow 1 0

def fitsBackwards (f : Form) : Bool :=
  Option.isSome do
    let p ← f.build true (← addLead f.isBoundToEnd .start)
    (← p.join).grow 1 0

/-- So many words are sought without automata. -/
def manyWords : Nat := 3000

def isWordList : Form → Bool
  | alt fs => manyWords ≤ fs.length && fs.all fun f => f.octets?.isSome
  | _ => false

/-- Whether both automata keep within the limit. -/
def fits (f : Form) : Bool := f.isWordList || (f.fitsForwards && f.fitsBackwards)

end Form
end TypeExchange.Regex
