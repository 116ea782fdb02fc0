import TypeExchange.Regex.Compile
import TypeExchange.Regex.Octet

/-! Expressions in the form that automata are built from: runs of characters are one literal,
nesting without a meaning is gone, and branches that are classes are one class. -/
namespace TypeExchange.Regex

inductive Form where
  | empty
  | literal (octets : List UInt8)
  /-- A class, of octets where it stands without Unicode. -/
  | set (ofOctets : Bool) (intervals : List Interval)
  | assertion (a : Assertion)
  | times (f : Form) (least : Nat) (most : Option Nat) (greedy : Bool)
  | capture (f : Form)
  | seq (parts : List Form)
  | alt (branches : List Form)

namespace Form

mutual

/-- Whether two forms are alike. No capture is like another. -/
def same : Form → Form → Bool
  | empty, empty => true
  | literal a, literal b => a == b
  | set ofOctets is, set ofOctets' js => ofOctets == ofOctets' && is == js
  | assertion a, assertion b => a == b
  | times f least most greedy, times g least' most' greedy' =>
    same f g && least == least' && most == most' && greedy == greedy'
  | seq fs, seq gs => sameAll fs gs
  | alt fs, alt gs => sameAll fs gs
  | _, _ => false

def sameAll : List Form → List Form → Bool
  | [], [] => true
  | f :: fs, g :: gs => same f g && sameAll fs gs
  | _, _ => false

end

mutual

/-- Whether there is no more than the empty text to match. -/
def isVoid : Form → Bool
  | empty | assertion _ => true
  | literal _ | set .. => false
  | times f _ most _ => f.isVoid && most.isSome
  | capture f => f.isVoid
  | seq fs | alt fs => areVoid fs

def areVoid : List Form → Bool
  | [] => true
  | f :: fs => f.isVoid && areVoid fs

end

mutual

/-- The least number of octets that a match takes, if anything can match. Of a class only whether
it is empty is told. -/
def leastLength : Form → Option Nat
  | empty | assertion _ => some 0
  | literal octets => some octets.length
  | set _ is => if is = [] then none else some 1
  | times f least _ _ => f.leastLength.map (least * ·)
  | capture f => f.leastLength
  | seq fs => leastTotal fs
  | alt fs => leastOfAll fs

def leastTotal : List Form → Option Nat
  | [] => some 0
  | f :: fs => do return (← f.leastLength) + (← leastTotal fs)

def leastOfAll : List Form → Option Nat
  | [] => none
  | [f] => f.leastLength
  | f :: fs => do return min (← f.leastLength) (← leastOfAll fs)

end

mutual

/-- Whether a match is bound to begin at the start of the text. -/
def isBoundToStart : Form → Bool
  | assertion a => a == .textStart
  | times f least _ _ => least != 0 && f.isBoundToStart
  | capture f => f.isBoundToStart
  | seq fs => beginsAtStart fs
  | alt fs => allBoundToStart fs
  | _ => false

def beginsAtStart : List Form → Bool
  | [] => false
  | f :: fs => f.isBoundToStart || (f.isVoid && beginsAtStart fs)

def allBoundToStart : List Form → Bool
  | [] => true
  | f :: fs => f.isBoundToStart && allBoundToStart fs

end

mutual

/-- Whether a match is bound to end at the end of the text. -/
def isBoundToEnd : Form → Bool
  | assertion a => a == .textEnd
  | times f least _ _ => least != 0 && f.isBoundToEnd
  | capture f => f.isBoundToEnd
  | seq fs => endsAtEnd fs
  | alt fs => allBoundToEnd fs
  | _ => false

def endsAtEnd : List Form → Bool
  | [] => false
  | f :: fs => endsAtEnd fs || (areVoid fs && f.isBoundToEnd)

def allBoundToEnd : List Form → Bool
  | [] => true
  | f :: fs => f.isBoundToEnd && allBoundToEnd fs

end

mutual

/-- The number of forms in a form. -/
def size : Form → Nat
  | times f .. | capture f => f.size + 1
  | seq fs | alt fs => sizeAll fs + 1
  | _ => 1

def sizeAll : List Form → Nat
  | [] => 0
  | f :: fs => f.size + sizeAll fs

end

/-- A class; of one member it is a literal. -/
def ofIntervals (ofOctets : Bool) (is : List Interval) : Form :=
  match is with
  | [] => set true []
  | [i] =>
    if i.first = i.last then literal (Interval.octetsOf i.first) else set ofOctets is
  | _ => set ofOctets is

/-- What matches nothing is not repeated more than once. -/
def repeated (f : Form) (least : Nat) (most : Option Nat) (greedy : Bool) : Form :=
  let least := if f.isVoid then min least 1 else least
  let most := if f.isVoid then some (min (most.getD 1) 1) else most
  if least = 0 ∧ most = some 0 then empty
  else if least = 1 ∧ most = some 1 then f
  else times f least most greedy

/-- Literals that follow each other are one. -/
def joinLiterals : List Form → List Form
  | [] => []
  | literal a :: rest =>
    match joinLiterals rest with
    | literal b :: rest => literal (a ++ b) :: rest
    | rest => literal a :: rest
  | f :: rest => f :: joinLiterals rest

/-- The parts that a form contributes to a sequence. -/
def parts : Form → List Form
  | empty => []
  | seq fs => fs
  | f => [f]

def inOrder (fs : List Form) : Form :=
  match joinLiterals (fs.flatMap parts) with
  | [] => empty
  | [f] => f
  | fs => seq fs

/-- The branches that a form contributes to an alternation. -/
def branches : Form → List Form
  | alt fs => fs
  | f => [f]

/-- The character of a literal that is one. -/
def character? : Form → Option Interval
  | literal octets =>
    match (String.fromUTF8? ⟨octets.toArray⟩).map String.toList with
    | some [c] => some (.point c.toNat)
    | _ => none
  | _ => none

def intervals? : Form → Option (List Interval)
  | set _ is => some is
  | _ => none

def sequence? : Form → Option (List Form)
  | seq fs => some fs
  | _ => none

/-- The number of parts with which both sequences begin. -/
def commonLength : List Form → List Form → Nat
  | f :: fs, g :: gs => if same f g then commonLength fs gs + 1 else 0
  | _, _ => 0

/-- The parts with which all branches begin, if there are any, and what is left of each branch. -/
def splitCommon? (fs : List Form) : Option (List Form × List Form) :=
  match fs.mapM sequence? with
  | some (first :: rest) =>
    match rest.foldl (fun n parts => min n (commonLength first parts)) first.length with
    | 0 => none
    | n => some (first.take n, (first :: rest).map fun parts => inOrder (parts.drop n))
  | _ => none

/-- An alternation. Characters or classes become one class, and what all branches begin with stands
before them; the first argument bounds how often. -/
def choiceWithin : Nat → List Form → Form
  | n, fs =>
    match fs.flatMap branches with
    | [] => set true []
    | [f] => f
    | fs =>
      match fs.mapM character?, fs.mapM intervals? with
      | some is, _ => ofIntervals false (Interval.normalize is)
      | none, some is => ofIntervals false (Interval.normalize is.flatten)
      | none, none =>
        match n, splitCommon? fs with
        | n + 1, some (start, rests) => inOrder (start ++ [choiceWithin n rests])
        | _, _ => alt fs

def choice (fs : List Form) : Form := choiceWithin (sizeAll fs) fs

end Form

/-- The form of a part of an expression: items and branches are kept apart until their last. -/
inductive Spine where
  | one (f : Form)
  | items (fs : List Form)
  | branches (fs : List Form)

namespace Spine

def close : Spine → Form
  | one f => f
  | items fs => .inOrder fs
  | branches fs => .choice fs

def addItem (f : Form) : Spine → Spine
  | items fs => items (f :: fs)
  | s => items [f, s.close]

def addBranch (f : Form) : Spine → Spine
  | branches fs => branches (f :: fs)
  | s => branches [f, s.close]

def ofSet (o : Options) (s : CharSet) : Spine := one (.ofIntervals (!o.unicode) s.intervals)

end Spine

/-- The form of an expression and the flags in force after it. -/
def Expr.spine (o : Options) : Expr → Except Fault (Spine × Options)
  | empty => .ok (.one .empty, o)
  | literal l => return (.ofSet o (← literalSet o l), o)
  | dot => return (.ofSet o (← dotSet o), o)
  | anchor a => .ok (.one (.assertion (a.compile o)), o)
  | shorthand kind negated => return (.ofSet o (← shorthandSet o kind negated), o)
  | property p negated => return (.ofSet o (← propertySet o p negated), o)
  | bracketed negated content => do
    return (.ofSet o (← closeSet o negated (← content.compile o)), o)
  | setFlags changes => .ok (.one .empty, o.apply changes)
  | group captures changes e => do
    let (s, _) ← e.spine (o.apply changes)
    return (.one (if captures then .capture s.close else s.close), o)
  | times e least most greedy => do
    let (s, o) ← e.spine o
    return (.one (s.close.repeated least most (greedy != o.swapGreed)), o)
  | seq a b => do
    let (s, o) ← a.spine o
    let (t, o) ← b.spine o
    return (t.addItem s.close, o)
  | alt a b => do
    let (s, o) ← a.spine o
    let (t, o) ← b.spine o
    return (t.addBranch s.close, o)

def Expr.form (e : Expr) : Except Fault Form := do
  let (s, _) ← e.spine .standard
  return s.close

end TypeExchange.Regex
