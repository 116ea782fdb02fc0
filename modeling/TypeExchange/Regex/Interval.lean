import TypeExchange.Regex.CharSet

/-! The code points of a set as intervals. -/
namespace TypeExchange

/-- The code points from `first` to `last`. -/
structure Interval where
  first : Nat
  last : Nat
  deriving DecidableEq, Repr

namespace Interval

def point (n : Nat) : Interval := ⟨n, n⟩

def contains (i : Interval) (n : Nat) : Bool := i.first ≤ n && n ≤ i.last

def members (i : Interval) : List Nat :=
  (List.range (i.last + 1 - i.first)).map (i.first + ·)

def ofRun (r : Unicode.Run) : List Interval :=
  if r.step = 1 then [⟨r.first, r.last⟩]
  else (List.range ((r.last - r.first) / r.step + 1)).map fun k => point (r.first + k * r.step)

/-- Joins intervals that overlap or touch; they come in the order of their first members. -/
def joinFrom (i : Interval) : List Interval → List Interval
  | [] => [i]
  | j :: rest =>
    if j.first ≤ i.last + 1 then joinFrom ⟨i.first, max i.last j.last⟩ rest
    else i :: joinFrom j rest

/-- The same code points in intervals that ascend and do not touch. -/
def normalize (is : List Interval) : List Interval :=
  match is.mergeSort (fun i j => decide (i.first ≤ j.first)) with
  | [] => []
  | i :: rest => joinFrom i rest

def lastCodePoint : Nat := 0x10ffff

/-- The code points from `next` on that are not in the intervals, which ascend. -/
def gapsFrom (next : Nat) : List Interval → List Interval
  | [] => if next ≤ lastCodePoint then [⟨next, lastCodePoint⟩] else []
  | i :: rest =>
    if next < i.first then ⟨next, i.first - 1⟩ :: gapsFrom (i.last + 1) rest
    else gapsFrom (i.last + 1) rest

def complement (is : List Interval) : List Interval := gapsFrom 0 is

/-- Each character that has a simple case folding, with the folding. -/
def foldings : List (Nat × Nat) :=
  Unicode.foldRuns.flatMap fun r => (ofRun r.toRun).flatMap fun i =>
    i.members.map fun n => (n, r.apply n)

/-- What folds to `n`, and `n` itself. -/
def folded (n : Nat) : List Interval := (n :: Unicode.preimages Unicode.foldRuns n).map point

/-- The number of members up to which they are looked up one by one. -/
def fewMembers : Nat := 200

/-- The code points that fold to what a member folds to. -/
def caseVariants (is : List Interval) : List Interval :=
  if is.foldl (fun n i => n + (i.last + 1 - i.first)) 0 ≤ fewMembers then
    (is.flatMap members).flatMap fun n => folded ((Unicode.imageIn Unicode.foldRuns n).getD n)
  else
    let holds (n : Nat) : Bool := is.any (·.contains n)
    (foldings.filter fun f => holds f.1 || holds f.2).flatMap fun f => folded f.2

end Interval

/-- The code points of a set in intervals that ascend and do not touch. -/
def CharSet.intervals : CharSet → List Interval
  | empty => []
  | range first last => if first ≤ last then [⟨first.toNat, last.toNat⟩] else []
  | runs rs => Interval.normalize (rs.flatMap Interval.ofRun)
  | union a b => Interval.normalize (a.intervals ++ b.intervals)
  | inter a b =>
    Interval.complement (Interval.normalize (Interval.complement a.intervals ++ Interval.complement b.intervals))
  | compl a => Interval.complement a.intervals
  | folded a => Interval.normalize (a.intervals ++ Interval.caseVariants a.intervals)

end TypeExchange
