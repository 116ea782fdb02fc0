import Std.Data.HashMap
import TypeExchange.Regex.Octet

/-! The memory of automata that read octets. -/
namespace TypeExchange.Regex

/-- The size of an automaton that is being built. -/
structure Footprint where
  states : Nat
  /-- The bytes of the lists that states keep of their successors. -/
  lists : Nat
  deriving DecidableEq, Repr

namespace Footprint

def start : Footprint := ⟨0, 0⟩

/-- Each state takes 32 bytes beside its list. -/
def bytes (f : Footprint) : Nat := 32 * f.states + f.lists

/-- The greatest size of an automaton, in bytes. -/
def limit : Nat := 10 * 0x100000

/-- Adds states and bytes of lists, unless that makes the automaton too large. -/
def grow (f : Footprint) (states lists : Nat) : Option Footprint :=
  let g : Footprint := ⟨f.states + states, f.lists + lists⟩
  if limit < g.bytes then none else some g

/-- Adds successors to a state that may have any number of them. -/
def addForks (f : Footprint) (n : Nat) : Option Footprint := f.grow 0 (4 * n)

/-- The bytes of a list of steps by octets. A single step needs no list. -/
def stepBytes (n : Nat) : Nat := if n = 1 then 0 else 8 * n

end Footprint

/-- A step by an octet to a state. -/
structure Link where
  range : OctetRange
  target : Nat
  deriving DecidableEq, Repr

/-- Mixes numbers into a number of a slot. Where two things fall into one slot only the later is
remembered, and the earlier will be built again. -/
def slotOf (slots : Nat) (ns : List UInt64) : Nat :=
  (ns.foldl (fun h n => (h ^^^ n) * 1099511628211) 14695981039346656037).toNat % slots

/-- The steps of a state, with which it is remembered. -/
def Link.keys (l : Link) : List UInt64 :=
  [l.range.first.toUInt64, l.range.last.toUInt64, l.target.toUInt64]

/-- A state of a class that has not been built: the steps with a known end, the last one first,
and the step that other sequences may still share. -/
structure OpenState where
  links : List Link
  last : Option OctetRange

def OpenState.close (s : OpenState) (target : Nat) : List Link :=
  match s.last with
  | some range => ⟨range, target⟩ :: s.links
  | none => s.links

/-- The automaton of a class, with the states that are remembered. -/
structure SharedStates where
  footprint : Footprint
  slots : Std.HashMap Nat (List Link × Nat)

namespace SharedStates

/-- A new state with these steps, which is remembered in a slot. -/
def build (slot : Nat) (links : List Link) (s : SharedStates) : Option (Nat × SharedStates) := do
  let n := s.footprint.states
  let footprint ← s.footprint.grow 1 (8 * links.length)
  some (n, ⟨footprint, s.slots.insert slot (links, n)⟩)

/-- A state with these steps: one that is remembered, or a new one. -/
def state (s : SharedStates) (links : List Link) : Option (Nat × SharedStates) :=
  let slot := slotOf 10000 (links.reverse.flatMap Link.keys)
  match s.slots[slot]? with
  | some (known, n) => if known = links then some (n, s) else build slot links s
  | none => build slot links s

/-- Builds open states, of which each follows the one before it and the last goes on to `target`.
Returns the first. -/
def chain (target : Nat) : List OpenState → SharedStates → Option (Nat × SharedStates)
  | [], s => some (target, s)
  | o :: rest, s => do
    let (next, s) ← chain target rest s
    s.state (o.close next)

/-- Adds a sequence after all that are less. It shares the first open states as far as their last
steps agree with it, and the others are built. -/
def addSequence (target : Nat) : List OctetRange → List OpenState → SharedStates →
    Option (List OpenState × SharedStates)
  | r :: rs, o :: rest, s =>
    if o.last = some r then do
      let (rest, s) ← addSequence target rs rest s
      some (o :: rest, s)
    else do
      let (next, s) ← chain target rest s
      some (⟨o.close next, some r⟩ :: rs.map fun r => ⟨[], some r⟩, s)
  | _, os, s => some (os, s)

def addSequences (target : Nat) : List (List OctetRange) → List OpenState → SharedStates →
    Option (List OpenState × SharedStates)
  | [], os, s => some (os, s)
  | rs :: rest, os, s => do
    let (os, s) ← addSequence target rs os s
    addSequences target rest os s

end SharedStates

namespace Footprint

/-- A class of characters that are read forwards. -/
def addClass (f : Footprint) (sequences : List (List OctetRange)) : Option Footprint := do
  let target := f.states
  let s : SharedStates := ⟨← f.grow 1 0, {}⟩
  let (os, s) ← SharedStates.addSequences target sequences [⟨[], none⟩] s
  let (_, s) ← SharedStates.chain target os s
  some s.footprint

/-- The states on the way of one sequence from its first octet on, whose successor comes first.
Those that read the same range and go on to the same state are shared. -/
def addBackwards : List OctetRange → Nat → Footprint → Std.HashMap Nat (Link × Nat) →
    Option (Footprint × Std.HashMap Nat (Link × Nat))
  | [], _, f, slots => do some (← f.addForks 1, slots)
  | r :: rs, target, f, slots =>
    let link : Link := ⟨r, target⟩
    let slot := slotOf 1000 [target.toUInt64, r.first.toUInt64, r.last.toUInt64]
    let known := slots[slot]?.bind fun (other, n) => if other = link then some n else none
    match known with
    | some n => addBackwards rs n f slots
    | none => do addBackwards rs f.states (← f.grow 1 0) (slots.insert slot (link, f.states))

def addAllBackwards (target : Nat) : List (List OctetRange) → Footprint →
    Std.HashMap Nat (Link × Nat) → Option Footprint
  | [], f, _ => some f
  | rs :: rest, f, slots => do
    let (f, slots) ← addBackwards rs target f slots
    addAllBackwards target rest f slots

/-- A class of characters that are read backwards. -/
def addClassBackwards (f : Footprint) (sequences : List (List OctetRange)) : Option Footprint := do
  addAllBackwards (f.states + 1) sequences (← f.grow 2 0) {}

end Footprint
end TypeExchange.Regex
