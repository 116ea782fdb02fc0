import TypeExchange.Rule

/-! Tables of rules, kept by pair of systems in the order in which they were added. -/
namespace TypeExchange

/-- A registered pair with its rules. -/
abbrev Entry := SystemPair × List Rule

namespace Table

/-- Adds rules behind those of their pair, which is registered if it was not. -/
def extendEntries (pair : SystemPair) (rules : List Rule) : List Entry → List Entry
  | [] => [(pair, rules)]
  | (p, rs) :: rest =>
    if p = pair then (p, rs ++ rules) :: rest else (p, rs) :: extendEntries pair rules rest

theorem mem_keys_extendEntries {pair p : SystemPair} {rules : List Rule} {entries : List Entry} :
    p ∈ (extendEntries pair rules entries).map Prod.fst ↔
      p = pair ∨ p ∈ entries.map Prod.fst := by
  induction entries with
  | nil => simp [extendEntries]
  | cons e rest ih =>
    obtain ⟨q, rs⟩ := e
    rw [extendEntries]
    split
    next h => subst h; simp
    next => simp only [List.map_cons, List.mem_cons, ih]; grind

theorem nodup_extendEntries {pair : SystemPair} {rules : List Rule} {entries : List Entry}
    (h : (entries.map Prod.fst).Nodup) :
    ((extendEntries pair rules entries).map Prod.fst).Nodup := by
  induction entries with
  | nil => simp [extendEntries]
  | cons e rest ih =>
    obtain ⟨q, rs⟩ := e
    rw [List.map_cons, List.nodup_cons] at h
    rw [extendEntries]
    split
    next => simpa using h
    next hq =>
      rw [List.map_cons, List.nodup_cons, mem_keys_extendEntries]
      refine ⟨?_, ih h.2⟩
      rintro (rfl | hm)
      · exact hq rfl
      · exact h.1 hm

end Table

structure Table where
  entries : List Entry
  /-- No pair has two entries. -/
  distinct : (entries.map Prod.fst).Nodup

namespace Table

def empty : Table := ⟨[], .nil⟩

def addRules (t : Table) (pair : SystemPair) (rules : List Rule) : Table :=
  ⟨extendEntries pair rules t.entries, nodup_extendEntries t.distinct⟩

def addRule (t : Table) (pair : SystemPair) (rule : Rule) : Table := t.addRules pair [rule]

/-- One step in the making of a table. Rules may be none, which still registers their pair. -/
inductive Step where
  | rule (pair : SystemPair) (rule : Rule)
  | rules (pair : SystemPair) (rules : List Rule)

def apply (t : Table) : Step → Table
  | .rule pair rule => t.addRule pair rule
  | .rules pair rules => t.addRules pair rules

def ofSteps (steps : List Step) : Table := steps.foldl apply empty

def rules? (t : Table) (pair : SystemPair) : Option (List Rule) := t.entries.lookup pair

def rules (t : Table) (pair : SystemPair) : Except Failure (List Rule) :=
  match t.rules? pair with
  | some rules => .ok rules
  | none => .error (.unsupportedPair pair)

def hasPair (t : Table) (pair : SystemPair) : Bool := (t.rules? pair).isSome

/-- The registered pairs in ascending order. -/
def pairs (t : Table) : List SystemPair := SystemPair.all.filter t.hasPair

/-- The number of rules. -/
def size (t : Table) : Nat := t.entries.foldr (fun e n => e.2.length + n) 0

def isEmpty (t : Table) : Bool := t.entries.isEmpty

/-- The first rule that matches, with its place among the rules of the pair. -/
def locate (t : Table) (pair : SystemPair) (side : Side) (probed : String) :
    Except Failure (Rule × Nat) := do
  let rules ← t.rules pair
  match rules.zipIdx.find? (fun r => r.1.accepts side probed) with
  | some found => .ok found
  | none => .error (.noMatch pair probed side)

def resolve (t : Table) (pair : SystemPair) (side : Side) (probed : String) :
    Except Failure Rule := do
  let rules ← t.rules pair
  match rules.find? (·.accepts side probed) with
  | some rule => .ok rule
  | none => .error (.noMatch pair probed side)

def resolveBySource (t : Table) (pair : SystemPair) (name : String) : Except Failure Rule :=
  t.resolve pair .source name

def resolveByTarget (t : Table) (pair : SystemPair) (name : String) : Except Failure Rule :=
  t.resolve pair .target name

def descriptor (t : Table) (pair : SystemPair) (side : Side) (probed : String) :
    Except Failure Descriptor := do
  let rule ← t.resolve pair side probed
  return rule.descriptor pair side probed

/-- The code of an initial value: the converter of the rule, applied to the rule's argument or, if
it has none, to nothing. -/
def initializer (t : Table) (pair : SystemPair) (name : String) : Except Failure String := do
  let rule ← t.resolveBySource pair name
  return (rule.descriptor pair .source name).convert (rule.init.getD "") none

end Table
end TypeExchange
