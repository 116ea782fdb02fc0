import TypeExchange.Yaml.Lexer
import TypeExchange.Yaml.Node

/-! The value of a document, in which every alias is replaced by what it stands for. -/
namespace TypeExchange.Yaml

inductive Value where
  | scalar (tag : Option Tag) (style : Style) (text : List Char)
  | sequence (tag : Option Tag) (items : List Value)
  | mapping (tag : Option Tag) (entries : List (Value × Value))
  deriving Inhabited, Repr

/-- The names of anchors so far, each with the number of its last anchor. -/
abbrev Names := List (List Char × Nat)

/-- The number of a new anchor is the number of different names before it. -/
def Names.add (names : Names) (name : List Char) : Nat × Names :=
  (names.length, (name, names.length) :: names.filter (·.1 != name))

def Names.addIf (names : Names) : Option (List Char) → Option Nat × Names
  | none => (none, names)
  | some name => let (n, names) := names.add name; (some n, names)

mutual

/-- Replaces names by numbers, in the order of the text. -/
def numberNode (names : Names) : Parsed → Except Fault (Node Nat × Names)
  | .alias name => match names.lookup name with
    | some n => .ok (.alias n, names)
    | none => .error .unknownAlias
  | .scalar anchor tag style text =>
    let (anchor, names) := names.addIf anchor
    .ok (.scalar anchor tag style text, names)
  | .sequence anchor tag items => do
    let (anchor, names) := names.addIf anchor
    let (items, names) ← numberItems names items
    return (.sequence anchor tag items, names)
  | .mapping anchor tag entries => do
    let (anchor, names) := names.addIf anchor
    let (entries, names) ← numberEntries names entries
    return (.mapping anchor tag entries, names)

def numberItems (names : Names) : List Parsed → Except Fault (List (Node Nat) × Names)
  | [] => .ok ([], names)
  | item :: rest => do
    let (item, names) ← numberNode names item
    let (rest, names) ← numberItems names rest
    return (item :: rest, names)

def numberEntries (names : Names) :
    List (Parsed × Parsed) → Except Fault (List (Node Nat × Node Nat) × Names)
  | [] => .ok ([], names)
  | (key, value) :: rest => do
    let (key, names) ← numberNode names key
    let (value, names) ← numberNode names value
    let (rest, names) ← numberEntries names rest
    return ((key, value) :: rest, names)

end

mutual

/-- The nodes that have anchors, in reverse order of the text, after those in `found`. -/
def anchored (found : List (Nat × Node Nat)) : Node Nat → List (Nat × Node Nat)
  | .alias _ => found
  | .scalar anchor tag style text =>
    (anchor.map fun n => (n, .scalar anchor tag style text)).toList ++ found
  | .sequence anchor tag items =>
    anchoredItems ((anchor.map fun n => (n, .sequence anchor tag items)).toList ++ found) items
  | .mapping anchor tag entries =>
    anchoredEntries ((anchor.map fun n => (n, .mapping anchor tag entries)).toList ++ found)
      entries

def anchoredItems (found : List (Nat × Node Nat)) : List (Node Nat) → List (Nat × Node Nat)
  | [] => found
  | item :: rest => anchoredItems (anchored found item) rest

def anchoredEntries (found : List (Nat × Node Nat)) :
    List (Node Nat × Node Nat) → List (Nat × Node Nat)
  | [] => found
  | (key, value) :: rest => anchoredEntries (anchored (anchored found key) value) rest

end

mutual

/-- How much of a text a node takes: a collection has a beginning and an end. -/
def Node.weight {α : Type} : Node α → Nat
  | .alias _ | .scalar .. => 1
  | .sequence _ _ items => 2 + weightItems items
  | .mapping _ _ entries => 2 + weightEntries entries

def Node.weightItems {α : Type} : List (Node α) → Nat
  | [] => 0
  | item :: rest => item.weight + weightItems rest

def Node.weightEntries {α : Type} : List (Node α × Node α) → Nat
  | [] => 0
  | (key, value) :: rest => key.weight + value.weight + weightEntries rest

end

/-- Follows an alias to the node with its number, if another may be followed. -/
def follow (targets : List (Nat × Node Nat)) (left : Nat) :
    Node Nat → Except Fault (Node Nat × Nat)
  | .alias n => match left, targets.lookup n with
    | 0, _ => .error .tooManyAliases
    | left + 1, some node => .ok (node, left)
    | _ + 1, none => .error .unknownAlias
  | node => .ok (node, left)

def expandItems (expand : Nat → Node Nat → Except Fault (Value × Nat)) (left : Nat) :
    List (Node Nat) → Except Fault (List Value × Nat)
  | [] => .ok ([], left)
  | item :: rest => do
    let (item, left) ← expand left item
    let (rest, left) ← expandItems expand left rest
    return (item :: rest, left)

def expandEntries (expand : Nat → Node Nat → Except Fault (Value × Nat)) (left : Nat) :
    List (Node Nat × Node Nat) → Except Fault (List (Value × Value) × Nat)
  | [] => .ok ([], left)
  | (key, value) :: rest => do
    let (key, left) ← expand left key
    let (value, left) ← expand left value
    let (rest, left) ← expandEntries expand left rest
    return ((key, value) :: rest, left)

/-- The value of a node. `depth` bounds the nesting and `left` the number of aliases that may be
followed; what is left of it is returned. -/
def expand (targets : List (Nat × Node Nat)) :
    Nat → Nat → Node Nat → Except Fault (Value × Nat)
  | 0, _, _ => .error .tooDeep
  | depth + 1, left, node => do
    let (node, left) ← follow targets left node
    match node with
    | .alias _ => .error .unknownAlias
    | .scalar _ tag style text => return (.scalar tag style text, left)
    | .sequence _ tag items =>
      if depth = 0 then .error .tooDeep
      else
        let (items, left) ← expandItems (expand targets depth) left items
        return (.sequence tag items, left)
    | .mapping _ tag entries =>
      if depth = 0 then .error .tooDeep
      else
        let (entries, left) ← expandEntries (expand targets depth) left entries
        return (.mapping tag entries, left)

/-- The deepest nesting of collections. -/
def depthLimit : Nat := 128

/-- The value of the only document of a text. -/
def parse (text : String) : Except Fault Value := do
  let root ← readDocument (← tokens text)
  let (root, _) ← numberNode [] root
  let (value, _) ← expand (anchored [] root) (depthLimit + 1) (100 * root.weight) root
  return value

end TypeExchange.Yaml
