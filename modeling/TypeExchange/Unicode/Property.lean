import TypeExchange.Unicode.Run
import TypeExchange.Unicode.AgeTable
import TypeExchange.Unicode.BinaryTable
import TypeExchange.Unicode.BreakTable
import TypeExchange.Unicode.CategoryTable
import TypeExchange.Unicode.ScriptTable

/-! Properties of characters by name, in version 16 of the character set. -/
namespace TypeExchange.Unicode

/-- The key of a name: case, spaces, hyphens, underscores, what lies outside ASCII and a leading
`is` do not count. The name `isc` stays as it is, since it names a property of its own. -/
def nameKey (name : List Char) : List Char :=
  let squeeze (cs : List Char) : List Char :=
    (cs.filter fun c => c.toNat < 128 && c != ' ' && c != '_' && c != '-').map Char.toLower
  match name with
  | i :: s :: rest =>
    if i.toLower = 'i' ∧ s.toLower = 's' then
      if squeeze rest = ['c'] then ['i', 's', 'c'] else squeeze rest
    else squeeze name
  | _ => squeeze name

/-- Whether `key` is one of the names, which stand apart by single spaces. -/
def isAmong (names key : String) : Bool := (names.toList.splitOn ' ').contains key.toList

/-- The row that has `key` among its names. -/
def findRow (table : List (String × List String)) (key : String) : Option (List Run) :=
  (table.find? fun row => isAmong row.1 key).map fun row => runsOfLines row.2

/-- The general categories that are unions of others: their names, and the first letter or the
keys of their parts. -/
def compositeCategories : List (String × List String) := [
  ("c other", ["cc", "cf", "cn", "co"]),
  ("l letter", ["ll", "lm", "lo", "lt", "lu"]),
  ("lc casedletter", ["ll", "lt", "lu"]),
  ("m mark combiningmark", ["mc", "me", "mn"]),
  ("n number", ["nd", "nl", "no"]),
  ("p punctuation punct", ["pc", "pd", "pe", "pf", "pi", "po", "ps"]),
  ("s symbol", ["sc", "sk", "sm", "so"]),
  ("z separator", ["zl", "zp", "zs"]),
  ("assigned", ["cc", "cf", "co", "l", "m", "n", "p", "s", "z"])]

def simpleCategory (key : String) : Option (List Run) :=
  if key = "any" then some [⟨0, 0x10ffff, 1⟩]
  else if key = "ascii" then some [⟨0, 0x7f, 1⟩]
  else findRow categoryTable key

def compositeCategory (key : String) : Option (List String) :=
  (compositeCategories.find? fun row => isAmong row.1 key).map (·.2)

def category (key : String) : Option (List Run) :=
  match simpleCategory key with
  | some runs => some runs
  | none => (compositeCategory key).map fun parts => parts.flatMap fun part =>
    match compositeCategory part with
    | some subparts => subparts.flatMap fun p => (simpleCategory p).getD []
    | none => (simpleCategory part).getD []

def script (key : String) : Option (List Run) := findRow scriptTable key

/-- What the named version and all before it hold. -/
def age (key : String) : Option (List Run) :=
  match ageTable.find? fun row => isAmong row.1 key with
  | none => none
  | some last => some ((ageTable.takeWhile fun row => !isAmong row.1 key).flatMap
      (fun row => runsOfLines row.2) ++ runsOfLines last.2)

/-- A property written by one name: a property that characters have or have not, else a general
category, else a script. -/
def propertyNamed (name : List Char) : Option (List Run) :=
  let key := String.ofList (nameKey name)
  (findRow binaryTable key).orElse fun _ => (category key).orElse fun _ => script key

/-- A property written as a name and a value. -/
def propertyValue (name value : List Char) : Option (List Run) :=
  let key := String.ofList (nameKey value)
  match String.ofList (nameKey name) with
  | "gc" | "generalcategory" => category key
  | "sc" | "script" => script key
  | "scx" | "scriptextensions" => findRow scriptExtensionTable key
  | "age" => age key
  | "gcb" | "graphemeclusterbreak" => findRow graphemeBreakTable key
  | "wb" | "wordbreak" => findRow wordBreakTable key
  | "sb" | "sentencebreak" => findRow sentenceBreakTable key
  | _ => none

def inRuns (runs : List Run) (c : Char) : Bool := runs.any (·.contains c.toNat)

def digitRuns : List Run := (category "nd").getD []

/-- Letters, marks, decimal digits, joining punctuation and the two joiners. -/
def wordRuns : List Run :=
  (propertyNamed "alphabetic".toList).getD [] ++ (category "m").getD [] ++ digitRuns ++
    (category "pc").getD [] ++ (propertyNamed "joincontrol".toList).getD []

def isWordChar (c : Char) : Bool := inRuns wordRuns c

end TypeExchange.Unicode
