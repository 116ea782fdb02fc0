import TypeExchange.Builtin
import TypeExchange.Config.File
import TypeExchange.Log

/-! Tables with a log: when the file of a table has been read, when a table has been built, and
which rule answers for a name. -/
namespace TypeExchange

namespace Log.Event

def fileRead (path : String) : Event :=
  ⟨.debug, [.plain "loaded conversion table file"], [("path", .plain path)]⟩

def built (t : Table) : Event :=
  ⟨.debug, [.plain "built conversion table"],
    [("pairs", .count t.entries.length), ("rules", .count t.size)]⟩

def tableLoaded (path : String) : Event :=
  ⟨.debug, [.plain "Loaded conversion table from ", .quoted path], []⟩

/-- The rule at a place among those of a pair has been found for a name. -/
def resolved (pair : SystemPair) (side : Side) (probed : String) (index : Nat) : Event :=
  ⟨.debug, [.plain "resolved conversion"],
    [("from", .plain pair.source.name), ("to", .plain pair.target.name),
      ("direction", .plain side.name), ("probed", .quoted probed), ("rule", .count index)]⟩

end Log.Event

namespace Logged

/-- The configuration in a file, which is known to be text before it is read as one. -/
def load (path : String) (file : Except FileFault ByteArray) : Logged TableConfig := do
  let text ← fileText file
  log (.fileRead path)
  TableConfig.ofYaml text

def build (c : TableConfig) : Logged Table := do
  let t ← c.build
  log (.built t)
  return t

def builtin : Logged Table := do
  log (.built Table.builtin)
  return Table.builtin

variable (t : Table) (pair : SystemPair)

/-- That no rule matches is not logged but returned. -/
def resolve (side : Side) (probed : String) : Logged Rule := do
  let (rule, index) ← t.locate pair side probed
  log (.resolved pair side probed index)
  return rule

def descriptor (side : Side) (probed : String) : Logged Descriptor := do
  return (← resolve t pair side probed).descriptor pair side probed

def typeFor (name : String) : Logged String := do
  return (← descriptor t pair .source name).target.typeName

def initializedValue (name : String) : Logged String := do
  let rule ← resolve t pair .source name
  return (rule.descriptor pair .source name).convert (rule.init.getD "") none

end Logged
end TypeExchange
