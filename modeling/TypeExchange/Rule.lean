import TypeExchange.Converter
import TypeExchange.Pattern

/-! Rules between two types, and what a matched rule says about a type. -/
namespace TypeExchange

structure Rule where
  source : Pattern
  target : Pattern
  converter : Converter
  /-- The argument from which the converter makes an initial value. -/
  init : Option String := none

namespace Rule

def pattern (r : Rule) : Side → Pattern
  | .source => r.source
  | .target => r.target

def accepts (r : Rule) (side : Side) (name : String) : Bool := (r.pattern side).accepts name

end Rule

/-- A type of a system. -/
structure TypeRef where
  system : TypeSystem
  typeName : String
  deriving DecidableEq, Repr

/-- A conversion from one type to another. -/
structure Descriptor where
  source : TypeRef
  target : TypeRef
  converter : Converter

/-- The conversion of a rule where `probed` stands on one side; the other side is named by the
text of its pattern. -/
def Rule.descriptor (r : Rule) (pair : SystemPair) (side : Side) (probed : String) : Descriptor :=
  match side with
  | .source => ⟨⟨pair.source, probed⟩, ⟨pair.target, r.target.text⟩, r.converter⟩
  | .target => ⟨⟨pair.source, r.source.text⟩, ⟨pair.target, probed⟩, r.converter⟩

def Descriptor.convert (d : Descriptor) (code : String) (context : Option String) : String :=
  d.converter.convert code context

end TypeExchange
