import TypeExchange.Failure
import TypeExchange.Unicode.LowerCase
import TypeExchange.Unicode.WhiteSpace

/-! The names by which a type system may be called. -/
namespace TypeExchange.TypeSystem

/-- The system that a lower-case name stands for. -/
def ofAlias? : String → Option TypeSystem
  | "abi" | "ethereum" => some abi
  | "runtime" | "assemblyscript" | "asc" => some runtime
  | "value" => some value
  | _ => none

/-- White space around a name and the case of its letters do not count. -/
def ofName (name : String) : Except ConfigFault TypeSystem :=
  let word := Unicode.lowerCase (Unicode.trim name)
  match ofAlias? word with
  | some system => .ok system
  | none => .error (.unknownSystem word)

def normalize (name : String) : Except Failure TypeSystem := (ofName name).mapError .config

end TypeExchange.TypeSystem
