import TypeExchange.Table
import TypeExchange.Unicode.Character

/-! Texts that show values for inspection, with every character visible. -/
namespace TypeExchange

/-- Lower-case hexadecimal digits without leading zeros. -/
def hexText (n : Nat) : List Char := Nat.toDigits 16 n

def inspectChar (c : Char) : List Char :=
  if c = '\x00' then ['\\', '0']
  else if c = '\t' then ['\\', 't']
  else if c = '\r' then ['\\', 'r']
  else if c = '\n' then ['\\', 'n']
  else if c = '"' ∨ c = '\\' then ['\\', c]
  else if 0x20 ≤ c.toNat ∧ c.toNat < 0x7f then [c]
  else if Unicode.isVisible c then [c]
  else '\\' :: 'u' :: '\x7b' :: (hexText c.toNat ++ ['\x7d'])

/-- A text between quotes. -/
def inspectText (s : String) : String :=
  String.ofList ('"' :: s.toList.flatMap inspectChar ++ ['"'])

def inspectOption : Option String → String
  | none => "None"
  | some s => "Some(" ++ inspectText s ++ ")"

def Pattern.inspect : Pattern → String
  | literal name => "Literal(" ++ inspectText name ++ ")"
  | expression text _ => "Pattern(Regex(" ++ inspectText text ++ "))"

/-- The converter is left out. -/
def Rule.inspect (r : Rule) : String :=
  "ConversionRule \x7b source: " ++ r.source.inspect ++ ", target: " ++ r.target.inspect ++
    ", init_arg: " ++ inspectOption r.init ++ ", .. \x7d"

def TypeSystem.inspect : TypeSystem → String
  | abi => "Abi"
  | runtime => "Runtime"
  | value => "Value"

def TypeRef.inspect (t : TypeRef) : String :=
  "TypeRef \x7b type_system: " ++ t.system.inspect ++ ", type_name: " ++
    inspectText t.typeName ++ " \x7d"

/-- The converter is left out. -/
def Descriptor.inspect (d : Descriptor) : String :=
  "ConversionDescriptor \x7b from: " ++ d.source.inspect ++ ", to: " ++ d.target.inspect ++
    ", .. \x7d"

/-- The registered pairs in ascending order, each with the number of its rules. -/
def Table.counts (t : Table) : List (SystemPair × Nat) :=
  t.pairs.map fun p => (p, ((t.rules? p).getD []).length)

def Table.inspect (t : Table) : String :=
  "\x7b" ++ String.intercalate ", " (t.counts.map fun c => c.1.text ++ ": " ++ toString c.2) ++
    "\x7d"

end TypeExchange
