import TypeExchange.Config.Yaml

/-! Configurations in files, and paths under which there can be none. -/
namespace TypeExchange

/-- The longest path that is looked up, in bytes. -/
def pathLimit : Nat := 4095

/-- Why nothing is found under a path, wherever it is looked up. -/
def pathFault? (path : String) : Option FileFault :=
  if path.toList.contains '\x00' then some .nulInPath
  else if path = "" then some .missing
  else if pathLimit < path.utf8ByteSize then some .nameTooLong
  else none

/-- The text in a file, given its bytes or why it could not be read. -/
def fileText : Except FileFault ByteArray → Except Failure String
  | .error fault => .error (.file fault)
  | .ok bytes =>
    match String.fromUTF8? bytes with
    | some text => .ok text
    | none => .error (.file .notUtf8)

/-- The configuration in a file. -/
def TableConfig.ofFile (file : Except FileFault ByteArray) : Except Failure TableConfig := do
  ofYaml (← fileText file)

end TypeExchange
