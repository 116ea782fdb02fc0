import TypeExchange.System

/-! What can go wrong, and how it is reported. -/
namespace TypeExchange

/-- Why a text is no template. -/
inductive TemplateFault where
  | unterminated (template : String)
  | unknownPlaceholder (name template : String)
  | unmatchedBrace (template : String)
  deriving DecidableEq, Repr

def TemplateFault.message : TemplateFault → String
  | unterminated t => "Unterminated placeholder in template '" ++ t ++ "'"
  | unknownPlaceholder n t =>
    "Unknown placeholder '\x7b" ++ n ++ "\x7d' in template '" ++ t ++
      "' (expected \x7bcode\x7d or \x7bcontext\x7d)"
  | unmatchedBrace t => "Unmatched '\x7d' in template '" ++ t ++ "'"

/-- Why a configuration is refused. Entries and rules are counted from zero. -/
inductive ConfigFault where
  | unknownSystem (name : String)
  | template (fault : TemplateFault)
  | noConversions
  | duplicatePair (entry : Nat) (pair : SystemPair)
  | noRules (entry : Nat) (pair : SystemPair)
  | emptyPattern (entry rule : Nat) (side : Side)
  | badConvert (entry rule : Nat) (fault : TemplateFault)
  deriving DecidableEq, Repr

def ConfigFault.text : ConfigFault → String
  | unknownSystem n =>
    "Unknown type system: '" ++ n ++ "'. Supported type systems: abi, runtime, value"
  | template f => f.message
  | noConversions => "conversions must contain at least one type-system pair"
  | duplicatePair i p => s!"conversions[{i}]: duplicate pair {p.text}"
  | noRules i p => s!"conversions[{i}] ({p.text}): rules must not be empty"
  | emptyPattern i j side => s!"conversions[{i}].rules[{j}].{side.name} must not be empty"
  | badConvert i j f =>
    s!"conversions[{i}].rules[{j}].convert: " ++ "Configuration error: " ++ f.message

def ConfigFault.message (f : ConfigFault) : String := "Configuration error: " ++ f.text

/-- Why a file could not be read as text. -/
inductive FileFault where
  | missing | directory | notDirectory | nameTooLong | notUtf8 | nulInPath
  | other (text : String)
  deriving DecidableEq, Repr

def FileFault.text : FileFault → String
  | missing => "No such file or directory (os error 2)"
  | directory => "Is a directory (os error 21)"
  | notDirectory => "Not a directory (os error 20)"
  | nameTooLong => "File name too long (os error 36)"
  | notUtf8 => "stream did not contain valid UTF-8"
  | nulInPath => "file name contained an unexpected NUL byte"
  | other t => t

inductive Failure where
  | unsupportedPair (pair : SystemPair)
  | noMatch (pair : SystemPair) (probed : String) (side : Side)
  | config (fault : ConfigFault)
  | pattern (expression reason : String)
  | file (fault : FileFault)
  | yaml (reason : String)
  | json (reason : String)
  deriving DecidableEq, Repr

namespace Failure

/-- What failed, without the reason that a reader or the file system gave for it. -/
def headline : Failure → String
  | unsupportedPair p =>
    s!"Conversions from '{p.source.name}' to '{p.target.name}' are not supported"
  | noMatch p probed side =>
    s!"Conversion from '{p.source.name}' to '{p.target.name}' for {side.name} type '" ++
      probed ++ "' is not supported"
  | config f => f.message
  | pattern e _ => "Invalid type pattern '" ++ e ++ "'"
  | file _ => "IO error"
  | yaml _ => "YAML error"
  | json _ => "JSON error"

def reason? : Failure → Option String
  | unsupportedPair _ | noMatch .. | config _ => none
  | pattern _ r | yaml r | json r => some r
  | file f => some f.text

/-- The headline, with `reason` after a colon. -/
def messageWith (headline : String) : Option String → String
  | none => headline
  | some reason => headline ++ ": " ++ reason

def message (f : Failure) : String := messageWith f.headline f.reason?

/-- The message on a line of its own, then the cause if there is one. -/
def detailedWith (headline : String) (reason : Option String) : String :=
  "Error: " ++ messageWith headline reason ++ "\n" ++
    match reason with
    | none => ""
    | some text => "\nCaused by:\n  1: " ++ text

def detailed (f : Failure) : String := detailedWith f.headline f.reason?

def exitCode : Failure → Nat
  | unsupportedPair _ => 4
  | noMatch .. => 3
  | file _ => 7
  | config _ | pattern .. | yaml _ | json _ => 1

end Failure
end TypeExchange
