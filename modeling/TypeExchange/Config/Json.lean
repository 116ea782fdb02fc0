import TypeExchange.Config.Basic
import TypeExchange.Inspection
import TypeExchange.Json.Basic
import TypeExchange.Naming

/-! Configurations as JSON values: reading them strictly, and writing them with all defaults. -/
namespace TypeExchange

/-- Why a JSON value is no configuration. -/
inductive SchemaFault where
  | missingField (name : String)
  | unknownField (name : String) (expected : List String)
  | duplicateField (name : String)
  | invalidType (found : Json) (expected : String)
  | invalidLength (length : Nat) (expected : String)
  | noVariant (name : String)
  | system (fault : ConfigFault)

/-- What kind of value was found. -/
def Json.describe : Json → String
  | null => "null"
  | bool b => "boolean \x60" ++ (if b then "true" else "false") ++ "\x60"
  | integer n => "integer \x60" ++ toString n ++ "\x60"
  | real text => "floating point \x60" ++ text ++ "\x60"
  | string s => "string " ++ inspectText s
  | array _ => "sequence"
  | object _ => "map"

def tick (s : String) : String := "\x60" ++ s ++ "\x60"

def expectedFields : List String → String
  | [name] => tick name
  | names => "one of " ++ String.intercalate ", " (names.map tick)

def SchemaFault.message : SchemaFault → String
  | missingField name => "missing field " ++ tick name
  | unknownField name expected =>
    "unknown field " ++ tick name ++ ", expected " ++ expectedFields expected
  | duplicateField name => "duplicate field " ++ tick name
  | invalidType found expected => "invalid type: " ++ found.describe ++ ", expected " ++ expected
  | invalidLength n expected => s!"invalid length {n}, expected {expected}"
  | noVariant name => "data did not match any variant of untagged enum " ++ name
  | system fault => fault.message

namespace Config

def readString : Json → Except SchemaFault String
  | .string s => .ok s
  | v => .error (.invalidType v "a string")

def readSystem (v : Json) : Except SchemaFault TypeSystem := do
  (TypeSystem.ofName (← readString v)).mapError .system

def readList {α : Type} (read : Json → Except SchemaFault α) :
    List Json → Except SchemaFault (List α)
  | [] => .ok []
  | v :: rest => do
    let x ← read v
    return x :: (← readList read rest)

def readSequence {α : Type} (read : Json → Except SchemaFault α) :
    Json → Except SchemaFault (List α)
  | .array items => readList read items
  | v => .error (.invalidType v "a sequence")

/-- A text that is absent where the value is null. -/
def readOptional : Json → Except SchemaFault (Option String)
  | .null => .ok none
  | v => return some (← readString v)

/-- A string is a name. An object with an expression under `pattern` is a pattern, whatever else
it holds. -/
def readPattern : Json → Except SchemaFault PatternConfig
  | .string s => .ok (.literal s)
  | .object members =>
    match members.lookup "pattern" with
    | some (.string s) => .ok (.expression s)
    | _ => .error (.noVariant "PatternConfig")
  | _ => .error (.noVariant "PatternConfig")

/-- Sets a field that has not been set. -/
def setOnce {α : Type} (name : String) (old : Option α) (new : Except SchemaFault α) :
    Except SchemaFault (Option α) :=
  match old with
  | some _ => .error (.duplicateField name)
  | none => return some (← new)

def require {α : Type} (name : String) : Option α → Except SchemaFault α
  | some x => .ok x
  | none => .error (.missingField name)

/-- The fields of a rule that have been read so far. -/
structure RuleFields where
  source : Option PatternConfig := none
  target : Option PatternConfig := none
  convert : Option String := none
  init : Option (Option String) := none

def RuleFields.visit (f : RuleFields) (key : String) (v : Json) :
    Except SchemaFault RuleFields := do
  match key with
  | "source" => return { f with source := ← setOnce key f.source (readPattern v) }
  | "target" => return { f with target := ← setOnce key f.target (readPattern v) }
  | "convert" => return { f with convert := ← setOnce key f.convert (readString v) }
  | "init" => return { f with init := ← setOnce key f.init (readOptional v) }
  | _ => .error (.unknownField key ["source", "target", "convert", "init"])

def RuleFields.visitAll (f : RuleFields) :
    List (String × Json) → Except SchemaFault RuleFields
  | [] => .ok f
  | (key, v) :: rest => do (← f.visit key v).visitAll rest

def RuleFields.finish (f : RuleFields) : Except SchemaFault RuleConfig := do
  let source ← require "source" f.source
  let target ← require "target" f.target
  return ⟨source, target, f.convert.getD defaultConvert, f.init.getD none⟩

/-- A rule is an object, or an array of its fields of which the last two may be missing. -/
def readRule : Json → Except SchemaFault RuleConfig
  | .object members => do (← RuleFields.visitAll {} members).finish
  | .array items => do
    match items with
    | [] => .error (.invalidLength 0 "struct RuleConfig with 4 elements")
    | [s] =>
      let _ ← readPattern s
      .error (.invalidLength 1 "struct RuleConfig with 4 elements")
    | s :: t :: rest =>
      let source ← readPattern s
      let target ← readPattern t
      match rest with
      | [] => return ⟨source, target, defaultConvert, none⟩
      | c :: rest =>
        let convert ← readString c
        match rest with
        | [] => return ⟨source, target, convert, none⟩
        | i :: rest =>
          let init ← readOptional i
          match rest with
          | [] => return ⟨source, target, convert, init⟩
          | _ :: _ => .error (.invalidLength items.length "fewer elements in array")
  | v => .error (.invalidType v "struct RuleConfig")

/-- The fields of an entry that have been read so far. -/
structure PairFields where
  source : Option TypeSystem := none
  target : Option TypeSystem := none
  rules : Option (List RuleConfig) := none

def PairFields.visit (f : PairFields) (key : String) (v : Json) :
    Except SchemaFault PairFields := do
  match key with
  | "from" => return { f with source := ← setOnce key f.source (readSystem v) }
  | "to" => return { f with target := ← setOnce key f.target (readSystem v) }
  | "rules" => return { f with rules := ← setOnce key f.rules (readSequence readRule v) }
  | _ => .error (.unknownField key ["from", "to", "rules"])

def PairFields.visitAll (f : PairFields) :
    List (String × Json) → Except SchemaFault PairFields
  | [] => .ok f
  | (key, v) :: rest => do (← f.visit key v).visitAll rest

def PairFields.finish (f : PairFields) : Except SchemaFault PairConfig := do
  let source ← require "from" f.source
  let target ← require "to" f.target
  return ⟨⟨source, target⟩, f.rules.getD []⟩

/-- An entry is an object, or an array of its fields of which the last may be missing. -/
def readPair : Json → Except SchemaFault PairConfig
  | .object members => do (← PairFields.visitAll {} members).finish
  | .array items => do
    match items with
    | [] => .error (.invalidLength 0 "struct PairConfig with 3 elements")
    | [s] =>
      let _ ← readSystem s
      .error (.invalidLength 1 "struct PairConfig with 3 elements")
    | s :: t :: rest =>
      let source ← readSystem s
      let target ← readSystem t
      match rest with
      | [] => return ⟨⟨source, target⟩, []⟩
      | r :: rest =>
        let rules ← readSequence readRule r
        match rest with
        | [] => return ⟨⟨source, target⟩, rules⟩
        | _ :: _ => .error (.invalidLength items.length "fewer elements in array")
  | v => .error (.invalidType v "struct PairConfig")

def visitTable (conversions : Option (List PairConfig)) :
    List (String × Json) → Except SchemaFault (Option (List PairConfig))
  | [] => .ok conversions
  | (key, v) :: rest => do
    if key = "conversions" then
      visitTable (← setOnce key conversions (readSequence readPair v)) rest
    else .error (.unknownField key ["conversions"])

/-- A configuration is an object with one field, or an array of it. -/
def readTable : Json → Except SchemaFault TableConfig
  | .object members => do
    return ⟨← require "conversions" (← visitTable none members)⟩
  | .array [] => .error (.invalidLength 0 "struct TableConfig with 1 element")
  | .array (v :: rest) => do
    let conversions ← readSequence readPair v
    match rest with
    | [] => return ⟨conversions⟩
    | _ :: _ => .error (.invalidLength (rest.length + 1) "fewer elements in array")
  | v => .error (.invalidType v "struct TableConfig")

end Config

/-- The configuration that a JSON value describes. -/
def TableConfig.ofJson (v : Json) : Except Failure TableConfig :=
  match Config.readTable v with
  | .ok c => .ok c
  | .error fault => .error (.json fault.message)

def PatternConfig.toJson : PatternConfig → Json
  | literal name => .string name
  | expression text => .object [("pattern", .string text)]

/-- The initial argument is written only where there is one. -/
def RuleConfig.toJson (r : RuleConfig) : Json :=
  .object ([("source", r.source.toJson), ("target", r.target.toJson),
      ("convert", .string r.convert)] ++
    match r.init with
    | none => []
    | some s => [("init", .string s)])

def PairConfig.toJson (p : PairConfig) : Json :=
  .object [("from", .string p.pair.source.name), ("to", .string p.pair.target.name),
    ("rules", .array (p.rules.map RuleConfig.toJson))]

def TableConfig.toJson (c : TableConfig) : Json :=
  .object [("conversions", .array (c.conversions.map PairConfig.toJson))]

end TypeExchange
