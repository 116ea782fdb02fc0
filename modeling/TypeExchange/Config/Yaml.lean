import TypeExchange.Config.Validation
import TypeExchange.Naming
import TypeExchange.Yaml.Resolution
import TypeExchange.Yaml.Value

/-! Configurations as YAML documents. -/
namespace TypeExchange.Config

open Yaml (Value Fault Style Tag)

def coreTag (name : String) : Tag := Tag.ofString ("tag:yaml.org,2002:" ++ name)

def isLocal (tag : Option Tag) : Bool := tag.any Tag.isLocal

/-- In the wording of this library, and without the place in the document. -/
def mismatch {α : Type} (expected : String) : Except Fault α :=
  .error (.schema ("invalid type: expected " ++ expected))

/-- The text of any scalar, whatever it may denote. -/
def yamlText : Value → Except Fault String
  | .scalar _ _ text => .ok (String.ofList text)
  | _ => mismatch "a string"

def yamlSystem (v : Value) : Except Fault TypeSystem := do
  (TypeSystem.ofName (← yamlText v)).mapError fun fault => .schema fault.message

/-- A list; where nothing is written it is empty. -/
def yamlList {α : Type} (read : Value → Except Fault α) : Value → Except Fault (List α)
  | .sequence _ items => items.mapM read
  | .scalar _ .plain [] => .ok []
  | _ => mismatch "a sequence"

/-- A text that is absent where a plain scalar denotes null. -/
def yamlOptional (v : Value) : Except Fault (Option String) :=
  match v with
  | .scalar tag .plain text =>
    let s := String.ofList text
    match tag with
    | none => .ok (if s = "" ∨ Yaml.isNull s then none else some s)
    | some t =>
      if t = coreTag "null" then if Yaml.isNull s then .ok none else mismatch "null"
      else .ok (some s)
  | v => return some (← yamlText v)

/-- What a scalar denotes. Tags of the core select a meaning, which the text must have; any other
makes it a text, unless it has the mark of local tags but is none. -/
def yamlMeaning (tag : Option Tag) (style : Style) (text : List Char) :
    Except Fault Yaml.Meaning :=
  let s := String.ofList text
  let untagged : Yaml.Meaning := if style = .plain then Yaml.meaning s else .text
  match tag with
  | none => .ok untagged
  | some t =>
    if isLocal tag then mismatch "no enum"
    else if t = coreTag "bool" then if Yaml.isBool s then .ok .bool else mismatch "a boolean"
    else if t = coreTag "null" then if Yaml.isNull s then .ok .null else mismatch "null"
    else if t = coreTag "int" then
      match Yaml.integer s with
      | some m => .ok m
      | none => mismatch "an integer"
    else if t = coreTag "float" then if Yaml.isReal s then .ok .real else mismatch "a float"
    else .ok (if t.isMarked then untagged else .text)

mutual

/-- Whether a value could be kept without a use for it: nothing in it has a local tag, a meaning
that its tag forbids, or an integer that is too wide. -/
def isPlainData : Value → Bool
  | .scalar tag style text => match yamlMeaning tag style text with
    | .ok .wide | .error _ => false
    | .ok _ => true
  | .sequence tag items => !isLocal tag && arePlainData items
  | .mapping tag entries => !isLocal tag && arePlainEntries entries

def arePlainData : List Value → Bool
  | [] => true
  | v :: rest => isPlainData v && arePlainData rest

def arePlainEntries : List (Value × Value) → Bool
  | [] => true
  | (k, v) :: rest => isPlainData k && isPlainData v && arePlainEntries rest

end

/-- Whether a key of a pattern names its expression. Other names and natural numbers are passed
over, and so is no other kind of key. Fields may be called by their number. -/
def isExpressionKey : Value → Except Fault Bool
  | .scalar tag style text => do
    match ← yamlMeaning tag style text with
    | .text => return text == "pattern".toList
    | .natural n => return n == 0
    | _ => mismatch "a field name"
  | _ => mismatch "a field name"

/-- The expression among the entries of a pattern, which comes once. -/
def yamlExpression (found : Option String) :
    List (Value × Value) → Except Fault (Option String)
  | [] => .ok found
  | (k, v) :: rest => do
    if ← isExpressionKey k then
      match found, v with
      | none, .scalar tag style text =>
        match ← yamlMeaning tag style text with
        | .text => yamlExpression (some (String.ofList text)) rest
        | _ => mismatch "a string"
      | _, _ => mismatch "one string"
    else yamlExpression found rest

/-- A pattern: a scalar that denotes a text, or a mapping with an expression. Nothing else in the
mapping counts, but all of it must be plain data. -/
def yamlPattern (v : Value) : Except Fault PatternConfig := do
  if !isPlainData v then mismatch "a pattern"
  else match v with
    | .scalar tag style text =>
      match ← yamlMeaning tag style text with
      | .text => return .literal (String.ofList text)
      | _ => mismatch "a pattern"
    | .mapping _ entries =>
      match ← yamlExpression none entries with
      | some s => return .expression s
      | none => mismatch "a pattern"
    | .sequence .. => mismatch "a pattern"

/-- The entries of a mapping by name. Each name is one of `known` and comes once. -/
def yamlFields (known : List String) :
    List (Value × Value) → Except Fault (List (String × Value))
  | [] => .ok []
  | (k, v) :: rest => do
    let name ← yamlText k
    let fields ← yamlFields known rest
    if known.contains name ∧ (fields.lookup name).isNone then return (name, v) :: fields
    else mismatch "other fields"

def yamlMapping (known : List String) : Value → Except Fault (List (String × Value))
  | .mapping _ entries => yamlFields known entries
  | _ => mismatch "a mapping"

def yamlRequired {α : Type} (fields : List (String × Value)) (name : String)
    (read : Value → Except Fault α) : Except Fault α :=
  match fields.lookup name with
  | some v => read v
  | none => mismatch ("a field " ++ name)

def yamlDefault {α : Type} (fields : List (String × Value)) (name : String)
    (read : Value → Except Fault α) (default : α) : Except Fault α :=
  match fields.lookup name with
  | some v => read v
  | none => .ok default

def yamlRule (v : Value) : Except Fault RuleConfig := do
  let fields ← yamlMapping ["source", "target", "convert", "init"] v
  let source ← yamlRequired fields "source" yamlPattern
  let target ← yamlRequired fields "target" yamlPattern
  let convert ← yamlDefault fields "convert" yamlText defaultConvert
  let init ← yamlDefault fields "init" yamlOptional none
  return ⟨source, target, convert, init⟩

def yamlPair (v : Value) : Except Fault PairConfig := do
  let fields ← yamlMapping ["from", "to", "rules"] v
  let source ← yamlRequired fields "from" yamlSystem
  let target ← yamlRequired fields "to" yamlSystem
  let rules ← yamlDefault fields "rules" (yamlList yamlRule) []
  return ⟨⟨source, target⟩, rules⟩

def yamlTable (v : Value) : Except Fault TableConfig := do
  let fields ← yamlMapping ["conversions"] v
  return ⟨← yamlRequired fields "conversions" (yamlList yamlPair)⟩

end TypeExchange.Config

namespace TypeExchange.TableConfig

/-- The configuration that a document describes, once it has been validated. -/
def ofYaml (text : String) : Except Failure TableConfig := do
  match Yaml.parse text >>= Config.yamlTable with
  | .ok c =>
    c.validate
    return c
  | .error fault => .error (.yaml fault.message)

end TypeExchange.TableConfig
