import TypeExchange.Table
import TypeExchange.Template

/-! Configurations: tables as data, from which they are built. -/
namespace TypeExchange

inductive PatternConfig where
  | literal (name : String)
  | expression (text : String)
  deriving DecidableEq, Repr

structure RuleConfig where
  source : PatternConfig
  target : PatternConfig
  convert : String
  init : Option String
  deriving DecidableEq, Repr

structure PairConfig where
  pair : SystemPair
  rules : List RuleConfig
  deriving DecidableEq, Repr

structure TableConfig where
  conversions : List PairConfig
  deriving DecidableEq, Repr

/-- The template of a rule that names none. -/
def defaultConvert : String := Template.identity.source

namespace PatternConfig

def text : PatternConfig → String
  | literal name => name
  | expression text => text

def compile : PatternConfig → Except Failure Pattern
  | literal name => .ok (.literal name)
  | expression text => Pattern.ofExpression text

end PatternConfig

def Template.parseConfig (source : String) : Except Failure Template :=
  match Template.parse source with
  | .ok t => .ok t
  | .error fault => .error (.config (.template fault))

/-- The source is compiled before the target, and that before the template. -/
def RuleConfig.compile (r : RuleConfig) : Except Failure Rule := do
  let source ← r.source.compile
  let target ← r.target.compile
  let template ← Template.parseConfig r.convert
  return ⟨source, target, .ofTemplate template, r.init⟩

/-- All rules, or the first failure among them. -/
def compileRules : List RuleConfig → Except Failure (List Rule)
  | [] => .ok []
  | r :: rest => do
    let rule ← r.compile
    return rule :: (← compileRules rest)

/-- The steps that build the table, or the first failure among all rules. -/
def compilePairs : List PairConfig → Except Failure (List Table.Step)
  | [] => .ok []
  | p :: rest => do
    let rules ← compileRules p.rules
    return .rules p.pair rules :: (← compilePairs rest)

/-- The table that the configuration describes. Entries for one pair are joined in order. -/
def TableConfig.build (c : TableConfig) : Except Failure Table := do
  return .ofSteps (← compilePairs c.conversions)

end TypeExchange
