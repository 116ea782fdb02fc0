import TypeExchange.Config.Basic

/-! The demands that a configuration has to meet before it is used. -/
namespace TypeExchange

/-- The fault of a rule, in the place where it stands. -/
def RuleConfig.check (entry rule : Nat) (r : RuleConfig) : Except ConfigFault Unit :=
  if r.source.text = "" then .error (.emptyPattern entry rule .source)
  else if r.target.text = "" then .error (.emptyPattern entry rule .target)
  else match Template.parse r.convert with
    | .ok _ => .ok ()
    | .error fault => .error (.badConvert entry rule fault)

def checkRules (entry : Nat) : Nat → List RuleConfig → Except ConfigFault Unit
  | _, [] => .ok ()
  | rule, r :: rest => do
    r.check entry rule
    checkRules entry (rule + 1) rest

/-- An entry may not repeat one of the pairs before it, and has rules. -/
def checkPairs : Nat → List SystemPair → List PairConfig → Except ConfigFault Unit
  | _, _, [] => .ok ()
  | entry, seen, p :: rest => do
    if seen.contains p.pair then .error (.duplicatePair entry p.pair)
    else if p.rules.isEmpty then .error (.noRules entry p.pair)
    else
      checkRules entry 0 p.rules
      checkPairs (entry + 1) (p.pair :: seen) rest

/-- The first fault in the order of the text, if there is one. -/
def TableConfig.check (c : TableConfig) : Except ConfigFault Unit :=
  if c.conversions.isEmpty then .error .noConversions else checkPairs 0 [] c.conversions

def TableConfig.validate (c : TableConfig) : Except Failure Unit :=
  match c.check with
  | .ok () => .ok ()
  | .error fault => .error (.config fault)

end TypeExchange
