import Mathlib.Tactic.Common
import TypeExchange.Conversions
import TypeExchange.Proofs.Results

/-! Every operation on a table is one lookup, and what it makes of the rule that is found. -/
namespace TypeExchange.Table

variable (t : Table) (pair : SystemPair) (code name : String) (context : Option String)

theorem findFromType_eq : t.findFromType pair name =
    (t.resolve pair .source name).map (·.descriptor pair .source name) := by
  unfold findFromType descriptor
  cases t.resolve pair .source name <;> rfl

theorem findToType_eq : t.findToType pair name =
    (t.resolve pair .target name).map (·.descriptor pair .target name) := by
  unfold findToType descriptor
  cases t.resolve pair .target name <;> rfl

theorem typeFor_eq : t.typeFor pair name =
    (t.resolve pair .source name).map (·.target.text) := by
  rw [typeFor, findFromType_eq]
  cases t.resolve pair .source name <;> rfl

theorem convertForward_eq : t.convertForward pair code name context =
    (t.resolve pair .source name).map (·.converter.convert code context) := by
  rw [convertForward, findFromType_eq]
  cases t.resolve pair .source name <;> rfl

theorem convertBackward_eq : t.convertBackward pair code name =
    (t.resolve pair .target name).map (·.converter.convert code none) := by
  rw [convertBackward, findToType_eq]
  cases t.resolve pair .target name <;> rfl

theorem initializedValue_eq : t.initializedValue pair name =
    (t.resolve pair .source name).map fun r => r.converter.convert (r.init.getD "") none := by
  unfold initializedValue initializer resolveBySource
  cases t.resolve pair .source name <;> rfl

end TypeExchange.Table
