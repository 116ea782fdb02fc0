import TypeExchange.Proofs.Table.Operations
import TypeExchange.Proofs.Table.Resolution

/-! The type that a list of rules names opposite a probed one. Two lists that are probed on
different sides can be compared run by run, where a run is some rules of the one and some of the
other that name one type and accept the same names. -/
namespace TypeExchange

def Side.opposite : Side → Side
  | .source => .target
  | .target => .source

/-- The type on the other side of the first rule that matches. -/
def oppositeType (rules : List Rule) (side : Side) (name : String) : Option String :=
  (rules.find? (·.accepts side name)).map fun r => (r.pattern side.opposite).text

section
variable {side side' : Side}

theorem oppositeType_append (xs ys : List Rule) (side : Side) (name : String) :
    oppositeType (xs ++ ys) side name =
      (oppositeType xs side name).or (oppositeType ys side name) := by
  simp only [oppositeType, List.find?_append, Option.map_or]

theorem oppositeType_of_named {rules : List Rule} {type : String}
    (h : ∀ r ∈ rules, (r.pattern side.opposite).text = type) (name : String) :
    oppositeType rules side name =
      if rules.any (·.accepts side name) then some type else none := by
  induction rules with
  | nil => rfl
  | cons r rs ih =>
    have hr := h r List.mem_cons_self
    have ih := ih fun r' hr' => h r' (List.mem_cons_of_mem r hr')
    cases ha : r.accepts side name with
    | true => simp [oppositeType, ha, hr]
    | false => simpa [oppositeType, ha] using ih

/-- The type was named by a rule that matches. -/
theorem exists_rule_of_oppositeType {rules : List Rule} {name type : String}
    (h : oppositeType rules side name = some type) :
    ∃ r ∈ rules, r.accepts side name = true ∧ (r.pattern side.opposite).text = type := by
  obtain ⟨r, hr, ht⟩ := Option.map_eq_some_iff.mp h
  have ha := List.find?_some hr
  exact ⟨r, List.mem_of_find?_eq_some hr, ha, ht⟩

/-- Runs of rules that name one type and accept the same names agree. -/
theorem oppositeType_run (type : String) {xs ys : List Rule}
    (hx : ∀ r ∈ xs, (r.pattern side.opposite).text = type)
    (hy : ∀ r ∈ ys, (r.pattern side'.opposite).text = type)
    (h : ∀ name, (xs.map (·.pattern side)).any (·.accepts name) =
      (ys.map (·.pattern side')).any (·.accepts name)) :
    oppositeType xs side = oppositeType ys side' := by
  funext name
  have hn := h name
  rw [List.any_map, List.any_map] at hn
  rw [oppositeType_of_named hx, oppositeType_of_named hy]
  exact congrArg (fun b : Bool => if b then some type else none) hn

theorem oppositeType_cons {x y : Rule} {xs ys : List Rule} (hp : x.pattern side = y.pattern side')
    (ht : (x.pattern side.opposite).text = (y.pattern side'.opposite).text)
    (h : oppositeType xs side = oppositeType ys side') :
    oppositeType (x :: xs) side = oppositeType (y :: ys) side' := by
  funext name
  have hn := congrFun h name
  have ha : x.accepts side name = y.accepts side' name := by simp only [Rule.accepts, hp]
  cases hy : y.accepts side' name with
  | true => simp [oppositeType, ha, hy, ht]
  | false => simpa [oppositeType, ha, hy] using hn

/-- Lists that begin with runs that agree, and go on alike, agree. -/
theorem oppositeType_runs (xs ys : List Rule) {xs' ys' : List Rule}
    (h : oppositeType xs side = oppositeType ys side')
    (h' : oppositeType xs' side = oppositeType ys' side') :
    oppositeType (xs ++ xs') side = oppositeType (ys ++ ys') side' := by
  funext name
  rw [oppositeType_append, oppositeType_append, h, h']

end

namespace Table

variable {t : Table} {pair pair' : SystemPair} {rules rules' : List Rule} {side side' : Side}
  {name : String}

theorem resolve_eq_ok_iff (h : t.rules pair = .ok rules) {r : Rule} :
    t.resolve pair side name = .ok r ↔ rules.find? (·.accepts side name) = some r := by
  cases hf : rules.find? (·.accepts side name) <;> simp [resolve, h, hf]

theorem exists_resolve_iff (h : t.rules pair = .ok rules) :
    (∃ r, t.resolve pair side name = .ok r) ↔ ∃ r ∈ rules, r.accepts side name = true := by
  simp only [resolve_eq_ok_iff h]
  rw [← Option.isSome_iff_exists, List.find?_isSome]

theorem exists_rules_of_resolve {r : Rule} (h : t.resolve pair side name = .ok r) :
    ∃ rules, t.rules pair = .ok rules ∧ r ∈ rules := by
  obtain ⟨rules, hrules, -⟩ := bind_eq_ok_iff.mp h
  exact ⟨rules, hrules, List.mem_of_find?_eq_some ((resolve_eq_ok_iff hrules).mp h)⟩

theorem resolve_eq_noMatch_iff (h : t.rules pair = .ok rules) :
    t.resolve pair side name = .error (.noMatch pair name side) ↔
      rules.find? (·.accepts side name) = none := by
  cases hf : rules.find? (·.accepts side name) <;> simp [resolve, h, hf]

theorem typeFor_eq_ok_iff (h : t.rules pair = .ok rules) {type : String} :
    t.typeFor pair name = .ok type ↔ oppositeType rules .source name = some type := by
  simp only [typeFor_eq, map_eq_ok_iff, resolve_eq_ok_iff h, oppositeType, Option.map_eq_some_iff,
    Side.opposite, Rule.pattern]

theorem typeFor_eq_noMatch_iff (h : t.rules pair = .ok rules) :
    t.typeFor pair name = .error (.noMatch pair name .source) ↔
      oppositeType rules .source name = none := by
  rw [typeFor_eq, map_eq_error_iff, resolve_eq_noMatch_iff h, oppositeType, Option.map_eq_none_iff]

theorem convertForward_of_find? (h : t.rules pair = .ok rules) {r : Rule}
    (hr : rules.find? (·.accepts .source name) = some r) (code : String)
    (context : Option String) :
    t.convertForward pair code name context = .ok (r.converter.convert code context) := by
  rw [convertForward_eq, (resolve_eq_ok_iff h).mpr hr, ok_map]

theorem convertBackward_of_find? (h : t.rules pair = .ok rules) {r : Rule}
    (hr : rules.find? (·.accepts .target name) = some r) (code : String) :
    t.convertBackward pair code name = .ok (r.converter.convert code none) := by
  rw [convertBackward_eq, (resolve_eq_ok_iff h).mpr hr, ok_map]

/-- Where lists of rules agree, lookups on their pairs find rules with one type on the other sides,
or both find nothing. -/
theorem resolve_opposite (h : t.rules pair = .ok rules) (h' : t.rules pair' = .ok rules')
    (hr : oppositeType rules side = oppositeType rules' side') (name : String) :
    (∃ r r', t.resolve pair side name = .ok r ∧ t.resolve pair' side' name = .ok r' ∧
      (r.pattern side.opposite).text = (r'.pattern side'.opposite).text) ∨
    (t.resolve pair side name = .error (.noMatch pair name side) ∧
      t.resolve pair' side' name = .error (.noMatch pair' name side')) := by
  have hn := congrFun hr name
  unfold oppositeType at hn
  simp only [resolve_eq_ok_iff h, resolve_eq_ok_iff h', resolve_eq_noMatch_iff h,
    resolve_eq_noMatch_iff h']
  cases hf : rules.find? (·.accepts side name) with
  | none =>
    rw [hf, Option.map_none, eq_comm, Option.map_eq_none_iff] at hn
    exact .inr ⟨rfl, hn⟩
  | some r =>
    rw [hf, Option.map_some, eq_comm, Option.map_eq_some_iff] at hn
    obtain ⟨r', hf', ht⟩ := hn
    exact .inl ⟨r, r', rfl, hf', ht.symm⟩

end Table
end TypeExchange
