import Mathlib.Data.List.Nodup
import TypeExchange.Proofs.Table.Opposite

/-! Names that are translated and back. Where the rules of a pair begin with known names, each with
a partner of its own, and those of the opposite pair with the same names the other way round, every
lookup of a name leads to its partner, whatever other rules follow. -/
namespace TypeExchange

/-- The name of a row that stands on a side. -/
def nameOn (side : Side) (row : String × String) : String :=
  match side with
  | .source => row.1
  | .target => row.2

/-- Some rules lead from the first name of each row to the second, one for each row, in any
order. -/
def Joins (own : List Rule) (rows : List (String × String)) : Prop :=
  (own.map fun r => (r.source, r.target)).Perm
    (rows.map fun row => (.literal row.1, .literal row.2))

instance (own : List Rule) (rows : List (String × String)) : Decidable (Joins own rows) :=
  inferInstanceAs (Decidable (List.Perm _ _))

/-- The first of the rules lead from the first name of each row to the second, in any order. -/
def BeginsWith (rules : List Rule) (rows : List (String × String)) : Prop :=
  ∃ own more, rules = own ++ more ∧ Joins own rows

section
variable {own : List Rule} {rows : List (String × String)}

theorem Joins.patterns (h : Joins own rows) (side : Side) :
    (own.map (·.pattern side)).Perm (rows.map fun row => .literal (nameOn side row)) := by
  cases side with
  | source => simpa [Function.comp_def, Rule.pattern, nameOn] using h.map Prod.fst
  | target => simpa [Function.comp_def, Rule.pattern, nameOn] using h.map Prod.snd

theorem Joins.exists_rule (h : Joins own rows) {row : String × String} (hrow : row ∈ rows) :
    ∃ r ∈ own, r.source = .literal row.1 ∧ r.target = .literal row.2 := by
  have hmem := h.mem_iff.mpr (List.mem_map_of_mem hrow)
  obtain ⟨r, hr, he⟩ := List.mem_map.mp hmem
  obtain ⟨hs, ht⟩ := Prod.mk.inj he
  exact ⟨r, hr, hs, ht⟩

theorem Joins.exists_literal (h : Joins own rows) (side : Side) {r : Rule} (hr : r ∈ own) :
    ∃ name, r.pattern side = .literal name := by
  have hmem := (h.patterns side).mem_iff.mp (List.mem_map_of_mem hr)
  obtain ⟨row, -, he⟩ := List.mem_map.mp hmem
  exact ⟨nameOn side row, he.symm⟩

theorem Joins.nodup (h : Joins own rows) {side : Side} (hd : (rows.map (nameOn side)).Nodup) :
    (own.map (·.pattern side)).Nodup := by
  have hinjective : Function.Injective Pattern.literal := fun _ _ => Pattern.literal.inj
  have hd := hd.map hinjective
  rw [List.map_map] at hd
  exact (h.patterns side).nodup_iff.mpr hd

/-- Among literals without repetition, a rule is found by its own name, whatever follows them. -/
theorem find?_literal {side : Side} (hliteral : ∀ r ∈ own, ∃ name, r.pattern side = .literal name)
    (hd : (own.map (·.pattern side)).Nodup) {r : Rule} (hr : r ∈ own) {name : String}
    (hn : r.pattern side = .literal name) (more : List Rule) :
    (own ++ more).find? (·.accepts side name) = some r := by
  induction own with
  | nil => contradiction
  | cons q own ih =>
    rw [List.forall_mem_cons] at hliteral
    rw [List.map_cons, List.nodup_cons] at hd
    rw [List.cons_append]
    rcases List.mem_cons.mp hr with rfl | hr
    · exact List.find?_cons_of_pos (by simp [Rule.accepts, hn, Pattern.accepts])
    · obtain ⟨other, ho⟩ := hliteral.1
      have hne : other ≠ name := by
        rintro rfl
        exact hd.1 (List.mem_map.mpr ⟨r, hr, by rw [hn, ho]⟩)
      rw [List.find?_cons_of_neg (by simpa [Rule.accepts, ho, Pattern.accepts] using hne)]
      exact ih hliteral.2 hd.2 hr

end

namespace Table

/-- A name of one system and its partner in another lead to each other, in either direction. -/
structure Partners (t : Table) (a b : TypeSystem) (name partner : String) : Prop where
  type : t.typeFor ⟨a, b⟩ name = .ok partner
  typeBack : t.typeFor ⟨b, a⟩ partner = .ok name
  source : ∃ d, t.findToType ⟨a, b⟩ partner = .ok d ∧ d.source.typeName = name
  code : ∀ code, ∃ result, t.convertBackward ⟨a, b⟩ code partner = .ok result ∧
    t.convertForward ⟨a, b⟩ code name none = .ok result

theorem resolve_of_joins {t : Table} {pair : SystemPair} {own more : List Rule}
    {rows : List (String × String)} (ht : t.rules pair = .ok (own ++ more)) (h : Joins own rows)
    (side : Side) (hd : (rows.map (nameOn side)).Nodup) {r : Rule} (hr : r ∈ own) {name : String}
    (hn : r.pattern side = .literal name) : t.resolve pair side name = .ok r := by
  rw [resolve_eq_ok_iff ht]
  exact find?_literal (fun _ => h.exists_literal side) (h.nodup hd) hr hn more

theorem rules_ofSteps_of_joins {steps : List Step} {pair : SystemPair} {own more : List Rule}
    {rows : List (String × String)} (hp : passedFor pair steps = own ++ more) (h : Joins own rows)
    {row : String × String} (hrow : row ∈ rows) :
    (ofSteps steps).rules pair = .ok (own ++ more) := by
  rw [← hp]
  apply rules_ofSteps
  intro hnone
  obtain ⟨r, hr, -⟩ := h.exists_rule hrow
  have hempty : own ++ more = [] := by rw [← hp, passedFor, hnone, List.flatMap_nil]
  rw [(List.append_eq_nil_iff.mp hempty).1] at hr
  contradiction

/-- Names that no row repeats are translated into their partners and back, if the steps pass rules
for the rows to one pair and for the rows turned round to the opposite pair, before any others. -/
theorem round_trip {steps : List Step} {a b : TypeSystem} {rows : List (String × String)}
    (hnames : (rows.map Prod.fst).Nodup) (hpartners : (rows.map Prod.snd).Nodup)
    (hforward : BeginsWith (passedFor ⟨a, b⟩ steps) rows)
    (hback : BeginsWith (passedFor ⟨b, a⟩ steps) (rows.map Prod.swap)) :
    ∀ row ∈ rows, (ofSteps steps).Partners a b row.1 row.2 := by
  intro row hrow
  obtain ⟨own, more, hp, hown⟩ := hforward
  obtain ⟨own', more', hp', hown'⟩ := hback
  have hrow' : row.swap ∈ rows.map Prod.swap := List.mem_map_of_mem hrow
  obtain ⟨r, hr, hs, ht⟩ := hown.exists_rule hrow
  obtain ⟨r', hr', hs', ht'⟩ := hown'.exists_rule hrow'
  have hrules := rules_ofSteps_of_joins hp hown hrow
  have hrules' := rules_ofSteps_of_joins hp' hown' hrow'
  have hturned : ((rows.map Prod.swap).map (nameOn .source)).Nodup := by
    simpa [Function.comp_def, nameOn] using hpartners
  have hsource : (ofSteps steps).resolve ⟨a, b⟩ .source row.1 = .ok r :=
    resolve_of_joins hrules hown .source hnames hr hs
  have htarget : (ofSteps steps).resolve ⟨a, b⟩ .target row.2 = .ok r :=
    resolve_of_joins hrules hown .target hpartners hr ht
  have hsource' : (ofSteps steps).resolve ⟨b, a⟩ .source row.2 = .ok r' :=
    resolve_of_joins hrules' hown' .source hturned hr' hs'
  exact
    { type := by rw [typeFor_eq, hsource, ok_map, ht, Pattern.text]
      typeBack := by
        rw [typeFor_eq, hsource', ok_map, ht']
        rfl
      source := by
        refine ⟨_, by rw [findToType_eq, htarget, ok_map], ?_⟩
        simp only [Rule.descriptor, hs, Pattern.text]
      code := by
        intro code
        refine ⟨r.converter.convert code none, ?_, ?_⟩
        · rw [convertBackward_eq, htarget, ok_map]
        · rw [convertForward_eq, hsource, ok_map] }

/-- Two names with their partners, for both directions in different order, among steps for both pairs
and before a rule for any name. -/
def exchange : List Step := [
  .rule ⟨.abi, .value⟩ ⟨.literal "bool", .literal "Boolean", .method "asBoolean", none⟩,
  .rule ⟨.value, .abi⟩ ⟨.literal "String", .literal "string", .call "fromString", none⟩,
  .rules ⟨.value, .runtime⟩ [],
  .rules ⟨.abi, .value⟩ [⟨.literal "string", .literal "String", .method "asString", none⟩,
    ⟨.ofValid "." (by decide +kernel), .ofValid "." (by decide +kernel), .identity, none⟩],
  .rule ⟨.value, .abi⟩ ⟨.literal "Boolean", .literal "bool", .call "fromBoolean", none⟩]

theorem round_trip_exchange :
    (([("string", "String"), ("bool", "Boolean")].map Prod.fst).Nodup ∧
      ([("string", "String"), ("bool", "Boolean")].map Prod.snd).Nodup ∧
      BeginsWith (passedFor ⟨.abi, .value⟩ exchange)
        [("string", "String"), ("bool", "Boolean")] ∧
      BeginsWith (passedFor ⟨.value, .abi⟩ exchange)
        ([("string", "String"), ("bool", "Boolean")].map Prod.swap)) ∧
    (ofSteps exchange).Partners .abi .value "string" "String" := by
  have hnames : ([("string", "String"), ("bool", "Boolean")].map Prod.fst).Nodup := by decide
  have hpartners : ([("string", "String"), ("bool", "Boolean")].map Prod.snd).Nodup := by decide
  have hforward : BeginsWith (passedFor ⟨.abi, .value⟩ exchange)
      [("string", "String"), ("bool", "Boolean")] :=
    ⟨_, _, (List.take_append_drop 2 _).symm, by decide⟩
  have hback : BeginsWith (passedFor ⟨.value, .abi⟩ exchange)
      ([("string", "String"), ("bool", "Boolean")].map Prod.swap) :=
    ⟨_, _, (List.take_append_drop 2 _).symm, by decide⟩
  exact ⟨⟨hnames, hpartners, hforward, hback⟩,
    round_trip hnames hpartners hforward hback _ List.mem_cons_self⟩

end Table
end TypeExchange
