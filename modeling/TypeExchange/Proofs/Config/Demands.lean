import Mathlib.Data.List.Lex
import TypeExchange.Proofs.Config.Compilation

/-! Why a configuration is refused. What is demanded of a configuration has the order of the
document, and the first demand that is not met is the one that is reported. -/
namespace TypeExchange

/-- What is demanded of a configuration: that it has entries, that an entry has a pair that none
before it has, and rules, and that every component of a rule can be used. -/
inductive Demand where
  | conversions
  | pair (entry : Nat)
  | rules (entry : Nat)
  | component (place : Place)
  deriving DecidableEq, Repr

namespace Slot

def name : Slot → String
  | pattern side => side.name
  | convert => "convert"

theorem rank_injective {s s' : Slot} (h : s.rank = s'.rank) : s = s' := by
  rcases s with (_ | _) | _ <;> rcases s' with (_ | _) | _ <;>
    first
    | rfl
    | exact absurd h (by decide)

end Slot

namespace Demand

/-- The numbers of a demand in an outline of the document. -/
def outline : Demand → List Nat
  | conversions => []
  | pair i => [i, 0]
  | rules i => [i, 1]
  | component p => [p.entry, 2, p.rule, p.slot.rank]

/-- Outlines are compared number by number, and what is over others comes before them. -/
instance : LT Demand := ⟨fun d e => d.outline < e.outline⟩

instance (d e : Demand) : Decidable (d < e) :=
  inferInstanceAs (Decidable (d.outline < e.outline))

example : rules 0 < component ⟨0, 1, .convert⟩ ∧ component ⟨0, 1, .convert⟩ < pair 1 := by decide

/-- Where the demand is in the document. -/
def path : Demand → String
  | conversions => "conversions"
  | pair i | rules i => s!"conversions[{i}]"
  | component p => s!"conversions[{p.entry}].rules[{p.rule}].{p.slot.name}"

/-- The entry that the demand is on. -/
def entry? : Demand → Option Nat
  | conversions => none
  | pair i | rules i => some i
  | component p => some p.entry

section
variable {d e : Demand} {i j : Nat} {slot : Slot}

theorem lt_iff : d < e ↔ d.outline < e.outline := Iff.rfl

theorem outline_injective (h : d.outline = e.outline) : d = e := by
  cases d with
  | component p =>
    cases e with
    | component q =>
      obtain ⟨i, j, s⟩ := p
      obtain ⟨i', j', s'⟩ := q
      simp only [outline, List.cons.injEq, true_and, and_true] at h
      obtain ⟨rfl, rfl, hs⟩ := h
      rw [Slot.rank_injective hs]
    | _ => simp [outline] at h
  | _ => cases e <;> simp_all [outline]

theorem eq_of_not_lt (h : ¬d < e) (h' : ¬e < d) : d = e := by
  rcases lt_trichotomy d.outline e.outline with hlt | heq | hlt
  · exact absurd hlt h
  · exact outline_injective heq
  · exact absurd hlt h'

theorem entry?_eq_some_iff :
    d.entry? = some i ↔ d = pair i ∨ d = rules i ∨ ∃ j slot, d = component ⟨i, j, slot⟩ := by
  constructor
  · intro h
    cases d with
    | conversions => contradiction
    | pair i' => exact .inl (congrArg pair (Option.some.inj h))
    | rules i' => exact .inr (.inl (congrArg rules (Option.some.inj h)))
    | component p =>
      obtain ⟨i', j, slot⟩ := p
      obtain rfl : i' = i := Option.some.inj h
      exact .inr (.inr ⟨j, slot, rfl⟩)
  · rintro (rfl | rfl | ⟨j, slot, rfl⟩) <;> rfl

theorem entry_le_of_lt {i' : Nat} (hd : d.entry? = some i') (he : e.entry? = some i)
    (hlt : d < e) : i' ≤ i := by
  rcases entry?_eq_some_iff.mp hd with rfl | rfl | ⟨j', slot', rfl⟩ <;>
    rcases entry?_eq_some_iff.mp he with rfl | rfl | ⟨j, slot, rfl⟩ <;>
    simp only [lt_iff, outline, List.cons_lt_cons_iff] at hlt <;> omega

/-- What comes before a demand on an entry is the demand that there are entries, or a demand on an
entry before, or one on the same entry. -/
theorem forall_lt {P : Demand → Prop} (he : e.entry? = some i) (hc : P conversions)
    (hbefore : ∀ i' < i, ∀ d : Demand, d.entry? = some i' → P d)
    (hwithin : ∀ d : Demand, d.entry? = some i → d < e → P d) : ∀ d < e, P d := by
  intro d hlt
  cases hd : d.entry? with
  | none =>
    cases d with
    | conversions => exact hc
    | _ => contradiction
  | some i' =>
    rcases Nat.lt_or_eq_of_le (entry_le_of_lt hd he hlt) with hi | rfl
    · exact hbefore i' hi d hd
    · exact hwithin d hd hlt

theorem not_lt_pair (hd : d.entry? = some i) : ¬d < pair i := by
  rcases entry?_eq_some_iff.mp hd with rfl | rfl | ⟨j, slot, rfl⟩ <;>
    simp [lt_iff, outline, List.cons_lt_cons_iff]

theorem eq_pair_of_lt_rules (hd : d.entry? = some i) (hlt : d < rules i) : d = pair i := by
  rcases entry?_eq_some_iff.mp hd with rfl | rfl | ⟨j, slot, rfl⟩
  · rfl
  · simp [lt_iff, outline] at hlt
  · simp [lt_iff, outline, List.cons_lt_cons_iff] at hlt

theorem lt_component_cases (hd : d.entry? = some i) (hlt : d < component ⟨i, j, slot⟩) :
    d = pair i ∨ d = rules i ∨ ∃ j' slot', d = component ⟨i, j', slot'⟩ ∧
      (j' < j ∨ j' = j ∧ slot'.rank < slot.rank) := by
  rcases entry?_eq_some_iff.mp hd with rfl | rfl | ⟨j', slot', rfl⟩
  · exact .inl rfl
  · exact .inr (.inl rfl)
  · refine .inr (.inr ⟨j', slot', rfl, ?_⟩)
    simpa [lt_iff, outline, List.cons_lt_cons_iff] using hlt

end
end Demand

namespace ConfigFault

theorem text_duplicatePair (i : Nat) (pair : SystemPair) :
    (duplicatePair i pair).text = (Demand.pair i).path ++ ": duplicate pair " ++ pair.text := by
  change "conversions[" ++ toString i ++ ("]" ++ ": duplicate pair ") ++ pair.text = _
  rw [← String.append_assoc]
  rfl

theorem text_noRules (i : Nat) (pair : SystemPair) :
    (noRules i pair).text =
      (Demand.rules i).path ++ " (" ++ pair.text ++ "): rules must not be empty" := by
  change "conversions[" ++ toString i ++ ("]" ++ " (") ++ pair.text ++ _ = _
  rw [← String.append_assoc]
  rfl

theorem text_badConvert (i j : Nat) (fault : TemplateFault) :
    (badConvert i j fault).text =
      (Demand.component ⟨i, j, .convert⟩).path ++ ": " ++ (template fault).message := by
  have hpath : (Demand.component ⟨i, j, .convert⟩).path =
      "conversions[" ++ toString i ++ "].rules[" ++ toString j ++ "]." ++ "convert" := rfl
  change "conversions[" ++ toString i ++ "].rules[" ++ toString j ++ ("]." ++ "convert" ++ ": ") ++
    "Configuration error: " ++ fault.message = _
  simp only [hpath, String.append_assoc]
  rfl

end ConfigFault

/-- A component that cannot be used, and the fault at its place. -/
inductive Component.Unfit : Component → Place → ConfigFault → Prop
  | emptyPattern {p : PatternConfig} {i j : Nat} {side : Side} (h : p.text = "") :
      Unfit (.pattern p) ⟨i, j, .pattern side⟩ (.emptyPattern i j side)
  | badConvert {text : String} {i j : Nat} {fault : TemplateFault}
      (h : Template.parse text = .error fault) :
      Unfit (.template text) ⟨i, j, .convert⟩ (.badConvert i j fault)

theorem Component.Unfit.unique {x : Component} {place : Place} {fault fault' : ConfigFault}
    (h : x.Unfit place fault) (h' : x.Unfit place fault') : fault = fault' := by
  cases h with
  | emptyPattern =>
    cases h'
    rfl
  | badConvert hp =>
    cases h' with
    | badConvert hp' => rw [Except.error.inj (hp.symm.trans hp')]

namespace TableConfig

/-- A demand that is not met, and the fault that this is. -/
inductive Violates (c : TableConfig) : Demand → ConfigFault → Prop
  | noConversions (h : c.conversions = []) : c.Violates .conversions .noConversions
  | duplicatePair {i : Nat} {p : PairConfig} (hp : c.conversions[i]? = some p)
      (h : p.pair ∈ (c.conversions.take i).map (·.pair)) :
      c.Violates (.pair i) (.duplicatePair i p.pair)
  | noRules {i : Nat} {p : PairConfig} (hp : c.conversions[i]? = some p) (h : p.rules = []) :
      c.Violates (.rules i) (.noRules i p.pair)
  | unfit {place : Place} {x : Component} {fault : ConfigFault}
      (hx : c.component? place = some x) (h : x.Unfit place fault) :
      c.Violates (.component place) fault

structure FirstViolation (c : TableConfig) (d : Demand) (fault : ConfigFault) : Prop where
  violates : c.Violates d fault
  earlier : ∀ d' < d, ∀ fault', ¬c.Violates d' fault'

end TableConfig

namespace RuleConfig
variable {r : RuleConfig} {i j : Nat}

theorem not_unfit_pattern {p : PatternConfig} (h : p.text ≠ "") {place : Place}
    (fault : ConfigFault) : ¬(Component.pattern p).Unfit place fault := by
  intro hu
  cases hu with
  | emptyPattern he => exact h he

theorem Valid.not_unfit (h : r.Valid) (slot : Slot) {place : Place} (fault : ConfigFault) :
    ¬(r.component slot).Unfit place fault := by
  rcases slot with (_ | _) | _
  · exact not_unfit_pattern h.source fault
  · exact not_unfit_pattern h.target fault
  · intro hu
    cases hu with
    | badConvert he =>
      obtain ⟨t, ht⟩ := h.convert
      rw [ht] at he
      contradiction

/-- The first component of a rule that cannot be used is reported. -/
theorem exists_unfit_of_check {fault : ConfigFault} (h : r.check i j = .error fault) :
    ∃ slot, (r.component slot).Unfit ⟨i, j, slot⟩ fault ∧
      ∀ slot' : Slot, slot'.rank < slot.rank →
        ∀ fault', ¬(r.component slot').Unfit ⟨i, j, slot'⟩ fault' := by
  unfold check at h
  split at h
  next hs =>
    obtain rfl := Except.error.inj h
    exact ⟨.pattern .source, .emptyPattern hs, fun _ hlt => absurd hlt (Nat.not_lt_zero _)⟩
  next hs =>
    split at h
    next ht =>
      obtain rfl := Except.error.inj h
      exact ⟨.pattern .target, .emptyPattern ht, Slot.forall_lt_target.mpr (not_unfit_pattern hs)⟩
    next ht =>
      split at h
      next => contradiction
      next templateFault hp =>
        obtain rfl := Except.error.inj h
        exact ⟨.convert, .badConvert hp,
          Slot.forall_lt_convert.mpr ⟨not_unfit_pattern hs, not_unfit_pattern ht⟩⟩

end RuleConfig

/-- What is checked of an entry, in view of the entries before it. -/
def PairConfig.check (before : List PairConfig) (p : PairConfig) : Except ConfigFault Unit :=
  if p.pair ∈ before.map (·.pair) then .error (.duplicatePair before.length p.pair)
  else if p.rules = [] then .error (.noRules before.length p.pair)
  else checkRules before.length 0 p.rules

theorem checkRules_eq_checkAll (entry : Nat) (before rs : List RuleConfig) :
    checkRules entry before.length rs =
      checkAll (fun before r => r.check entry before.length) before rs := by
  induction rs generalizing before with
  | nil => rfl
  | cons r rest ih =>
    have hrest := ih (before ++ [r])
    rw [List.length_append] at hrest
    rw [checkRules, checkAll, ← hrest]
    rfl

theorem checkPairs_eq_checkAll (before ps : List PairConfig) :
    checkPairs before.length (before.map (·.pair)).reverse ps =
      checkAll PairConfig.check before ps := by
  induction ps generalizing before with
  | nil => rfl
  | cons p rest ih =>
    have hrest := ih (before ++ [p])
    rw [List.length_append, List.map_append, List.reverse_append] at hrest
    rw [checkPairs, checkAll, ← hrest, PairConfig.check]
    by_cases hs : p.pair ∈ before.map (·.pair)
    · simp [hs]
    · by_cases he : p.rules = []
      · simp [hs, he]
      · simp [hs, he]

theorem length_take_of_getElem? {α : Type} {xs : List α} {i : Nat} {x : α} (h : xs[i]? = some x) :
    (xs.take i).length = i := by
  obtain ⟨hi, -⟩ := List.getElem?_eq_some_iff.mp h
  exact List.length_take_of_le hi.le

theorem exists_of_checkRules {entry : Nat} {rs : List RuleConfig} {fault : ConfigFault}
    (h : checkRules entry 0 rs = .error fault) :
    ∃ (j : Nat) (r : RuleConfig), rs[j]? = some r ∧ r.check entry j = .error fault ∧
      ∀ j' < j, ∀ r', rs[j']? = some r' → r'.Valid := by
  obtain ⟨j, r, hr, hcheck, hearlier⟩ :=
    exists_of_checkAll_eq_error ((checkRules_eq_checkAll entry [] rs).symm.trans h)
  rw [List.nil_append, length_take_of_getElem? hr] at hcheck
  refine ⟨j, r, hr, hcheck, ?_⟩
  intro j' hj r' hr'
  exact RuleConfig.check_eq_ok_iff.mp (hearlier j' hj r' hr')

namespace TableConfig
variable {c : TableConfig} {i j : Nat} {p : PairConfig} {fault : ConfigFault}

theorem not_violates_conversions (h : c.conversions ≠ []) : ¬c.Violates .conversions fault := by
  intro hv
  cases hv with
  | noConversions he => exact h he

theorem not_violates_pair (hp : c.conversions[i]? = some p)
    (h : p.pair ∉ (c.conversions.take i).map (·.pair)) : ¬c.Violates (.pair i) fault := by
  intro hv
  cases hv with
  | duplicatePair hq he =>
    obtain rfl := Option.some.inj (hp.symm.trans hq)
    exact h he

theorem not_violates_rules (hp : c.conversions[i]? = some p) (h : p.rules ≠ []) :
    ¬c.Violates (.rules i) fault := by
  intro hv
  cases hv with
  | noRules hq he =>
    obtain rfl := Option.some.inj (hp.symm.trans hq)
    exact h he

theorem not_violates_component {slot : Slot} (hp : c.conversions[i]? = some p)
    (h : ∀ r, p.rules[j]? = some r → ∀ fault, ¬(r.component slot).Unfit ⟨i, j, slot⟩ fault) :
    ¬c.Violates (.component ⟨i, j, slot⟩) fault := by
  intro hv
  cases hv with
  | unfit hx hu =>
    obtain ⟨q, r, hq, hr, rfl⟩ := component?_eq_some_iff.mp hx
    obtain rfl := Option.some.inj (hp.symm.trans hq)
    exact h r hr fault hu

/-- An entry that passes its check meets all demands on it. -/
theorem not_violates_of_check (hp : c.conversions[i]? = some p)
    (h : p.check (c.conversions.take i) = .ok ()) {d : Demand} (hd : d.entry? = some i) :
    ¬c.Violates d fault := by
  unfold PairConfig.check at h
  split at h
  next => contradiction
  next hpair =>
    split at h
    next => contradiction
    next hrules =>
      have hvalid := checkRules_eq_ok_iff.mp h
      rcases Demand.entry?_eq_some_iff.mp hd with rfl | rfl | ⟨j, slot, rfl⟩
      · exact not_violates_pair hp hpair
      · exact not_violates_rules hp hrules
      · apply not_violates_component hp
        intro r hr
        exact (hvalid r (List.mem_of_getElem? hr)).not_unfit slot

/-- An entry that fails its check does so for the first demand on it that is not met. -/
theorem exists_violates_of_check (hp : c.conversions[i]? = some p)
    (h : p.check (c.conversions.take i) = .error fault) :
    ∃ d : Demand, d.entry? = some i ∧ c.Violates d fault ∧
      ∀ d' : Demand, d'.entry? = some i → d' < d → ∀ fault', ¬c.Violates d' fault' := by
  unfold PairConfig.check at h
  rw [length_take_of_getElem? hp] at h
  split at h
  next hpair =>
    obtain rfl := Except.error.inj h
    exact ⟨.pair i, rfl, .duplicatePair hp hpair,
      fun d' hd' hlt => absurd hlt (Demand.not_lt_pair hd')⟩
  next hpair =>
    split at h
    next hrules =>
      obtain rfl := Except.error.inj h
      refine ⟨.rules i, rfl, .noRules hp hrules, ?_⟩
      intro d' hd' hlt fault'
      rw [Demand.eq_pair_of_lt_rules hd' hlt]
      exact not_violates_pair hp hpair
    next hrules =>
      obtain ⟨j, r, hr, hcheck, hrules'⟩ := exists_of_checkRules h
      obtain ⟨slot, hunfit, hslots⟩ := RuleConfig.exists_unfit_of_check hcheck
      have hx : c.component? ⟨i, j, slot⟩ = some (r.component slot) :=
        component?_eq_some_iff.mpr ⟨p, r, hp, hr, rfl⟩
      refine ⟨.component ⟨i, j, slot⟩, rfl, .unfit hx hunfit, ?_⟩
      intro d' hd' hlt fault'
      rcases Demand.lt_component_cases hd' hlt with rfl | rfl | ⟨j', slot', rfl, hj | ⟨rfl, hs⟩⟩
      · exact not_violates_pair hp hpair
      · exact not_violates_rules hp hrules
      · apply not_violates_component hp
        intro r' hr'
        exact (hrules' j' hj r' hr').not_unfit slot'
      · apply not_violates_component hp
        intro r' hr'
        obtain rfl := Option.some.inj (hr.symm.trans hr')
        exact hslots slot' hs

/-- A configuration that fails its check does so for the first demand that is not met. -/
theorem exists_firstViolation_of_check (h : c.check = .error fault) :
    ∃ d, c.FirstViolation d fault := by
  unfold check at h
  split at h
  next he =>
    obtain rfl := Except.error.inj h
    exact ⟨.conversions, .noConversions (List.isEmpty_iff.mp he),
      fun d' hlt => absurd hlt (List.not_lt_nil _)⟩
  next he =>
    have hne : c.conversions ≠ [] := by simpa using he
    obtain ⟨i, p, hp, hcheck, hearlier⟩ :=
      exists_of_checkAll_eq_error ((checkPairs_eq_checkAll [] c.conversions).symm.trans h)
    obtain ⟨d, hd, hv, hwithin⟩ := exists_violates_of_check hp hcheck
    refine ⟨d, hv, Demand.forall_lt hd (fun _ => not_violates_conversions hne) ?_ hwithin⟩
    intro i' hi d' hd' fault'
    obtain ⟨hi', -⟩ := List.getElem?_eq_some_iff.mp hp
    have hp' := List.getElem?_eq_getElem (hi.trans hi')
    exact not_violates_of_check hp' (hearlier i' hi _ hp') hd'

theorem not_violates_of_check_eq_ok (h : c.check = .ok ()) (d : Demand) :
    ¬c.Violates d fault := by
  unfold check at h
  split at h
  next => contradiction
  next he =>
    have hentry : ∀ {i : Nat} {p : PairConfig}, c.conversions[i]? = some p →
        p.check (c.conversions.take i) = .ok () := fun hp =>
      of_checkAll_eq_ok ((checkPairs_eq_checkAll [] c.conversions).symm.trans h) hp
    intro hv
    have hviolated := hv
    cases hv with
    | noConversions hc => exact he (List.isEmpty_iff.mpr hc)
    | duplicatePair hp => exact not_violates_of_check hp (hentry hp) rfl hviolated
    | noRules hp => exact not_violates_of_check hp (hentry hp) rfl hviolated
    | unfit hx =>
      obtain ⟨p, r, hp, -⟩ := component?_eq_some_iff.mp hx
      exact not_violates_of_check hp (hentry hp) rfl hviolated

theorem Violates.unique {d : Demand} {fault' : ConfigFault} (h : c.Violates d fault)
    (h' : c.Violates d fault') : fault = fault' := by
  cases h with
  | noConversions =>
    cases h'
    rfl
  | duplicatePair hp =>
    cases h' with
    | duplicatePair hp' => rw [Option.some.inj (hp.symm.trans hp')]
  | noRules hp =>
    cases h' with
    | noRules hp' => rw [Option.some.inj (hp.symm.trans hp')]
  | unfit hx hu =>
    cases h' with
    | unfit hx' hu' =>
      obtain rfl := Option.some.inj (hx.symm.trans hx')
      exact hu.unique hu'

theorem check_eq_error_iff : c.check = .error fault ↔ ∃ d, c.FirstViolation d fault := by
  constructor
  · exact exists_firstViolation_of_check
  · rintro ⟨d, hd⟩
    cases hc : c.check with
    | ok => exact absurd hd.violates (not_violates_of_check_eq_ok hc d)
    | error fault' =>
      -- What is reported is a first violation too, and of two neither comes before the other.
      obtain ⟨d', hd'⟩ := exists_firstViolation_of_check hc
      have hsame : d = d' := Demand.eq_of_not_lt (fun hlt => hd'.earlier d hlt fault hd.violates)
        fun hlt => hd.earlier d' hlt fault' hd'.violates
      subst hsame
      rw [hd.violates.unique hd'.violates]

theorem validate_eq_error_iff {e : Failure} :
    c.validate = .error e ↔ ∃ fault, c.check = .error fault ∧ e = .config fault := by
  unfold validate
  split
  next h => simp [h]
  next fault h => simp [h, eq_comm]

/-- A configuration is accepted where it has entries with rules, for pairs that are all different,
and every rule has patterns that are not empty and a template. Else the first demand that is not
met is reported, with its place in the document. -/
theorem validate_first_violation (c : TableConfig) :
    (c.validate = .ok () ↔ c.Valid) ∧
    (∀ e, c.validate = .error e ↔ ∃ d fault, c.FirstViolation d fault ∧ e = .config fault) ∧
    ∀ (i j : Nat) (pair : SystemPair) (side : Side) (fault : TemplateFault),
      ConfigFault.noConversions.text =
        Demand.conversions.path ++ " must contain at least one type-system pair" ∧
      (ConfigFault.duplicatePair i pair).text =
        (Demand.pair i).path ++ ": duplicate pair " ++ pair.text ∧
      (ConfigFault.noRules i pair).text =
        (Demand.rules i).path ++ " (" ++ pair.text ++ "): rules must not be empty" ∧
      (ConfigFault.emptyPattern i j side).text =
        (Demand.component ⟨i, j, .pattern side⟩).path ++ " must not be empty" ∧
      (ConfigFault.badConvert i j fault).text =
        (Demand.component ⟨i, j, .convert⟩).path ++ ": " ++
          (Failure.config (.template fault)).message := by
  refine ⟨validate_eq_ok_iff, ?_, ?_⟩
  · intro e
    simp only [validate_eq_error_iff, check_eq_error_iff]
    constructor
    · rintro ⟨fault, ⟨d, hd⟩, rfl⟩
      exact ⟨d, fault, hd, rfl⟩
    · rintro ⟨d, fault, hd, rfl⟩
      exact ⟨fault, ⟨d, hd⟩, rfl⟩
  · intro i j pair side fault
    exact ⟨rfl, ConfigFault.text_duplicatePair i pair, ConfigFault.text_noRules i pair, rfl,
      ConfigFault.text_badConvert i j fault⟩

/-- A target comes before the template beside it, and before a pair that is repeated later. -/
example : check ⟨[⟨⟨.abi, .runtime⟩, [⟨.literal "a", .literal "", "\x7b", none⟩]⟩,
    ⟨⟨.abi, .runtime⟩, []⟩]⟩ = .error (.emptyPattern 0 0 .target) := by decide

end TableConfig
end TypeExchange
