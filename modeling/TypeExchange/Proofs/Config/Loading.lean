import TypeExchange.Config.Yaml
import TypeExchange.Proofs.Config.Compilation

/-! From a text to a configuration and to its table. A text that gives no table is rejected for one
of three reasons. -/
namespace TypeExchange

namespace TableConfig

/-- A text describes a configuration, which need not be acceptable. -/
def Describes (text : String) (c : TableConfig) : Prop :=
  (Yaml.parse text >>= Config.yamlTable) = .ok c

/-- A text describes an acceptable configuration, from which this table is built. -/
def Gives (text : String) (t : Table) : Prop :=
  ∃ c, Describes text c ∧ c.Valid ∧ c.build = .ok t

/-- A text gives no table. -/
inductive Rejected (text : String) : Prop
  | schema (h : ∀ c, ¬Describes text c)
  | invalid {c : TableConfig} (h : Describes text c) (hv : ¬c.Valid)
  | expression {c : TableConfig} {place : Place} {expression : String} (h : Describes text c)
      (hp : c.component? place = some (.pattern (.expression expression)))
      (he : ∀ r, Regex.ofText expression ≠ .ok r)

/-- What is made of a text: a table, or a failure of the configuration. -/
def load (text : String) : Except Failure Table := do (← ofYaml text).build

section
variable {text : String} {t : Table}

theorem ofYaml_of_describes {c : TableConfig} (h : Describes text c) :
    ofYaml text = c.validate.map fun _ => c := by
  rw [Describes] at h
  rw [ofYaml, h]
  cases hv : c.validate <;> simp [hv, pure, Except.pure]

theorem ofYaml_eq_ok_iff {c : TableConfig} : ofYaml text = .ok c ↔ Describes text c ∧ c.Valid := by
  cases h : Yaml.parse text >>= Config.yamlTable with
  | error fault => simp [ofYaml, Describes, h]
  | ok c' =>
    rw [ofYaml_of_describes h, map_eq_ok_iff, Describes, h, ← validate_eq_ok_iff]
    constructor
    · rintro ⟨⟨⟩, hv, rfl⟩
      exact ⟨rfl, hv⟩
    · rintro ⟨⟨⟩, hv⟩
      exact ⟨(), hv, rfl⟩

theorem load_eq_ok_iff : load text = .ok t ↔ Gives text t := by
  simp only [load, Gives, bind_eq_ok_iff, ofYaml_eq_ok_iff, and_assoc]

theorem Rejected.not_gives (h : Rejected text) : ¬Gives text t := by
  rintro ⟨c, hc, hv, hb⟩
  cases h with
  | schema h => exact h c hc
  | invalid h hv' => exact hv' (Except.ok.inj (h.symm.trans hc) ▸ hv)
  | expression h hp he =>
    obtain rfl := Except.ok.inj (h.symm.trans hc)
    cases hr : Regex.ofText _ with
    | ok r => exact he r hr
    | error fault => exact build_isOk_iff.mp ⟨t, hb⟩ _ _ hp _ (.pattern hr)

theorem gives_or_rejected (text : String) : (∃ t, Gives text t) ∨ Rejected text := by
  by_cases hw : ∃ c, Describes text c
  case neg => exact .inr (.schema (not_exists.mp hw))
  obtain ⟨c, hc⟩ := hw
  by_cases hv : c.Valid
  case neg => exact .inr (.invalid hc hv)
  cases hb : c.build with
  | ok t => exact .inl ⟨t, c, hc, hv, hb⟩
  | error e =>
    -- Of an acceptable configuration only an expression can fail.
    obtain ⟨place, component, hf⟩ := build_eq_error_iff.mp hb
    obtain ⟨expression, fault, rfl, hr, -⟩ := hf.pattern_of_validate (validate_eq_ok_iff.mpr hv)
    exact .inr (.expression hc hf.place (by simp [hr]))

end

end TableConfig

end TypeExchange
