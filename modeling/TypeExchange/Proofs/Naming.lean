import TypeExchange.Command.Invocation
import TypeExchange.Config.Json
import TypeExchange.Config.Yaml
import TypeExchange.Proofs.Results
import TypeExchange.Proofs.Unicode.LowerCase
import TypeExchange.Proofs.Unicode.WhiteSpace

/-! How a type system may be called: by six names, with any white space around them and in capital
or small letters of ASCII, and in no other way, though all letters are taken in lower case. Options,
strings of JSON and scalars of YAML are read alike. -/
namespace TypeExchange.TypeSystem

open Unicode

/-- Two texts are the same but for the case of their letters of ASCII. -/
def SameButCase (s t : String) : Prop := s.toList.map Char.toLower = t.toList.map Char.toLower

instance (s t : String) : Decidable (SameButCase s t) :=
  inferInstanceAs (Decidable (s.toList.map Char.toLower = t.toList.map Char.toLower))

def names : TypeSystem → List String
  | abi => ["abi", "ethereum"]
  | runtime => ["runtime", "assemblyscript", "asc"]
  | value => ["value"]

/-- A text is one of the names of a system, white space at both ends and the case of letters of
ASCII apart. -/
def IsCalled (system : TypeSystem) (s : String) : Prop :=
  ∃ word, IsTrimmed word s ∧ ∃ name ∈ system.names, SameButCase word name

/-- A name is read in the same way wherever one is wanted, and refused with the same message. -/
structure ReadAlike (s : String) : Prop where
  option : Command.systemOf? s = (normalize s).toOption
  json : (Config.readSystem (.string s)).mapError SchemaFault.message =
    (normalize s).mapError Failure.message
  yaml : ∀ tag style, (Config.yamlSystem (.scalar tag style s.toList)).mapError Yaml.Fault.message =
    (normalize s).mapError Failure.message

theorem ofAlias?_eq_some_iff {word : String} {system : TypeSystem} :
    ofAlias? word = some system ↔ word ∈ system.names := by
  unfold ofAlias?
  split <;> cases system <;> simp_all [names]

/-- The names are in small letters, and none has a `k`. -/
theorem letters_of_mem_names {system : TypeSystem} {name : String} (h : name ∈ system.names) :
    ∀ d ∈ name.toList, d.isLower = true ∧ d ≠ 'k' := by
  have hall : ∀ system ∈ all, ∀ name ∈ system.names,
      (name.toList.all fun d => d.isLower && d != 'k') = true := by decide +kernel
  have hname := hall system (by cases system <;> decide) name h
  simpa using hname

theorem ascii_of_mem_names {system : TypeSystem} {name : String} (h : name ∈ system.names) :
    ∀ d ∈ name.toList, d.toNat < 128 ∧ d ≠ 'k' := by
  intro d hd
  obtain ⟨hlower, hk⟩ := letters_of_mem_names h d hd
  exact ⟨toNat_lt_of_isAlpha (isAlpha_iff.mpr (.inr hlower)), hk⟩

theorem sameButCase_name_iff {system : TypeSystem} {name : String} (h : name ∈ system.names)
    {word : String} : SameButCase word name ↔ word.toList.map Char.toLower = name.toList := by
  have hsmall : ∀ d ∈ name.toList, d.toLower = d := fun d hd =>
    toLower_of_isLower (letters_of_mem_names h d hd).1
  unfold SameButCase
  rw [List.map_congr_left hsmall, List.map_id']

/-- Whatever capitals there are elsewhere in the character set, a text whose lower case is a name is
this name but for capitals of ASCII. -/
theorem lowerCase_eq_name_iff {system : TypeSystem} {name : String} (h : name ∈ system.names)
    {word : String} : lowerCase word = name ↔ SameButCase word name := by
  rw [sameButCase_name_iff h, ← lowerAfter_eq_iff [] (ascii_of_mem_names h),
    ← String.toList_inj, lowerCase, String.toList_ofList]

theorem isCalled_iff {system : TypeSystem} {s : String} :
    system.IsCalled s ↔ ofAlias? (lowerCase (trim s)) = some system := by
  unfold IsCalled
  simp only [isTrimmed_iff, exists_eq_left', ofAlias?_eq_some_iff]
  constructor
  · rintro ⟨name, hname, hsame⟩
    rwa [(lowerCase_eq_name_iff hname).mpr hsame]
  · intro h
    exact ⟨_, h, (lowerCase_eq_name_iff h).mp rfl⟩

theorem ofName_of_some {s : String} {system : TypeSystem}
    (h : ofAlias? (lowerCase (trim s)) = some system) : ofName s = .ok system := by
  simp only [ofName, h]

theorem ofName_of_none {s : String} (h : ofAlias? (lowerCase (trim s)) = none) :
    ofName s = .error (.unknownSystem (lowerCase (trim s))) := by
  simp only [ofName, h]

theorem normalize_eq_ok_iff {s : String} {system : TypeSystem} :
    normalize s = .ok system ↔ system.IsCalled s := by
  rw [isCalled_iff, normalize]
  cases h : ofAlias? (lowerCase (trim s)) with
  | none => simp [ofName_of_none h, Except.mapError]
  | some called => simp [ofName_of_some h, Except.mapError]

theorem normalize_eq_error_iff {s : String} {failure : Failure} :
    normalize s = .error failure ↔ (∀ system : TypeSystem, ¬system.IsCalled s) ∧
      failure = .config (.unknownSystem (lowerCase (trim s))) := by
  simp only [isCalled_iff]
  rw [normalize]
  cases h : ofAlias? (lowerCase (trim s)) with
  | none => simp [ofName_of_none h, Except.mapError, eq_comm]
  | some called => simp [ofName_of_some h, Except.mapError]

/-- A name is known by the lower case of what stands between white space. -/
theorem normalize_congr {s t : String} (h : lowerCase (trim s) = lowerCase (trim t)) :
    normalize s = normalize t := by
  simp only [normalize, ofName, h]

theorem lowerCase_trim_eq {s t : String} (h : SameButCase s t) :
    lowerCase (trim s) = lowerCase (trim t) := by
  have hsmall : ∀ cs : List Char, lowerAfter [] cs = lowerAfter [] (cs.map Char.toLower) :=
    fun cs => (lowerAfter_map_toLower [] cs).symm
  unfold lowerCase trim
  rw [String.toList_ofList, String.toList_ofList, hsmall, ← trimList_map_toLower, h,
    trimList_map_toLower, ← hsmall]

/-- There is nothing but white space and letters of ASCII in what calls a system. -/
theorem IsCalled.characters {system : TypeSystem} {s : String} (h : system.IsCalled s) :
    ∀ c ∈ s.toList, isWhiteSpace c = true ∨ c.isAlpha = true := by
  obtain ⟨word, ⟨⟨before, after, rfl, hbefore, hafter⟩, -, -⟩, name, ha, hsame⟩ := h
  rw [sameButCase_name_iff ha] at hsame
  intro c hc
  simp only [String.toList_append, List.mem_append] at hc
  rcases hc with (hc | hc) | hc
  · exact .inl (hbefore c hc)
  · have hmem : c.toLower ∈ name.toList := hsame ▸ List.mem_map_of_mem hc
    have hlower := (letters_of_mem_names ha _ hmem).1
    right
    rw [← isAlpha_toLower]
    exact isAlpha_iff.mpr (.inr hlower)
  · exact .inl (hafter c hc)

theorem readAlike (s : String) : ReadAlike s := by
  constructor
  case option =>
    rw [Command.systemOf?, normalize]
    cases ofName s <;> rfl
  case json =>
    rw [Config.readSystem, Config.readString, ok_bind, normalize]
    cases ofName s <;> rfl
  case yaml =>
    intro tag style
    rw [Config.yamlSystem, Config.yamlText, ok_bind, String.ofList_toList, normalize]
    cases ofName s <;> rfl

theorem message_unknownSystem (word : String) :
    (Failure.config (.unknownSystem word)).message =
      "Configuration error: Unknown type system: '" ++ word ++
        "'. Supported type systems: abi, runtime, value" := by
  have hstart : "Configuration error: " ++ "Unknown type system: '" =
      "Configuration error: Unknown type system: '" := by decide +kernel
  change "Configuration error: " ++ ("Unknown type system: '" ++ word ++ _) = _
  rw [← hstart]
  simp only [String.append_assoc]

/-- A text is known as a system if it is one of six names, white space at both ends and the case of
letters of ASCII apart, and what is no name is refused with its lower case. No letter outside ASCII
is ever taken for another letter. -/
theorem normalize_spellings (s : String) :
    (∀ system, normalize s = .ok system ↔ system.IsCalled s) ∧
    ((∃ c ∈ s.toList, isAlphabetic c = true ∧ 128 ≤ c.toNat) →
      ∀ system, normalize s ≠ .ok system) ∧
    (∀ before after, IsBlank before → IsBlank after →
      normalize (before ++ s ++ after) = normalize s) ∧
    (∀ t, SameButCase t s → normalize t = normalize s) ∧
    ReadAlike s ∧
    ∀ failure, normalize s = .error failure ↔ (∀ system : TypeSystem, ¬system.IsCalled s) ∧
      ∃ word, IsTrimmed word s ∧ failure = .config (.unknownSystem (lowerCase word)) ∧
        failure.message = "Configuration error: Unknown type system: '" ++ lowerCase word ++
          "'. Supported type systems: abi, runtime, value" := by
  refine ⟨fun _ => normalize_eq_ok_iff, ?_, ?_, ?_, readAlike s, ?_⟩
  · rintro ⟨c, hc, hletter, hout⟩ system h
    rcases (normalize_eq_ok_iff.mp h).characters c hc with hspace | halpha
    · rw [isAlphabetic_of_isWhiteSpace hspace] at hletter
      contradiction
    · have hascii := toNat_lt_of_isAlpha halpha
      omega
  · intro before after hbefore hafter
    exact normalize_congr (congrArg lowerCase (trim_append hbefore hafter))
  · intro t h
    exact normalize_congr (lowerCase_trim_eq h)
  · intro failure
    rw [normalize_eq_error_iff]
    simp only [isTrimmed_iff, exists_eq_left']
    refine and_congr_right fun _ => ⟨?_, And.left⟩
    rintro rfl
    exact ⟨rfl, message_unknownSystem _⟩

/-- An ideographic space, the end of a line and capitals do not count, but a dotted capital is no
`i`. -/
theorem normalize_spellings_ethereum :
    abi.IsCalled "EtHeReUm" ∧ IsBlank "\u3000" ∧ IsBlank "\r\n" ∧
    SameButCase "ETHEREUM" "EtHeReUm" ∧
    (∃ c ∈ "AB\u0130".toList, isAlphabetic c = true ∧ 128 ≤ c.toNat) ∧
    normalize ("\u3000" ++ "EtHeReUm" ++ "\r\n") = .ok abi ∧ normalize "ETHEREUM" = .ok abi ∧
    ∀ system, normalize "AB\u0130" ≠ .ok system := by
  have hcalled : abi.IsCalled "EtHeReUm" :=
    ⟨"EtHeReUm", isTrimmed_iff.mpr (by decide +kernel), "ethereum", by decide, by decide⟩
  have hbefore : IsBlank "\u3000" := by decide
  have hafter : IsBlank "\r\n" := by decide
  have hsame : SameButCase "ETHEREUM" "EtHeReUm" := by decide
  have hletter : ∃ c ∈ "AB\u0130".toList, isAlphabetic c = true ∧ 128 ≤ c.toNat :=
    ⟨'\u0130', by decide, by decide +kernel, by decide⟩
  obtain ⟨hok, -, haround, hcase, -⟩ := normalize_spellings "EtHeReUm"
  obtain ⟨-, hrefused, -⟩ := normalize_spellings "AB\u0130"
  have hread : normalize "EtHeReUm" = .ok abi := (hok abi).mpr hcalled
  exact ⟨hcalled, hbefore, hafter, hsame, hletter, (haround _ _ hbefore hafter).trans hread,
    (hcase _ hsame).trans hread, hrefused hletter⟩

end TypeExchange.TypeSystem
