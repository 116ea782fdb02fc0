import TypeExchange.Proofs.Builtin.AbiTypes

/-! The grammar of the ABI types that the built-in table reads, and the runtime type of each. -/
namespace TypeExchange

/-- Decimal digits of ASCII, possibly none. -/
structure Digits where
  chars : List Char
  decimal : ∀ c ∈ chars, c.isDigit = true

/-- What an ABI type begins with. -/
inductive AbiStem where
  | address | bool | byte | string | tuple | bytes | int | uint
  deriving DecidableEq, Repr

namespace AbiStem

def letters : AbiStem → String
  | address => "address"
  | bool => "bool"
  | byte => "byte"
  | string => "string"
  | tuple => "tuple"
  | bytes => "bytes"
  | int => "int"
  | uint => "uint"

/-- Bytes may have a size and integers have one. -/
def Takes : AbiStem → List Char → Prop
  | bytes, _ => True
  | int, size | uint, size => size ≠ []
  | _, size => size = []

/-- The sizes, as they are written, of integers that fit into 32 bits with a sign. -/
def narrow : AbiStem → List (List Char)
  | int => ["8".toList, "16".toList, "24".toList, "32".toList]
  | uint => ["8".toList, "16".toList, "24".toList]
  | _ => []

end AbiStem

/-- A type whose values are no arrays. -/
structure AbiBase where
  stem : AbiStem
  size : Digits
  sized : stem.Takes size.chars

/-- A type, of arrays if there is a length, which may be left open. -/
structure AbiType where
  base : AbiBase
  length : Option Digits

namespace AbiBase

def chars (b : AbiBase) : List Char := b.stem.letters.toList ++ b.size.chars

/-- Whether a runtime integer of 32 bits holds all values. -/
def fitsI32 (b : AbiBase) : Bool := b.size.chars ∈ b.stem.narrow

def runtimeName (b : AbiBase) : String :=
  match b.stem with
  | .address => "Address"
  | .bool => "boolean"
  | .byte | .bytes => "Bytes"
  | .string => "string"
  | .tuple => "ethereum.Tuple"
  | .int | .uint => if b.fitsI32 then "i32" else "BigInt"

end AbiBase

namespace AbiType

/-- What follows the type of the elements. -/
def suffix (t : AbiType) : List Char :=
  match t.length with
  | none => []
  | some length => '[' :: length.chars ++ [']']

def chars (t : AbiType) : List Char := t.base.chars ++ t.suffix

/-- How a type is written. -/
def spelling (t : AbiType) : String := String.ofList t.chars

def runtimeName (t : AbiType) : String :=
  match t.length with
  | none => t.base.runtimeName
  | some _ => "Array<" ++ t.base.runtimeName ++ ">"

end AbiType

/-- A text is divided in one way only into characters of a kind and what begins with another. -/
theorem append_unique {p : Char → Bool} {xs ys xs' ys' : List Char} (hx : ∀ c ∈ xs, p c = true)
    (hx' : ∀ c ∈ xs', p c = true) (hy : ∀ c ∈ ys.head?, p c = false)
    (hy' : ∀ c ∈ ys'.head?, p c = false) (h : xs ++ ys = xs' ++ ys') : xs = xs' ∧ ys = ys' := by
  have htake : ∀ {xs ys : List Char}, (∀ c ∈ xs, p c = true) → (∀ c ∈ ys.head?, p c = false) →
      (xs ++ ys).takeWhile p = xs := by
    intro xs ys hx hy
    rw [List.takeWhile_append_of_pos hx]
    cases ys with
    | nil => simp
    | cons c cs => simp [hy c rfl]
  have hxs : xs = xs' := by rw [← htake hx hy, h, htake hx' hy']
  exact ⟨hxs, List.append_cancel_left (hxs ▸ h)⟩

theorem Digits.eq_of_chars {ds es : Digits} (h : ds.chars = es.chars) : ds = es := by
  cases ds
  cases es
  cases h
  rfl

theorem AbiStem.not_isDigit_letters (s : AbiStem) :
    ∀ c ∈ s.letters.toList, (!c.isDigit) = true := by
  rw [← List.all_eq_true]
  cases s <;> decide

theorem AbiStem.ne_bracket_letters (s : AbiStem) :
    ∀ c ∈ s.letters.toList, (c != '[') = true := by
  rw [← List.all_eq_true]
  cases s <;> decide

theorem AbiStem.eq_of_letters {s t : AbiStem} (h : s.letters = t.letters) : s = t := by
  revert h
  cases s <;> cases t <;> decide

theorem AbiBase.eq_of_chars {a b : AbiBase} (h : a.chars = b.chars) : a = b := by
  have hend : ∀ ds : Digits, ∀ c ∈ ds.chars.head?, (!c.isDigit) = false := by
    intro ds c hc
    rw [ds.decimal c (List.mem_of_mem_head? hc), Bool.not_true]
  obtain ⟨hs, hd⟩ := append_unique a.stem.not_isDigit_letters b.stem.not_isDigit_letters
    (hend a.size) (hend b.size) h
  have hs := AbiStem.eq_of_letters (String.toList_inj.mp hs)
  have hd := Digits.eq_of_chars hd
  cases a
  cases b
  cases hs
  cases hd
  rfl

theorem AbiBase.ne_bracket (b : AbiBase) : ∀ c ∈ b.chars, (c != '[') = true := by
  intro c hc
  rcases List.mem_append.mp hc with h | h
  · exact b.stem.ne_bracket_letters c h
  · rw [bne_iff_ne]
    rintro rfl
    have := b.size.decimal _ h
    contradiction

/-- No two types are written alike. -/
theorem AbiType.eq_of_chars {t u : AbiType} (h : t.chars = u.chars) : t = u := by
  have hend : ∀ t : AbiType, ∀ c ∈ t.suffix.head?, (c != '[') = false := by
    rintro ⟨b, _ | length⟩ c hc
    · contradiction
    · obtain rfl := Option.some.inj hc
      rfl
  obtain ⟨hb, hs⟩ := append_unique t.base.ne_bracket u.base.ne_bracket (hend t) (hend u) h
  obtain ⟨a, l⟩ := t
  obtain ⟨b, m⟩ := u
  obtain rfl := AbiBase.eq_of_chars hb
  congr
  cases l <;> cases m <;> simp [AbiType.suffix] at hs
  · rfl
  · rw [Digits.eq_of_chars hs]

namespace Builtin

open Regex

/-- Whether a base type is of a kind and no array. -/
def scalar (kind : AbiBase → Bool) (t : AbiType) : Bool := t.length.isNone && kind t.base

/-- Whether a type is an array of a kind. -/
def array (kind : AbiBase → Bool) (t : AbiType) : Bool := t.length.isSome && kind t.base

/-- Base types with one stem, of certain sizes. -/
def ofStem (s : AbiStem) (sizes : List Char → Bool) (b : AbiBase) : Bool :=
  b.stem == s && sizes b.size.chars

def anySize : List Char → Bool := fun _ => true

def narrowSize (s : AbiStem) : List Char → Bool := fun size => size ∈ s.narrow

def integer (b : AbiBase) : Bool := ofStem .int anySize b || ofStem .uint anySize b

/-- In front of what follows, an expression spells the base types of a kind. -/
def Spells (build : Regex → Regex) (kind : AbiBase → Bool) : Prop :=
  ∀ rest w, w ∈ (build rest).language ↔
    ∃ b, kind b = true ∧ ∃ v ∈ rest.language, w = b.chars ++ v

/-- A pattern accepts the types of a kind and nothing else. -/
def Names (p : Pattern) (kind : AbiType → Bool) : Prop :=
  ∀ name, p.accepts name = true ↔ ∃ t : AbiType, kind t = true ∧ name = t.spelling

theorem contains_digit {c : Char} : (CharSet.range '0' '9').contains c = c.isDigit := by
  rw [Bool.eq_iff_iff]
  simp only [CharSet.contains, Char.isDigit, Bool.and_eq_true, decide_eq_true_eq, ge_iff_le]
  exact Iff.rfl

theorem mem_language_digits {w : List Char} :
    w ∈ digits.language ↔ w ≠ [] ∧ ∀ c ∈ w, c.isDigit = true := by
  rw [digits, ← several, mem_language_several]
  simp only [contains_digit]

theorem mem_language_optional_digits {w : List Char} :
    w ∈ (Regex.optional digits).language ↔ ∀ c ∈ w, c.isDigit = true := by
  rw [language_optional, Language.mem_add, Language.mem_one, mem_language_digits]
  constructor
  · rintro (rfl | ⟨-, h⟩)
    · exact List.forall_mem_nil _
    · exact h
  · intro h
    by_cases hw : w = []
    · exact .inl hw
    · exact .inr ⟨hw, h⟩

theorem mem_language_arraySuffix {w : List Char} :
    w ∈ arraySuffix.language ↔ ∃ length : Digits, w = '[' :: length.chars ++ [']'] := by
  simp only [arraySuffix, mem_language_word, language, Language.mem_mul, Language.mem_one,
    exists_eq_left]
  constructor
  · rintro ⟨_, ⟨ds, hds, rfl⟩, rfl⟩
    exact ⟨⟨ds, mem_language_optional_digits.mp hds⟩, rfl⟩
  · rintro ⟨length, rfl⟩
    exact ⟨_, ⟨_, mem_language_optional_digits.mpr length.decimal, rfl⟩, rfl⟩

theorem spells_stem {s : AbiStem} (h : ∀ size, s.Takes size ↔ size = []) :
    Spells (word s.letters.toList) (ofStem s anySize) := by
  intro rest w
  rw [mem_language_word]
  simp only [ofStem, anySize, Bool.and_true, beq_iff_eq]
  constructor
  · rintro ⟨v, hv, rfl⟩
    exact ⟨⟨s, ⟨[], by simp⟩, (h []).mpr rfl⟩, rfl, v, hv, by simp [AbiBase.chars]⟩
  · rintro ⟨⟨_, size, sized⟩, rfl, v, hv, rfl⟩
    exact ⟨v, hv, by simp [AbiBase.chars, (h _).mp sized]⟩

theorem spells_sized {s : AbiStem} {r : Regex} {sizes : List Char → Bool}
    (h : ∀ size, size ∈ r.language ↔
      s.Takes size ∧ (∀ c ∈ size, c.isDigit = true) ∧ sizes size = true) :
    Spells (fun rest => word s.letters.toList (.seq r rest)) (ofStem s sizes) := by
  intro rest w
  rw [mem_language_word]
  simp only [language, Language.mem_mul, ofStem, Bool.and_eq_true, beq_iff_eq]
  constructor
  · rintro ⟨_, ⟨size, hsize, v, hv, rfl⟩, rfl⟩
    obtain ⟨ht, hd, hok⟩ := (h size).mp hsize
    exact ⟨⟨s, ⟨size, hd⟩, ht⟩, ⟨rfl, hok⟩, v, hv, by simp [AbiBase.chars]⟩
  · rintro ⟨⟨_, size, sized⟩, ⟨rfl, hok⟩, v, hv, rfl⟩
    exact ⟨_, ⟨_, (h _).mpr ⟨sized, size.decimal, hok⟩, v, hv, rfl⟩, by simp [AbiBase.chars]⟩

theorem spells_bytes :
    Spells (fun rest => word "bytes".toList (.seq (.optional digits) rest))
      (ofStem .bytes anySize) :=
  spells_sized (s := .bytes) fun size => by
    simp [AbiStem.Takes, anySize, mem_language_optional_digits]

theorem spells_choice {s : AbiStem} {v : List Char} {vs : List (List Char)}
    (ht : ∀ size, size ≠ [] → s.Takes size)
    (h : (v :: vs).all (fun size => size != [] && size.all Char.isDigit) = true) :
    Spells (fun rest => word s.letters.toList (.seq (choice v vs) rest))
      (ofStem s (· ∈ v :: vs)) :=
  spells_sized fun size => by
    rw [mem_language_choice, decide_eq_true_iff]
    constructor
    · intro hm
      obtain ⟨hne, hd⟩ := Bool.and_eq_true_iff.mp (List.all_eq_true.mp h size hm)
      exact ⟨ht size (bne_iff_ne.mp hne), List.all_eq_true.mp hd, hm⟩
    · rintro ⟨-, -, hm⟩
      exact hm

theorem spells_digits {s : AbiStem} (h : ∀ size, s.Takes size ↔ size ≠ []) :
    Spells (fun rest => word s.letters.toList (.seq digits rest)) (ofStem s anySize) :=
  spells_sized fun size => by simp [h, anySize, mem_language_digits]

theorem spells_integer :
    Spells (fun rest => .seq (.optional (.chars (.single 'u')))
      (word "int".toList (.seq digits rest))) integer := by
  intro rest w
  have hint := spells_digits (s := .int) (fun _ => Iff.rfl) rest w
  have huint := spells_digits (s := .uint) (fun _ => Iff.rfl) rest w
  rw [language_optional_seq, Language.mem_add]
  simp only [integer, Bool.or_eq_true, or_and_right, exists_or]
  exact or_congr hint huint

theorem eq_spelling_iff {name : String} {t : AbiType} :
    name = t.spelling ↔ name.toList = t.chars := by
  rw [AbiType.spelling, ← String.toList_inj, String.toList_ofList]

theorem spelling_injective : Function.Injective AbiType.spelling := by
  intro t u h
  exact AbiType.eq_of_chars (String.ofList_inj.mp h)

section
variable {p : Pattern} {build : Regex → Regex} {kind : AbiBase → Bool}

theorem names_scalar (h : Spells build kind) (hp : p.plain? = some (build .empty)) :
    Names p (scalar kind) := by
  intro name
  rw [Pattern.accepts_iff_mem_language hp, h]
  simp only [language, Language.mem_one, exists_eq_left, List.append_nil, eq_spelling_iff]
  constructor
  · rintro ⟨b, hb, hn⟩
    exact ⟨⟨b, none⟩, hb, by rw [hn, AbiType.chars, AbiType.suffix, List.append_nil]⟩
  · rintro ⟨⟨b, _ | _⟩, hk, hn⟩
    · exact ⟨b, hk, by rw [hn, AbiType.chars, AbiType.suffix, List.append_nil]⟩
    · contradiction

theorem names_array (h : Spells build kind) (hp : p.plain? = some (build arraySuffix)) :
    Names p (array kind) := by
  intro name
  rw [Pattern.accepts_iff_mem_language hp, h]
  simp only [mem_language_arraySuffix, eq_spelling_iff]
  constructor
  · rintro ⟨b, hb, _, ⟨length, rfl⟩, hn⟩
    exact ⟨⟨b, some length⟩, hb, hn⟩
  · rintro ⟨⟨b, _ | length⟩, hk, hn⟩
    · contradiction
    · exact ⟨b, hk, _, ⟨length, rfl⟩, hn⟩

end

theorem Names.accepts_spelling {p : Pattern} {kind : AbiType → Bool} (h : Names p kind)
    (t : AbiType) : p.accepts t.spelling = kind t := by
  rw [Bool.eq_iff_iff, h]
  constructor
  · rintro ⟨u, hu, ht⟩
    rw [eq_spelling_iff, AbiType.spelling, String.toList_ofList] at ht
    rwa [AbiType.eq_of_chars ht]
  · intro ht
    exact ⟨t, ht, rfl⟩

section
variable {side : Side} {rules : List Rule} {kinds : List (AbiType → Bool)}

/-- The rule that is found for a type is the first of whose kind it is. -/
theorem find?_spelling (h : List.Forall₂ (fun r k => Names (r.pattern side) k) rules kinds)
    (t : AbiType) : rules.find? (·.accepts side t.spelling) =
      ((rules.zip kinds).find? (·.2 t)).map (·.1) := by
  induction h with
  | nil => rfl
  | @cons r kind _ _ hr _ ih =>
    have ha : r.accepts side t.spelling = kind t := hr.accepts_spelling t
    cases hk : kind t with
    | true => simp [ha, hk]
    | false => simpa [ha, hk] using ih

theorem find?_eq_none_of_ne_spelling
    (h : List.Forall₂ (fun r k => Names (r.pattern side) k) rules kinds) {name : String}
    (hn : ∀ t : AbiType, name ≠ t.spelling) : rules.find? (·.accepts side name) = none := by
  induction h with
  | nil => rfl
  | cons hr _ ih =>
    rw [List.find?_cons_of_neg _, ih]
    intro ha
    obtain ⟨t, -, ht⟩ := (hr name).mp ha
    exact hn t ht

end

/-- The kinds of types that the rules read. -/
def abiToRuntimeKinds : List (AbiType → Bool) := [
  scalar (ofStem .address anySize),
  scalar (ofStem .bool anySize),
  scalar (ofStem .byte anySize),
  scalar (ofStem .bytes anySize),
  scalar (ofStem .int (· ∈ AbiStem.int.narrow)),
  scalar (ofStem .uint (· ∈ AbiStem.uint.narrow)),
  scalar integer,
  scalar (ofStem .string anySize),
  array (ofStem .address anySize),
  array (ofStem .bool anySize),
  array (ofStem .byte anySize),
  array (ofStem .bytes anySize),
  array (ofStem .int (· ∈ AbiStem.int.narrow)),
  array (ofStem .uint (· ∈ AbiStem.uint.narrow)),
  array integer,
  array (ofStem .string anySize),
  scalar (ofStem .tuple anySize),
  array (ofStem .tuple anySize)]

theorem abiToRuntime_names :
    List.Forall₂ (fun r k => Names (Rule.pattern r .source) k) abiToRuntimeRules
      abiToRuntimeKinds := by
  have haddress := spells_stem (s := .address) fun _ => Iff.rfl
  have hbool := spells_stem (s := .bool) fun _ => Iff.rfl
  have hbyte := spells_stem (s := .byte) fun _ => Iff.rfl
  have hstring := spells_stem (s := .string) fun _ => Iff.rfl
  have htuple := spells_stem (s := .tuple) fun _ => Iff.rfl
  have hint : Spells _ (ofStem .int (· ∈ AbiStem.int.narrow)) :=
    spells_choice (fun _ h => h) (by decide)
  have huint : Spells _ (ofStem .uint (· ∈ AbiStem.uint.narrow)) :=
    spells_choice (fun _ h => h) (by decide)
  apply List.forall₂_map_left_iff.mp
  simp only [abiToRuntimeRules, abiToRuntimeKinds, List.map_cons, List.map_nil, Rule.pattern]
  refine .cons (names_scalar haddress rfl) ?_
  refine .cons (names_scalar hbool rfl) ?_
  refine .cons (names_scalar hbyte rfl) ?_
  refine .cons (names_scalar spells_bytes (Pattern.plain?_ofValid (by decide +kernel))) ?_
  refine .cons (names_scalar hint (Pattern.plain?_ofValid (by decide +kernel))) ?_
  refine .cons (names_scalar huint (Pattern.plain?_ofValid (by decide +kernel))) ?_
  refine .cons (names_scalar spells_integer (Pattern.plain?_ofValid (by decide +kernel))) ?_
  refine .cons (names_scalar hstring rfl) ?_
  refine .cons (names_array haddress (Pattern.plain?_ofValid (by decide +kernel))) ?_
  refine .cons (names_array hbool (Pattern.plain?_ofValid (by decide +kernel))) ?_
  refine .cons (names_array hbyte (Pattern.plain?_ofValid (by decide +kernel))) ?_
  refine .cons (names_array spells_bytes (Pattern.plain?_ofValid (by decide +kernel))) ?_
  refine .cons (names_array hint (Pattern.plain?_ofValid (by decide +kernel))) ?_
  refine .cons (names_array huint (Pattern.plain?_ofValid (by decide +kernel))) ?_
  refine .cons (names_array spells_integer (Pattern.plain?_ofValid (by decide +kernel))) ?_
  refine .cons (names_array hstring (Pattern.plain?_ofValid (by decide +kernel))) ?_
  refine .cons (names_scalar htuple rfl) ?_
  exact .cons (names_array htuple (Pattern.plain?_ofValid (by decide +kernel))) .nil

theorem oppositeType_spelling (t : AbiType) :
    oppositeType abiToRuntimeRules .source t.spelling = some t.runtimeName := by
  rw [oppositeType, find?_spelling abiToRuntime_names t]
  obtain ⟨⟨stem, size, sized⟩, length⟩ := t
  by_cases h : size.chars ∈ stem.narrow
  all_goals
    cases stem with
    | int | uint =>
      cases length <;>
        simp [abiToRuntimeRules, abiToRuntimeKinds, scalar, array, ofStem, integer, anySize, h, lit,
          Side.opposite, Rule.pattern, Pattern.text, AbiType.runtimeName, AbiBase.runtimeName,
          AbiBase.fitsI32]
    | _ => cases length <;> rfl

end Builtin

namespace Table

/-- The built-in table reads the ABI types of the grammar and nothing else. An integer is one of 32
bits where its size is written as one of those that fit, and a big one otherwise. -/
theorem builtin_runtimeTypeForAbi (name : String) :
    ((∃ r, builtin.runtimeTypeForAbi name = .ok r) ↔ ∃ t : AbiType, name = t.spelling) ∧
    (∀ t : AbiType, name = t.spelling → builtin.runtimeTypeForAbi name = .ok t.runtimeName) ∧
    ((¬∃ t : AbiType, name = t.spelling) →
      builtin.runtimeTypeForAbi name = .error (.noMatch abiToRuntime name .source)) := by
  have hrules : builtin.rules abiToRuntime = .ok Builtin.abiToRuntimeRules := rfl
  have hread : ∀ t : AbiType, name = t.spelling →
      builtin.runtimeTypeForAbi name = .ok t.runtimeName := by
    rintro t rfl
    exact (typeFor_eq_ok_iff hrules).mpr (Builtin.oppositeType_spelling t)
  have hfail : (¬∃ t : AbiType, name = t.spelling) →
      builtin.runtimeTypeForAbi name = .error (.noMatch abiToRuntime name .source) := by
    intro hn
    apply (typeFor_eq_noMatch_iff hrules).mpr
    rw [oppositeType, Builtin.find?_eq_none_of_ne_spelling Builtin.abiToRuntime_names
      (not_exists.mp hn), Option.map_none]
  refine ⟨⟨?_, ?_⟩, hread, hfail⟩
  · rintro ⟨r, hr⟩
    by_contra hn
    rw [hfail hn] at hr
    contradiction
  · rintro ⟨t, ht⟩
    exact ⟨_, hread t ht⟩

example : builtin.runtimeTypeForAbi "uint32[]" = .ok "Array<BigInt>" := by decide +kernel

end Table
end TypeExchange
