import Mathlib.Data.List.DropRight
import Mathlib.Tactic.Common
import TypeExchange.Proofs.Json.Numbers

/-! Reading what was printed. The indented text of a value is read as that value with the members of
each object in the order of their keys, if it holds no number or none but natural numbers of 64
bits. -/
namespace TypeExchange.Json

mutual

def hasNumber : Json → Bool
  | integer _ | real _ => true
  | array items => haveNumber items
  | object members => memberHasNumber members
  | null | bool _ | string _ => false

def haveNumber : List Json → Bool
  | [] => false
  | v :: rest => v.hasNumber || haveNumber rest

def memberHasNumber : List (String × Json) → Bool
  | [] => false
  | (_, v) :: rest => v.hasNumber || memberHasNumber rest

end

mutual

/-- The value with the members of each object in the order of their keys. Of members with one key
the last is kept. -/
def sorted : Json → Json
  | array items => array (sortedItems items)
  | object members => object (insertSorted [] members)
  | v => v

def sortedItems : List Json → List Json
  | [] => []
  | v :: rest => v.sorted :: sortedItems rest

/-- Puts members at the places of their keys, one after the other. -/
def insertSorted (kept : List (String × Json)) : List (String × Json) → List (String × Json)
  | [] => kept
  | (k, v) :: rest => insertSorted (insertMember k v.sorted kept) rest

end

theorem sortedItems_eq_map (items : List Json) : sortedItems items = items.map sorted := by
  induction items with
  | nil => rfl
  | cons v rest ih => rw [sortedItems, ih, List.map_cons]

theorem hexDigit?_lowerHexDigit : ∀ n < 16, Unicode.hexDigit? (lowerHexDigit n) = some n := by
  decide

theorem readUnit_control {c : Char} (h : c.toNat < 0x20) (rest : List Char) :
    readUnit ('0' :: '0' :: lowerHexDigit (c.toNat / 16) :: lowerHexDigit (c.toNat % 16) ::
      rest) = some (c.toNat, rest) := by
  have hzero : Unicode.hexDigit? '0' = some 0 := rfl
  have hhigh := hexDigit?_lowerHexDigit (c.toNat / 16) (by omega)
  have hlow := hexDigit?_lowerHexDigit (c.toNat % 16) (by omega)
  have hunit : c.toNat / 16 * 16 + c.toNat % 16 = c.toNat := by omega
  simp [readUnit, hzero, hhigh, hlow, hunit]

theorem readCodePoint_control {c : Char} (h : c.toNat < 0x20) (rest : List Char) :
    readCodePoint ('0' :: '0' :: lowerHexDigit (c.toNat / 16) :: lowerHexDigit (c.toNat % 16) ::
      rest) = some (c, rest) := by
  have hhigh : ¬(0xd800 ≤ c.toNat ∧ c.toNat < 0xdc00) := by omega
  have hlow : ¬(0xdc00 ≤ c.toNat ∧ c.toNat < 0xe000) := by omega
  rw [readCodePoint, readUnit_control h, Option.bind_eq_bind, Option.bind_some]
  simp only [hhigh, hlow, if_false, Char.ofNat_toNat]

theorem readCharacters_escape (n : Nat) (c : Char) (rest : List Char) :
    readCharacters (n + 1) (escape c ++ rest) =
      (readCharacters n rest).map fun p => (c :: p.1, p.2) := by
  have hmap : (readCharacters n rest).map (fun p => (c :: p.1, p.2)) =
      (readCharacters n rest).bind fun p => some (c :: p.1, p.2) := by
    cases readCharacters n rest <;> rfl
  rw [hmap]
  unfold escape
  split_ifs with h h h h h h h hcontrol
  iterate 7
    · subst h
      simp [readCharacters, simpleEscape?]
  · simp only [List.cons_append, List.nil_append]
    rw [readCharacters, readCodePoint_control hcontrol]
    rfl
  · have hquote : c ≠ '"' := by assumption
    have hslash : c ≠ '\\' := by assumption
    simp only [List.cons_append, List.nil_append]
    rw [readCharacters]
    · simp [hcontrol, hslash]
    all_goals
      intros
      contradiction

theorem readCharacters_escapes {n : Nat} (cs rest : List Char) (h : cs.length < n) :
    readCharacters n (cs.flatMap escape ++ '"' :: rest) = some (cs, rest) := by
  induction cs generalizing n with
  | nil =>
    obtain ⟨n, rfl⟩ := Nat.exists_eq_add_one.mpr h
    rfl
  | cons c cs ih =>
    obtain ⟨n, rfl⟩ := Nat.exists_eq_add_one.mpr (Nat.zero_lt_of_lt h)
    rw [List.flatMap_cons, List.append_assoc, readCharacters_escape, ih (by simpa using h)]
    rfl

theorem readText_escapes {bound : Nat} (s : String) (rest : List Char)
    (h : s.toList.length < bound) :
    readText bound (s.toList.flatMap escape ++ '"' :: rest) = some (s, rest) := by
  rw [readText, readCharacters_escapes _ _ h]
  exact congrArg (fun t => some (t, rest)) (String.ofList_toList)

theorem toList_quote (s : String) :
    (quote s).toList = '"' :: (s.toList.flatMap escape ++ ['"']) := by
  rw [quote, String.toList_ofList, List.cons_append]

theorem length_escape_pos (c : Char) : 0 < (escape c).length := by
  unfold escape
  split_ifs <;> simp

/-- A quoted text is longer than the text. -/
theorem length_lt_quote (s : String) : s.toList.length < (quote s).toList.length := by
  have h : ∀ cs : List Char, cs.length ≤ (cs.flatMap escape).length := by
    intro cs
    induction cs with
    | nil => simp
    | cons c cs ih =>
      have := length_escape_pos c
      simp only [List.flatMap_cons, List.length_append, List.length_cons]
      omega
  have := h s.toList
  simp only [toList_quote, List.length_cons, List.length_append]
  omega

theorem toList_newline (depth : Nat) :
    (newline depth).toList = '\n' :: List.replicate (2 * depth) ' ' := by
  simp [newline]

theorem skipSpace_newline (depth : Nat) (cs : List Char) :
    skipSpace ((newline depth).toList ++ cs) = skipSpace cs := by
  have h : ∀ c ∈ (newline depth).toList, isSpace c = true := by
    intro c hc
    rw [toList_newline] at hc
    rcases List.mem_cons.mp hc with rfl | hc
    · rfl
    · rw [List.eq_of_mem_replicate hc]
      rfl
  rw [skipSpace, List.dropWhile_append_of_pos h, skipSpace]

theorem readValue_skipSpace (bound n : Nat) (cs : List Char) :
    readValue bound n (skipSpace cs) = readValue bound n cs := by
  have h : skipSpace (skipSpace cs) = skipSpace cs := List.dropWhile_idempotent isSpace cs
  cases n with
  | zero => simp only [readValue]
  | succ n => simp only [readValue, h]

/-- The text of a value begins with no space, and with nothing that closes an array. -/
def Opens (v : Json) : Prop :=
  ∀ depth, ∃ c cs, (v.prettyAt depth).toList = c :: cs ∧ isSpace c = false ∧ c ≠ ']'

theorem opens_of_hasNumber {v : Json} (hv : v.hasNumber = false) : v.Opens := by
  intro depth
  have h : ∃ c, (v.prettyAt depth).toList.head? = some c ∧ isSpace c = false ∧ c ≠ ']' := by
    match v with
    | null | string s | bool true | bool false | array [] | array (_ :: _) | object []
    | object (_ :: _) => simp [prettyAt, compact, toList_quote, isSpace]
  obtain ⟨c, hc, hs, hne⟩ := h
  obtain ⟨cs, h⟩ := List.head?_eq_some_iff.mp hc
  exact ⟨c, cs, h, hs, hne⟩

theorem opens_natural (n : Nat) : (integer n).Opens := by
  intro depth
  obtain ⟨c, cs, h, hc⟩ := head_toDigits n
  refine ⟨c, cs, (compact_natural n).trans h, isSpace_of_isDigit hc, ?_⟩
  rintro rfl
  contradiction

theorem skipSpace_prettyAt {v : Json} (hv : v.Opens) (depth : Nat)
    (rest : List Char) :
    skipSpace ((v.prettyAt depth).toList ++ rest) = (v.prettyAt depth).toList ++ rest := by
  obtain ⟨c, cs, h, hs, -⟩ := hv depth
  rw [h, skipSpace, List.cons_append, List.dropWhile_cons_of_neg (by simp [hs])]

theorem readValue_array {bound n : Nat} {cs : List Char}
    (h : ∀ rest, skipSpace cs ≠ ']' :: rest) :
    readValue bound (n + 1) ('[' :: cs) =
      (readItems bound n (skipSpace cs)).map fun p => (array p.1, p.2) := by
  rw [readValue]
  have hs : skipSpace ('[' :: cs) = '[' :: cs := rfl
  simp only [hs]

theorem readValue_object {bound n : Nat} {cs : List Char}
    (h : ∀ rest, skipSpace cs ≠ '\x7d' :: rest) :
    readValue bound (n + 1) ('\x7b' :: cs) =
      (readMembers bound n [] (skipSpace cs)).map fun p => (object p.1, p.2) := by
  rw [readValue]
  have hs : skipSpace ('\x7b' :: cs) = '\x7b' :: cs := rfl
  simp only [hs]

theorem readItems_comma {bound n : Nat} {cs after rest : List Char} {v : Json}
    (h : readValue bound n cs = some (v, after)) (ha : skipSpace after = ',' :: rest) :
    readItems bound (n + 1) cs = (readItems bound n rest).map fun p => (v :: p.1, p.2) := by
  rw [readItems, h, Option.bind_eq_bind, Option.bind_some]
  simp only [ha]
  cases readItems bound n rest <;> rfl

theorem readItems_close {bound n : Nat} {cs after rest : List Char} {v : Json}
    (h : readValue bound n cs = some (v, after)) (ha : skipSpace after = ']' :: rest) :
    readItems bound (n + 1) cs = some ([v], rest) := by
  rw [readItems, h, Option.bind_eq_bind, Option.bind_some]
  simp only [ha]

section
variable {bound n : Nat} {kept : List (String × Json)} {key : String} {v : Json}
  {cs rest after next : List Char} (hc : skipSpace cs = (quote key).toList ++ ':' :: rest)
  (hk : key.toList.length < bound) (h : readValue bound n rest = some (v, after))
include hc hk h

theorem readMember_comma (ha : skipSpace after = ',' :: next) :
    readMembers bound (n + 1) kept cs = readMembers bound n (insertMember key v kept) next := by
  rw [toList_quote, List.cons_append, List.append_assoc] at hc
  have hcolon : skipSpace (':' :: rest) = ':' :: rest := rfl
  rw [readMembers, hc]
  simp only [List.cons_append, List.nil_append, readText_escapes _ _ hk, Option.bind_eq_bind,
    Option.bind_some, hcolon, h, ha]

theorem readMember_close (ha : skipSpace after = '\x7d' :: next) :
    readMembers bound (n + 1) kept cs = some (insertMember key v kept, next) := by
  rw [toList_quote, List.cons_append, List.append_assoc] at hc
  have hcolon : skipSpace (':' :: rest) = ':' :: rest := rfl
  rw [readMembers, hc]
  simp only [List.cons_append, List.nil_append, readText_escapes _ _ hk, Option.bind_eq_bind,
    Option.bind_some, hcolon, h, ha]

end

/-- In front of any text that does not go on with a number, the text of a value is read as the value.
As many steps are enough as the text has characters. -/
def ReadsBack (bound : Nat) (v : Json) : Prop :=
  ∀ (depth n : Nat) (rest : List Char), EndsNumber rest →
    (v.prettyAt depth).toList.length < bound → (v.prettyAt depth).toList.length ≤ n →
    readValue bound n ((v.prettyAt depth).toList ++ rest) = some (v.sorted, rest)

/-- Where the first item of an array is read, the others are read up to the bracket. -/
def ItemsReadBack (bound : Nat) (items : List Json) : Prop :=
  ∀ (depth n : Nat) (cs rest : List Char) (w : Json),
    (prettyItems (depth + 1) items).toList.length < bound →
    (prettyItems (depth + 1) items).toList.length ≤ n →
    readValue bound n cs = some (w, (prettyItems (depth + 1) items).toList ++
      ((newline depth).toList ++ ']' :: rest)) →
    readItems bound (n + 1) cs = some (w :: sortedItems items, rest)

/-- Where the value of the first member of an object is read, the others are read up to the
brace. -/
def MembersReadBack (bound : Nat) (members : List (String × Json)) : Prop :=
  ∀ (depth n : Nat) (kept : List (String × Json)) (key : String) (cs after rest : List Char)
    (w : Json), skipSpace cs = (quote key).toList ++ ':' :: after → key.toList.length < bound →
    (prettyMembers (depth + 1) members).toList.length < bound →
    (prettyMembers (depth + 1) members).toList.length ≤ n →
    readValue bound n after = some (w, (prettyMembers (depth + 1) members).toList ++
      ((newline depth).toList ++ '\x7d' :: rest)) →
    readMembers bound (n + 1) kept cs = some (insertSorted (insertMember key w kept) members, rest)

theorem exists_steps {v : Json} (hv : v.Opens) {depth n : Nat}
    (hn : (v.prettyAt depth).toList.length ≤ n) : ∃ m, n = m + 1 := by
  obtain ⟨c, cs, hc, -⟩ := hv depth
  rw [hc, List.length_cons] at hn
  exact Nat.exists_eq_add_one.mpr (by omega)

theorem readsBack_null (bound : Nat) : ReadsBack bound null := by
  intro depth n rest _ _ hn
  obtain ⟨n, rfl⟩ := exists_steps (opens_of_hasNumber rfl) hn
  simp [prettyAt, compact, readValue, skipSpace, isSpace, sorted]

theorem readsBack_bool (bound : Nat) (b : Bool) : ReadsBack bound (bool b) := by
  intro depth n rest _ _ hn
  obtain ⟨n, rfl⟩ := exists_steps (opens_of_hasNumber rfl) hn
  cases b <;> simp [prettyAt, compact, readValue, skipSpace, isSpace, sorted]

theorem readsBack_string (bound : Nat) (s : String) : ReadsBack bound (string s) := by
  intro depth n rest _ hb hn
  obtain ⟨n, rfl⟩ := exists_steps (opens_of_hasNumber rfl) hn
  have hs := length_lt_quote s
  simp only [prettyAt, compact] at hb
  simp [prettyAt, compact, toList_quote, readValue, skipSpace, isSpace,
    readText_escapes s rest (Nat.lt_trans hs hb), sorted]

theorem readsBack_natural (bound : Nat) {k : Nat} (hk : k < 2 ^ 64) :
    ReadsBack bound (integer k) := by
  intro depth n rest hr _ hn
  obtain ⟨n, rfl⟩ := exists_steps (opens_natural k) hn
  have htext : ((integer k).prettyAt depth).toList = Nat.toDigits 10 k := compact_natural k
  rw [htext, readValue_natural bound n hk hr]
  rfl

theorem readsBack_nil (bound : Nat) : ReadsBack bound (array []) := by
  intro depth n rest _ _ hn
  obtain ⟨n, rfl⟩ := exists_steps (opens_of_hasNumber rfl) hn
  simp [prettyAt, readValue, skipSpace, isSpace, sorted, sortedItems]

theorem readsBack_empty (bound : Nat) : ReadsBack bound (object []) := by
  intro depth n rest _ _ hn
  obtain ⟨n, rfl⟩ := exists_steps (opens_of_hasNumber rfl) hn
  simp [prettyAt, readValue, skipSpace, isSpace, sorted, insertSorted]

theorem length_newline_pos (depth : Nat) : 0 < (newline depth).toList.length := by
  simp [toList_newline]

theorem toList_prettyAt_array (depth : Nat) (v : Json) (items : List Json) :
    ((array (v :: items)).prettyAt depth).toList = '[' :: ((newline (depth + 1)).toList ++
      ((v.prettyAt (depth + 1)).toList ++ ((prettyItems (depth + 1) items).toList ++
        ((newline depth).toList ++ [']'])))) := by
  simp [prettyAt]

theorem toList_prettyItems_cons (depth : Nat) (v : Json) (items : List Json) :
    (prettyItems depth (v :: items)).toList = ',' :: ((newline depth).toList ++
      ((v.prettyAt depth).toList ++ (prettyItems depth items).toList)) := by
  simp [prettyItems]

theorem toList_prettyAt_object (depth : Nat) (k : String) (v : Json)
    (members : List (String × Json)) :
    ((object ((k, v) :: members)).prettyAt depth).toList =
      '\x7b' :: ((newline (depth + 1)).toList ++ ((quote k).toList ++
        ':' :: ' ' :: ((v.prettyAt (depth + 1)).toList ++
          ((prettyMembers (depth + 1) members).toList ++
            ((newline depth).toList ++ ['\x7d']))))) := by
  simp [prettyAt]

theorem toList_prettyMembers_cons (depth : Nat) (k : String) (v : Json)
    (members : List (String × Json)) :
    (prettyMembers depth ((k, v) :: members)).toList = ',' :: ((newline depth).toList ++
      ((quote k).toList ++ ':' :: ' ' :: ((v.prettyAt depth).toList ++
        (prettyMembers depth members).toList))) := by
  simp [prettyMembers]

/-- Nothing that stands behind a value in an array goes on with a number. -/
theorem endsNumber_items (depth : Nat) (items : List Json) (rest : List Char) :
    EndsNumber ((prettyItems (depth + 1) items).toList ++ ((newline depth).toList ++ rest)) := by
  cases items <;> simp [EndsNumber, prettyItems, toList_newline]

/-- Nothing that stands behind a value in an object goes on with a number. -/
theorem endsNumber_members (depth : Nat) (members : List (String × Json)) (rest : List Char) :
    EndsNumber ((prettyMembers (depth + 1) members).toList ++
      ((newline depth).toList ++ rest)) := by
  cases members <;> simp [EndsNumber, prettyMembers, toList_newline]

theorem readsBack_array {bound : Nat} {v : Json} {items : List Json} (hv : v.Opens)
    (h : ReadsBack bound v) (hi : ItemsReadBack bound items) :
    ReadsBack bound (array (v :: items)) := by
  intro depth n rest _ hb hn
  have hnewline := length_newline_pos (depth + 1)
  simp only [toList_prettyAt_array, List.length_cons, List.length_append] at hb hn
  obtain ⟨n, rfl⟩ : ∃ m, n = m + 2 := ⟨n - 2, by omega⟩
  have hvalue := h (depth + 1) n ((prettyItems (depth + 1) items).toList ++
    ((newline depth).toList ++ ']' :: rest)) (endsNumber_items depth items _) (by omega) (by omega)
  have hitems := hi depth n _ rest _ (by omega) (by omega) hvalue
  simp only [toList_prettyAt_array, List.cons_append, List.append_assoc, List.nil_append]
  rw [readValue_array, skipSpace_newline, skipSpace_prettyAt hv, hitems]
  · rfl
  · obtain ⟨c, cs, hc, -, hne⟩ := hv (depth + 1)
    rw [skipSpace_newline, skipSpace_prettyAt hv, hc]
    intro rest he
    exact hne (List.cons.inj he).1

theorem itemsReadBack_nil (bound : Nat) : ItemsReadBack bound [] := by
  intro depth n cs rest w _ _ hw
  refine readItems_close hw ?_
  simp only [prettyItems, String.toList_empty, List.nil_append]
  rw [skipSpace_newline]
  rfl

theorem itemsReadBack_cons {bound : Nat} {v : Json} {items : List Json}
    (h : ReadsBack bound v) (hi : ItemsReadBack bound items) :
    ItemsReadBack bound (v :: items) := by
  intro depth n cs rest w hb hn hw
  have hnewline := length_newline_pos (depth + 1)
  simp only [toList_prettyItems_cons, List.length_cons, List.length_append] at hb hn
  obtain ⟨n, rfl⟩ : ∃ m, n = m + 1 := ⟨n - 1, by omega⟩
  have hvalue := h (depth + 1) n ((prettyItems (depth + 1) items).toList ++
    ((newline depth).toList ++ ']' :: rest)) (endsNumber_items depth items _) (by omega) (by omega)
  rw [← readValue_skipSpace, ← skipSpace_newline (depth + 1), readValue_skipSpace] at hvalue
  simp only [toList_prettyItems_cons, List.cons_append, List.append_assoc] at hw
  rw [readItems_comma hw rfl, hi depth n _ rest _ (by omega) (by omega) hvalue]
  rfl

theorem itemsReadBack_of_forall {bound : Nat} {items : List Json}
    (h : ∀ v ∈ items, ReadsBack bound v) : ItemsReadBack bound items := by
  induction items with
  | nil => exact itemsReadBack_nil bound
  | cons v items ih =>
    rw [List.forall_mem_cons] at h
    exact itemsReadBack_cons h.1 (ih h.2)

theorem membersReadBack_nil (bound : Nat) : MembersReadBack bound [] := by
  intro depth n kept key cs after rest w hc hk _ _ hw
  refine readMember_close hc hk hw ?_
  simp only [prettyMembers, String.toList_empty, List.nil_append]
  rw [skipSpace_newline]
  rfl

theorem readValue_space (bound n : Nat) (cs : List Char) :
    readValue bound n (' ' :: cs) = readValue bound n cs := by
  rw [← readValue_skipSpace, ← readValue_skipSpace bound n cs]
  rfl

theorem skipSpace_quote (s : String) (cs : List Char) :
    skipSpace ((quote s).toList ++ cs) = (quote s).toList ++ cs := by
  rw [toList_quote]
  rfl

theorem membersReadBack_cons {bound : Nat} {k : String} {v : Json} {members : List (String × Json)}
    (h : ReadsBack bound v) (hm : MembersReadBack bound members) :
    MembersReadBack bound ((k, v) :: members) := by
  intro depth n kept key cs after rest w hc hk hb hn hw
  have hquote := length_lt_quote k
  simp only [toList_prettyMembers_cons, List.length_cons, List.length_append] at hb hn
  obtain ⟨n, rfl⟩ : ∃ m, n = m + 1 := ⟨n - 1, by omega⟩
  have hvalue := h (depth + 1) n ((prettyMembers (depth + 1) members).toList ++
    ((newline depth).toList ++ '\x7d' :: rest)) (endsNumber_members depth members _) (by omega) (by omega)
  rw [← readValue_space] at hvalue
  simp only [toList_prettyMembers_cons, List.cons_append, List.append_assoc] at hw
  rw [readMember_comma hc hk hw rfl]
  refine hm depth n _ k _ _ rest _ ?_ (by omega) (by omega) (by omega) hvalue
  rw [skipSpace_newline, skipSpace_quote]

theorem readsBack_object {bound : Nat} {k : String} {v : Json} {members : List (String × Json)}
    (h : ReadsBack bound v) (hm : MembersReadBack bound members) :
    ReadsBack bound (object ((k, v) :: members)) := by
  intro depth n rest _ hb hn
  have hquote := length_lt_quote k
  simp only [toList_prettyAt_object, List.length_cons, List.length_append] at hb hn
  obtain ⟨n, rfl⟩ : ∃ m, n = m + 2 := ⟨n - 2, by omega⟩
  have hvalue := h (depth + 1) n ((prettyMembers (depth + 1) members).toList ++
    ((newline depth).toList ++ '\x7d' :: rest)) (endsNumber_members depth members _) (by omega) (by omega)
  rw [← readValue_space] at hvalue
  have hmembers := hm depth n [] k ((quote k).toList ++ ':' :: ' ' ::
    ((v.prettyAt (depth + 1)).toList ++ ((prettyMembers (depth + 1) members).toList ++
      ((newline depth).toList ++ '\x7d' :: rest)))) _ rest _ (skipSpace_quote k _) (by omega)
    (by omega) (by omega) hvalue
  simp only [toList_prettyAt_object, List.cons_append, List.append_assoc, List.nil_append]
  rw [readValue_object, skipSpace_newline, skipSpace_quote, hmembers]
  · rfl
  · rw [skipSpace_newline, skipSpace_quote, toList_quote]
    intro rest he
    exact absurd (List.cons.inj he).1 (by decide)

mutual

theorem readsBack_value (bound : Nat) : ∀ v : Json, v.hasNumber = false → ReadsBack bound v
  | null, _ => readsBack_null bound
  | bool b, _ => readsBack_bool bound b
  | integer _, hv => by contradiction
  | real _, hv => by contradiction
  | string s, _ => readsBack_string bound s
  | array [], _ => readsBack_nil bound
  | array (v :: items), hv => by
    obtain ⟨hv, hi⟩ := Bool.or_eq_false_iff.mp hv
    exact readsBack_array (opens_of_hasNumber hv) (readsBack_value bound v hv) (itemsReadBack_list bound items hi)
  | object [], _ => readsBack_empty bound
  | object ((k, v) :: members), hv => by
    obtain ⟨hv, hm⟩ := Bool.or_eq_false_iff.mp hv
    exact readsBack_object (readsBack_value bound v hv) (membersReadBack_list bound members hm)

theorem itemsReadBack_list (bound : Nat) :
    ∀ items : List Json, haveNumber items = false → ItemsReadBack bound items
  | [], _ => itemsReadBack_nil bound
  | v :: items, hi => by
    obtain ⟨hv, hi⟩ := Bool.or_eq_false_iff.mp hi
    exact itemsReadBack_cons (readsBack_value bound v hv) (itemsReadBack_list bound items hi)

theorem membersReadBack_list (bound : Nat) :
    ∀ members : List (String × Json), memberHasNumber members = false →
      MembersReadBack bound members
  | [], _ => membersReadBack_nil bound
  | (k, v) :: members, hm => by
    obtain ⟨hv, hm⟩ := Bool.or_eq_false_iff.mp hm
    exact membersReadBack_cons (readsBack_value bound v hv)
      (membersReadBack_list bound members hm)

end

theorem endsNumber_of_skipSpace {rest : List Char} (h : skipSpace rest = []) :
    EndsNumber rest := by
  intro c hc
  have hspace := List.dropWhile_eq_nil_iff.mp h c (List.mem_of_mem_head? hc)
  simp only [isSpace, Bool.or_eq_true, beq_iff_eq] at hspace
  obtain ((rfl | rfl) | rfl) | rfl := hspace <;> decide

theorem ReadsBack.parse?_pretty {v : Json} {space : String}
    (h : ReadsBack ((v.pretty ++ space).toList.length + 1) v)
    (hs : skipSpace space.toList = []) : parse? (v.pretty ++ space) = some v.sorted := by
  have h := h 0 ((v.pretty ++ space).toList.length + 1) space.toList (endsNumber_of_skipSpace hs)
  rw [String.toList_append, List.length_append] at h
  have h := h (by rw [pretty]; omega) (by rw [pretty]; omega)
  rw [parse?, String.toList_append, List.length_append]
  simp only [pretty] at h ⊢
  simp only [h, hs, if_true]

/-- What is printed for a value is read as the value, whatever space stands behind it. -/
theorem parse?_pretty {v : Json} (hv : v.hasNumber = false) {space : String}
    (hs : skipSpace space.toList = []) : parse? (v.pretty ++ space) = some v.sorted :=
  (readsBack_value _ v hv).parse?_pretty hs

end TypeExchange.Json
