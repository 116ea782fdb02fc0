import Mathlib.Tactic.Common
import TypeExchange.Proofs.Unicode.Folding
import TypeExchange.Proofs.Unicode.WhiteSpace
import TypeExchange.Unicode.LowerCase

/-! Lower case and the letters of ASCII. Outside ASCII only the sign of the kelvin becomes a letter
of ASCII, `k`, so a word without this letter is the lower case of nothing but itself and its
spellings in capitals. The lower case of any text is that of the text with small letters for the
capitals of ASCII. -/
namespace TypeExchange.Unicode

theorem lowerChar_of_ascii {c : Char} (h : c.toNat < 128) : lowerChar c = [c.toLower] := if_pos h

theorem lowerRuns_scalar : ∀ r ∈ lowerRuns, AllScalar r.image r.lastImage := by decide +kernel

theorem lowerRuns_image : ∀ r ∈ lowerRuns,
    128 ≤ r.image ∨ (r.first = r.last ∧ r.image = 'k'.toNat) := by decide +kernel

/-- The image of a character under the runs is outside ASCII or the letter `k`. -/
theorem image_of_lowerRuns {n m : Nat} (h : imageIn lowerRuns n = some m) :
    m.isValidChar ∧ (128 ≤ m ∨ m = 'k'.toNat) := by
  unfold imageIn at h
  obtain ⟨r, hf, rfl⟩ := Option.map_eq_some_iff.mp h
  have hr : r ∈ lowerRuns := List.mem_of_find?_eq_some hf
  have hn : r.contains n = true := by simpa using List.find?_some hf
  obtain ⟨hlo, hhi⟩ := ShiftedRun.apply_bounds hn
  refine ⟨(lowerRuns_scalar r hr).isValidChar hlo hhi, ?_⟩
  rcases lowerRuns_image r hr with hout | ⟨hone, hk⟩
  · omega
  · unfold ShiftedRun.lastImage at hhi
    omega

/-- A character outside ASCII stays outside, but for the sign of the kelvin. -/
theorem exists_mem_lowerChar {c : Char} (h : 128 ≤ c.toNat) :
    ∃ d ∈ lowerChar c, 128 ≤ d.toNat ∨ d = 'k' := by
  have hascii : ¬c.toNat < 128 := by omega
  rw [lowerChar, if_neg hascii]
  by_cases hdot : c.toNat = 0x130
  · rw [if_pos hdot]
    exact ⟨Char.ofNat 0x307, by simp, .inl (by decide)⟩
  · rw [if_neg hdot]
    cases hi : imageIn lowerRuns c.toNat with
    | none => exact ⟨c, by simp, .inl h⟩
    | some n =>
      obtain ⟨hvalid, hn⟩ := image_of_lowerRuns hi
      refine ⟨Char.ofNat n, by simp, ?_⟩
      rcases hn with hn | rfl
      · left
        rwa [toNat_ofNat hvalid]
      · right
        rfl

example : lowerCase "\u212a\u0130" = "ki\u0307" := by decide +kernel

theorem lowerAfter_of_ascii {before cs : List Char} (h : ∀ c ∈ cs, c.toNat < 128) :
    lowerAfter before cs = cs.map Char.toLower := by
  induction cs generalizing before with
  | nil => rfl
  | cons c cs ih =>
    rw [List.forall_mem_cons] at h
    have hne : c ≠ 'Σ' := by
      rintro rfl
      exact absurd h.1 (by decide)
    rw [lowerAfter, if_neg hne, lowerChar_of_ascii h.1, ih h.2]
    rfl

/-- A text whose lower case is in ASCII, without the letter `k`, is in ASCII. -/
theorem ascii_of_lowerAfter (before : List Char) {cs : List Char}
    (h : ∀ d ∈ lowerAfter before cs, d.toNat < 128 ∧ d ≠ 'k') : ∀ c ∈ cs, c.toNat < 128 := by
  induction cs generalizing before with
  | nil => simp
  | cons c cs ih =>
    rw [lowerAfter, List.forall_mem_append] at h
    refine List.forall_mem_cons.mpr ⟨?_, ih _ h.2⟩
    by_contra hc
    by_cases hs : c = 'Σ'
    -- both small forms of sigma are outside ASCII
    · rw [if_pos hs] at h
      have hd := (h.1 _ List.mem_cons_self).1
      split at hd <;> exact absurd hd (by decide)
    · rw [if_neg hs] at h
      obtain ⟨d, hd, hout⟩ := exists_mem_lowerChar (Nat.le_of_not_lt hc)
      have hin := h.1 d hd
      rcases hout with hout | hk
      · omega
      · exact hin.2 hk

theorem toLower_of_not_isUpper {c : Char} (h : ¬c.isUpper = true) : c.toLower = c := by
  apply dif_neg
  intro hc
  exact h (decide_eq_true hc)

theorem toLower_of_isLower {c : Char} (h : c.isLower = true) : c.toLower = c := by
  have hc := isLower_iff_toNat.mp h
  apply toLower_of_not_isUpper
  rw [isUpper_iff_toNat]
  omega

/-- A capital of ASCII and its small letter are 32 code points apart. -/
theorem toNat_toLower_of_isUpper {c : Char} (h : c.isUpper = true) :
    c.toLower.toNat = c.toNat + 32 := by
  have hval : c.toLower.val = c.val + 32 := congrArg Char.val (dif_pos (of_decide_eq_true h))
  have hc := isUpper_iff_toNat.mp h
  calc c.toLower.toNat = (c.val + 32).toNat := congrArg UInt32.toNat hval
    _ = (c.toNat + 32) % 2 ^ 32 := UInt32.toNat_add ..
    _ = c.toNat + 32 := Nat.mod_eq_of_lt (by omega)

theorem isLower_toLower_of_isUpper {c : Char} (h : c.isUpper = true) :
    c.toLower.isLower = true := by
  have hc := isUpper_iff_toNat.mp h
  rw [isLower_iff_toNat, toNat_toLower_of_isUpper h]
  omega

theorem ascii_of_isUpper {c : Char} (h : c.isUpper = true) :
    c.toNat < 128 ∧ c.toLower.toNat < 128 := by
  have hc := isUpper_iff_toNat.mp h
  rw [toNat_toLower_of_isUpper h]
  omega

theorem toNat_toLower_lt_iff {c : Char} : c.toLower.toNat < 128 ↔ c.toNat < 128 := by
  by_cases h : c.isUpper = true
  · have hc := ascii_of_isUpper h
    exact iff_of_true hc.2 hc.1
  · rw [toLower_of_not_isUpper h]

/-- A word in ASCII without the letter `k` is the lower case of a text just if the text is the word,
but for the case of letters of ASCII. -/
theorem lowerAfter_eq_iff (before : List Char) {cs word : List Char}
    (hw : ∀ d ∈ word, d.toNat < 128 ∧ d ≠ 'k') :
    lowerAfter before cs = word ↔ cs.map Char.toLower = word := by
  constructor
  · intro h
    have hcs : ∀ c ∈ cs, c.toNat < 128 := ascii_of_lowerAfter before (h ▸ hw)
    rw [← lowerAfter_of_ascii hcs, h]
  · intro h
    have hcs : ∀ c ∈ cs, c.toNat < 128 := by
      intro c hc
      rw [← toNat_toLower_lt_iff]
      exact (hw _ (h ▸ List.mem_map_of_mem hc)).1
    rw [lowerAfter_of_ascii hcs, h]

/-- What is the same for a capital of ASCII and for its small letter is not changed where capitals
become small letters. -/
theorem apply_toLower {α : Type} {f : Char → α}
    (h : ∀ c : Char, c.isUpper = true → f c.toLower = f c) (c : Char) : f c.toLower = f c := by
  by_cases hc : c.isUpper = true
  · exact h c hc
  · rw [toLower_of_not_isUpper hc]

theorem isAlpha_of_isUpper {c : Char} (h : c.isUpper = true) :
    c.isAlpha = true ∧ c.toLower.isAlpha = true :=
  ⟨isAlpha_iff.mpr (.inl h), isAlpha_iff.mpr (.inr (isLower_toLower_of_isUpper h))⟩

@[simp] theorem isAlpha_toLower (c : Char) : c.toLower.isAlpha = c.isAlpha := by
  refine apply_toLower (fun c hc => ?_) c
  obtain ⟨hupper, hlower⟩ := isAlpha_of_isUpper hc
  rw [hupper, hlower]

@[simp] theorem isWhiteSpace_toLower (c : Char) : isWhiteSpace c.toLower = isWhiteSpace c := by
  refine apply_toLower (fun c hc => ?_) c
  obtain ⟨hupper, hlower⟩ := isAlpha_of_isUpper hc
  rw [isWhiteSpace_of_isAlpha hupper, isWhiteSpace_of_isAlpha hlower]

@[simp] theorem isCased_toLower (c : Char) : isCased c.toLower = isCased c := by
  refine apply_toLower (fun c hc => ?_) c
  obtain ⟨hupper, hlower⟩ := isAlpha_of_isUpper hc
  rw [isCased_of_isAlpha hupper, isCased_of_isAlpha hlower]

@[simp] theorem isCaseIgnorable_toLower (c : Char) :
    isCaseIgnorable c.toLower = isCaseIgnorable c := by
  refine apply_toLower (fun c hc => ?_) c
  obtain ⟨hupper, hlower⟩ := isAlpha_of_isUpper hc
  rw [isCaseIgnorable_of_isAlpha hupper, isCaseIgnorable_of_isAlpha hlower]

@[simp] theorem lowerChar_toLower (c : Char) : lowerChar c.toLower = lowerChar c := by
  refine apply_toLower (fun c hc => ?_) c
  obtain ⟨hupper, hlower⟩ := ascii_of_isUpper hc
  rw [lowerChar_of_ascii hupper, lowerChar_of_ascii hlower,
    toLower_of_isLower (isLower_toLower_of_isUpper hc)]

theorem toLower_eq_sigma_iff {c : Char} : c.toLower = 'Σ' ↔ c = 'Σ' := by
  by_cases h : c.isUpper = true
  · obtain ⟨hupper, hlower⟩ := ascii_of_isUpper h
    refine iff_of_false ?_ ?_
    · intro he
      rw [he] at hlower
      exact absurd hlower (by decide)
    · rintro rfl
      exact absurd hupper (by decide)
  · rw [toLower_of_not_isUpper h]

theorem meetsCased_map_toLower (cs : List Char) :
    meetsCased (cs.map Char.toLower) = meetsCased cs := by
  have hignorable : isCaseIgnorable ∘ Char.toLower = isCaseIgnorable :=
    funext isCaseIgnorable_toLower
  unfold meetsCased
  rw [List.dropWhile_map, hignorable]
  cases cs.dropWhile isCaseIgnorable with
  | nil => rfl
  | cons c cs => exact isCased_toLower c

/-- The case of letters of ASCII does not count, not even where a sigma looks at what stands
around it. -/
theorem lowerAfter_map_toLower (before cs : List Char) :
    lowerAfter (before.map Char.toLower) (cs.map Char.toLower) = lowerAfter before cs := by
  induction cs generalizing before with
  | nil => rfl
  | cons c cs ih =>
    have hrest := ih (c :: before)
    rw [List.map_cons] at hrest
    rw [List.map_cons, lowerAfter, lowerAfter, hrest, lowerChar_toLower, meetsCased_map_toLower,
      meetsCased_map_toLower]
    simp only [toLower_eq_sigma_iff]

theorem trimList_map_toLower (cs : List Char) :
    trimList (cs.map Char.toLower) = (trimList cs).map Char.toLower := by
  have hspace : isWhiteSpace ∘ Char.toLower = isWhiteSpace := funext isWhiteSpace_toLower
  unfold trimList
  rw [List.dropWhile_map, hspace, ← List.map_reverse, List.dropWhile_map, hspace,
    ← List.map_reverse]

end TypeExchange.Unicode
