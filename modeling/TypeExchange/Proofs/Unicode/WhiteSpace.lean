import Mathlib.Data.List.DropRight
import TypeExchange.Proofs.Unicode.Property

/-! What is left of a text when the white space at both of its ends is taken away. -/
namespace TypeExchange.Unicode

/-- There is nothing but white space. -/
def IsBlank (s : String) : Prop := ∀ c ∈ s.toList, isWhiteSpace c = true

instance (s : String) : Decidable (IsBlank s) :=
  List.decidableBAll (fun c => isWhiteSpace c = true) s.toList

/-- `word` stands in `s` with nothing but white space around it, and has none at its own ends. -/
structure IsTrimmed (word s : String) : Prop where
  split : ∃ before after, s = before ++ word ++ after ∧ IsBlank before ∧ IsBlank after
  head : ∀ c ∈ word.toList.head?, isWhiteSpace c = false
  last : ∀ c ∈ word.toList.getLast?, isWhiteSpace c = false

theorem trimList_eq_rdropWhile (cs : List Char) :
    trimList cs = (cs.dropWhile isWhiteSpace).rdropWhile isWhiteSpace := rfl

theorem rdropWhile_append_of_all {p : Char → Bool} {cs after : List Char}
    (h : ∀ c ∈ after, p c = true) : (cs ++ after).rdropWhile p = cs.rdropWhile p := by
  have hreverse : ∀ c ∈ after.reverse, p c = true := by simpa using h
  rw [List.rdropWhile, List.reverse_append, List.dropWhile_append_of_pos hreverse]
  rfl

/-- White space around a text does not count. -/
theorem trimList_append {before cs after : List Char}
    (hbefore : ∀ c ∈ before, isWhiteSpace c = true)
    (hafter : ∀ c ∈ after, isWhiteSpace c = true) :
    trimList (before ++ cs ++ after) = trimList cs := by
  simp only [trimList_eq_rdropWhile]
  rw [List.append_assoc, List.dropWhile_append_of_pos hbefore, List.dropWhile_append]
  split
  case isTrue hnil =>
    have hcs : cs.dropWhile isWhiteSpace = [] := List.isEmpty_iff.mp hnil
    have hnone : after.dropWhile isWhiteSpace = [] := List.dropWhile_eq_nil_iff.mpr hafter
    rw [hcs, hnone]
  case isFalse => exact rdropWhile_append_of_all hafter

theorem trim_append {before s after : String} (hbefore : IsBlank before) (hafter : IsBlank after) :
    trim (before ++ s ++ after) = trim s := by
  unfold trim
  rw [String.toList_append, String.toList_append, trimList_append hbefore hafter]

theorem trimList_eq_self {word : List Char} (hhead : ∀ c ∈ word.head?, isWhiteSpace c = false)
    (hlast : ∀ c ∈ word.getLast?, isWhiteSpace c = false) : trimList word = word := by
  have hfront : word.dropWhile isWhiteSpace = word := by
    cases word with
    | nil => rfl
    | cons c word => rw [List.dropWhile_cons, hhead c rfl, if_neg Bool.false_ne_true]
  rw [trimList_eq_rdropWhile, hfront, List.rdropWhile_eq_self_iff]
  intro hne
  rw [hlast _ (List.getLast?_eq_some_getLast hne)]
  exact Bool.false_ne_true

theorem isTrimmed_trim (s : String) : IsTrimmed (trim s) s := by
  let front := s.toList.takeWhile isWhiteSpace
  let back := (s.toList.dropWhile isWhiteSpace).rtakeWhile isWhiteSpace
  have hback : trimList s.toList ++ back = s.toList.dropWhile isWhiteSpace :=
    List.rdropWhile_append_rtakeWhile
  have hfront : front ++ s.toList.dropWhile isWhiteSpace = s.toList :=
    List.takeWhile_append_dropWhile
  refine ⟨⟨.ofList front, .ofList back, ?_, ?_, ?_⟩, ?_, ?_⟩
  · rw [← String.toList_inj]
    simp only [String.toList_append, String.toList_ofList, trim, List.append_assoc, hback, hfront]
  · intro c hc
    rw [String.toList_ofList] at hc
    exact List.mem_takeWhile_imp hc
  · intro c hc
    rw [String.toList_ofList] at hc
    exact List.mem_rtakeWhile_imp hc
  · intro c hc
    rw [trim, String.toList_ofList] at hc
    have hdrop : (s.toList.dropWhile isWhiteSpace).head? = some c := by
      rw [← hback, List.head?_append, hc]
      rfl
    have hnot := List.head?_dropWhile_not isWhiteSpace s.toList
    rwa [hdrop] at hnot
  · intro c hc
    rw [trim, String.toList_ofList] at hc
    have hne : trimList s.toList ≠ [] := by
      intro hnil
      rw [hnil] at hc
      contradiction
    have hnot := List.rdropWhile_last_not isWhiteSpace (s.toList.dropWhile isWhiteSpace) hne
    rw [List.getLast?_eq_some_getLast hne] at hc
    obtain rfl := Option.some.inj hc
    exact Bool.not_eq_true _ ▸ hnot

theorem isTrimmed_iff {word s : String} : IsTrimmed word s ↔ trim s = word := by
  constructor
  · rintro ⟨⟨before, after, rfl, hbefore, hafter⟩, hhead, hlast⟩
    rw [trim_append hbefore hafter, trim, trimList_eq_self hhead hlast, String.ofList_toList]
  · rintro rfl
    exact isTrimmed_trim s

end TypeExchange.Unicode
