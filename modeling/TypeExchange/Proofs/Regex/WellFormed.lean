import Mathlib.Tactic.Common
import TypeExchange.Proofs.Results
import TypeExchange.Regex.Reader

/-! What can be written: bounds of repetitions come in order, and named classes lie in ASCII. -/
namespace TypeExchange.Regex

def SetExpr.WellFormed : SetExpr → Prop
  | posix ranges _ => ∀ r ∈ ranges, r.2.toNat < 0x80
  | bracketed _ content => content.WellFormed
  | union a b | operation _ a b => a.WellFormed ∧ b.WellFormed
  | _ => True

/-- The operand that waits for the next one is well formed. -/
def PendingOperation.WellFormed (pending : PendingOperation) : Prop :=
  ∀ operation left, pending = some (operation, left) → left.WellFormed

def Expr.WellFormed : Expr → Prop
  | bracketed _ content => content.WellFormed
  | group _ _ e => e.WellFormed
  | times e least most _ => (∀ m, most = some m → least ≤ m) ∧ e.WellFormed
  | seq a b | alt a b => a.WellFormed ∧ b.WellFormed
  | _ => True

theorem posixRanges?_ascii {name : List Char} {ranges : List (Char × Char)}
    (h : posixRanges? name = some ranges) : ∀ r ∈ ranges, r.2.toNat < 0x80 := by
  unfold posixRanges? at h
  split at h
  all_goals
    cases h
    try decide

theorem wellFormed_readPosix? {cs rest : List Char} {e : SetExpr}
    (h : readPosix? cs = some (e, rest)) : e.WellFormed := by
  unfold readPosix? at h
  split at h
  next =>
    dsimp only at h
    split at h
    next =>
      obtain ⟨ranges, hr, h⟩ := Option.map_eq_some_iff.mp h
      cases h
      exact posixRanges?_ascii hr
    next => contradiction
  next => contradiction

theorem wellFormed_setItem {e : Expr} {item : SetExpr} (h : setItem e = .ok item) :
    item.WellFormed := by
  unfold setItem at h
  split at h <;> cases h <;> trivial

theorem wellFormed_readSetItem {verbose : Bool} {cs rest : List Char} {item : SetExpr}
    (h : readSetItem verbose cs = .ok (item, rest)) : item.WellFormed := by
  unfold readSetItem at h
  obtain ⟨⟨first, after⟩, _, h⟩ := bind_eq_ok_iff.mp h
  dsimp only at h
  split at h
  next => contradiction
  next =>
    split at h
    next =>
      obtain ⟨i, hi, h⟩ := bind_eq_ok_iff.mp h
      cases h
      exact wellFormed_setItem hi
    next =>
      obtain ⟨⟨last, after⟩, _, h⟩ := bind_eq_ok_iff.mp h
      dsimp only at h
      split at h
      next =>
        split at h
        next =>
          cases h
          trivial
        next => contradiction
      next => contradiction
  next =>
    obtain ⟨i, hi, h⟩ := bind_eq_ok_iff.mp h
    cases h
    exact wellFormed_setItem hi

theorem wellFormed_simpleEscape? {c : Char} {e : Expr} (h : simpleEscape? c = some e) :
    e.WellFormed := by
  unfold simpleEscape? at h
  split at h <;> cases h <;> trivial

theorem wellFormed_readEscape {verbose : Bool} {cs rest : List Char} {e : Expr}
    (h : readEscape verbose cs = .ok (e, rest)) : e.WellFormed := by
  unfold readEscape at h
  split at h
  next => contradiction
  next c cs =>
    by_cases hd : c.isDigit = true
    · rw [if_pos hd] at h
      contradiction
    rw [if_neg hd] at h
    by_cases hx : c = 'x' ∨ c = 'u' ∨ c = 'U'
    · rw [if_pos hx] at h
      obtain ⟨_, _, h⟩ := bind_eq_ok_iff.mp h
      cases h
      trivial
    rw [if_neg hx] at h
    by_cases hp : c = 'p' ∨ c = 'P'
    · rw [if_pos hp] at h
      obtain ⟨_, _, h⟩ := bind_eq_ok_iff.mp h
      cases h
      trivial
    rw [if_neg hp] at h
    by_cases he : isEscapable c = true
    · rw [if_pos he] at h
      cases h
      trivial
    rw [if_neg he] at h
    by_cases hb : c = 'b'
    · rw [if_pos hb] at h
      obtain ⟨_, _, h⟩ := bind_eq_ok_iff.mp h
      cases h
      trivial
    rw [if_neg hb] at h
    split at h
    next hs =>
      cases h
      exact wellFormed_simpleEscape? hs
    next => contradiction

theorem wellFormed_readPrimitive {verbose : Bool} {c : Char} {cs rest : List Char} {e : Expr}
    (h : readPrimitive verbose c cs = .ok (e, rest)) : e.WellFormed := by
  unfold readPrimitive at h
  split at h
  next => exact wellFormed_readEscape h
  all_goals
    cases h
    trivial

theorem SetExpr.wellFormed_ofItems {items : List SetExpr} (h : ∀ i ∈ items, i.WellFormed) :
    (SetExpr.ofItems items).WellFormed := by
  fun_induction SetExpr.ofItems items with
  | case1 => trivial
  | case2 e => exact h e List.mem_cons_self
  | case3 e rest _ ih =>
    rw [List.forall_mem_cons] at h
    exact ⟨h.1, ih h.2⟩

theorem wellFormed_closeOperand {pending : PendingOperation} {items : List SetExpr}
    (hp : PendingOperation.WellFormed pending) (hi : ∀ i ∈ items, i.WellFormed) :
    (closeOperand pending items).WellFormed := by
  have ho : (SetExpr.ofItems items.reverse).WellFormed :=
    SetExpr.wellFormed_ofItems (by simpa using hi)
  unfold closeOperand
  split
  next => exact ho
  next op left => exact ⟨hp op left rfl, ho⟩

theorem wellFormed_readHyphens {verbose : Bool} {n : Nat} {cs : List Char} :
    ∀ i ∈ (readHyphens verbose n cs).1, i.WellFormed := by
  fun_induction readHyphens verbose n cs with
  | case1 n cs items rest hr ih =>
    rw [hr] at ih
    exact List.forall_mem_cons.mpr ⟨trivial, ih⟩
  | case2 => simp

theorem wellFormed_readSetOpening {verbose negated : Bool} {cs rest : List Char}
    {first : List SetExpr} (h : readSetOpening verbose cs = .ok (negated, first, rest)) :
    ∀ i ∈ first, i.WellFormed := by
  unfold readSetOpening at h
  dsimp only at h
  split at h
  next => contradiction
  next =>
    split at h
    next => contradiction
    next =>
      cases h
      exact List.forall_mem_singleton.mpr trivial
  next =>
    cases h
    exact wellFormed_readHyphens

theorem wellFormed_readSet {verbose : Bool} {n : Nat} {pending : PendingOperation}
    {items : List SetExpr} {cs rest : List Char} {e : SetExpr}
    (h : readSet verbose n pending items cs = .ok (e, rest))
    (hp : PendingOperation.WellFormed pending) (hi : ∀ i ∈ items, i.WellFormed) : e.WellFormed := by
  induction n generalizing pending items cs e rest with
  | zero => contradiction
  | succ n ih =>
    have hop : ∀ operation,
        PendingOperation.WellFormed (some (operation, closeOperand pending items)) := by
      rintro operation _ _ heq
      cases heq
      exact wellFormed_closeOperand hp hi
    have hnone : PendingOperation.WellFormed none := by
      rintro _ _ heq
      contradiction
    rw [readSet] at h
    split at h
    next => contradiction
    next =>
      cases h
      exact wellFormed_closeOperand hp hi
    next =>
      split at h
      next item _ hposix =>
        apply ih h hp
        exact List.forall_mem_cons.mpr ⟨wellFormed_readPosix? hposix, hi⟩
      next =>
        obtain ⟨⟨negated, first, _⟩, ho, h⟩ := bind_eq_ok_iff.mp h
        obtain ⟨⟨content, _⟩, hc, h⟩ := bind_eq_ok_iff.mp h
        have hcontent : content.WellFormed :=
          ih hc hnone (by simpa using wellFormed_readSetOpening ho)
        exact ih h hp (List.forall_mem_cons.mpr ⟨hcontent, hi⟩)
    next => exact ih h (hop _) (by simp)
    next => exact ih h (hop _) (by simp)
    next => exact ih h (hop _) (by simp)
    next =>
      obtain ⟨⟨item, _⟩, hitem, h⟩ := bind_eq_ok_iff.mp h
      exact ih h hp (List.forall_mem_cons.mpr ⟨wellFormed_readSetItem hitem, hi⟩)

theorem wellFormed_readClass {verbose : Bool} {cs rest : List Char} {e : Expr}
    (h : readClass verbose cs = .ok (e, rest)) : e.WellFormed := by
  unfold readClass at h
  obtain ⟨⟨negated, first, _⟩, ho, h⟩ := bind_eq_ok_iff.mp h
  obtain ⟨⟨content, _⟩, hc, h⟩ := bind_eq_ok_iff.mp h
  cases h
  apply wellFormed_readSet hc
  · rintro _ _ heq
    contradiction
  · simpa using wellFormed_readSetOpening ho

theorem ordered_readBounds {verbose : Bool} {cs rest : List Char} {least : Nat}
    {most : Option Nat} (h : readBounds verbose cs = .ok (least, most, rest)) :
    ∀ m, most = some m → least ≤ m := by
  unfold readBounds at h
  split at h
  next =>
    cases h
    rintro m hm
    cases hm
    exact Nat.le_refl _
  next =>
    split at h
    next =>
      cases h
      simp
    next =>
      split at h
      next =>
        split at h
        next hle =>
          cases h
          rintro m hm
          cases hm
          exact hle
        next => contradiction
      next => contradiction
  next => contradiction

namespace Expr

theorem wellFormed_ofItems {items : List Expr} (h : ∀ e ∈ items, e.WellFormed) :
    (ofItems items).WellFormed := by
  fun_induction ofItems items with
  | case1 => trivial
  | case2 e => exact h e List.mem_cons_self
  | case3 e rest _ ih =>
    rw [List.forall_mem_cons] at h
    exact ⟨h.1, ih h.2⟩

theorem wellFormed_ofBranches {branches : List Expr} (h : ∀ e ∈ branches, e.WellFormed) :
    (ofBranches branches).WellFormed := by
  fun_induction ofBranches branches with
  | case1 => trivial
  | case2 e => exact h e List.mem_cons_self
  | case3 e rest _ ih =>
    rw [List.forall_mem_cons] at h
    exact ⟨h.1, ih h.2⟩

end Expr

theorem wellFormed_repeatLast {items items' : List Expr} {least : Nat} {most : Option Nat}
    {greedy : Bool} (h : repeatLast items least most greedy = .ok items')
    (hi : ∀ e ∈ items, e.WellFormed) (hm : ∀ m, most = some m → least ≤ m) :
    ∀ e ∈ items', e.WellFormed := by
  unfold repeatLast at h
  split at h
  next =>
    split at h
    next =>
      cases h
      rw [List.forall_mem_cons] at hi ⊢
      exact ⟨⟨hm, hi.1⟩, hi.2⟩
    next => contradiction
  next => contradiction

structure Pending.WellFormed (p : Pending) : Prop where
  branches : ∀ e ∈ p.branches, e.WellFormed
  items : ∀ e ∈ p.items, e.WellFormed

namespace Pending.WellFormed

variable {p : Pending}

theorem empty : Pending.WellFormed ⟨[], []⟩ := ⟨by simp, by simp⟩

theorem add (h : p.WellFormed) {e : Expr} (he : e.WellFormed) : (p.add e).WellFormed :=
  ⟨h.branches, List.forall_mem_cons.mpr ⟨he, h.items⟩⟩

theorem last (h : p.WellFormed) : (Expr.ofItems p.items.reverse).WellFormed :=
  Expr.wellFormed_ofItems (by simpa using h.items)

theorem branch (h : p.WellFormed) : p.branch.WellFormed :=
  ⟨List.forall_mem_cons.mpr ⟨h.last, h.branches⟩, by simp [Pending.branch]⟩

theorem close (h : p.WellFormed) : p.close.WellFormed := by
  apply Expr.wellFormed_ofBranches
  intro e he
  rw [List.mem_reverse, List.mem_cons] at he
  rcases he with rfl | he
  · exact h.last
  · exact h.branches e he

theorem repeatLast (h : p.WellFormed) {items : List Expr} {least : Nat} {most : Option Nat}
    {greedy : Bool} (hr : Regex.repeatLast p.items least most greedy = .ok items)
    (hm : ∀ m, most = some m → least ≤ m) : Pending.WellFormed { p with items } :=
  ⟨h.branches, wellFormed_repeatLast hr h.items hm⟩

end Pending.WellFormed

theorem wellFormed_readGroup {n : Nat} {p : Pending} {cursor after : Cursor} {e : Expr}
    (h : readGroup n p cursor = .ok (e, after)) (hp : p.WellFormed) : e.WellFormed := by
  induction n generalizing p cursor after e with
  | zero => contradiction
  | succ n ih =>
    rw [readGroup] at h
    dsimp only at h
    split at h
    next =>
      cases h
      exact hp.close
    next =>
      cases h
      exact hp.close
    next => exact ih h hp.branch
    next =>
      obtain ⟨⟨opening, _⟩, _, h⟩ := bind_eq_ok_iff.mp h
      dsimp only at h
      split at h
      next => exact ih h (hp.add trivial)
      next =>
        obtain ⟨⟨inner, _⟩, hinner, h⟩ := bind_eq_ok_iff.mp h
        dsimp only at h
        split at h
        next =>
          have he : inner.WellFormed := ih hinner .empty
          exact ih h (hp.add he)
        next => contradiction
    next =>
      obtain ⟨⟨class', _⟩, hclass, h⟩ := bind_eq_ok_iff.mp h
      exact ih h (hp.add (wellFormed_readClass hclass))
    next =>
      obtain ⟨items, hr, h⟩ := bind_eq_ok_iff.mp h
      exact ih h (hp.repeatLast hr (by simp))
    next =>
      obtain ⟨items, hr, h⟩ := bind_eq_ok_iff.mp h
      exact ih h (hp.repeatLast hr (by simp))
    next =>
      obtain ⟨items, hr, h⟩ := bind_eq_ok_iff.mp h
      exact ih h (hp.repeatLast hr (by simp))
    next =>
      obtain ⟨⟨least, most, _⟩, hbounds, h⟩ := bind_eq_ok_iff.mp h
      obtain ⟨items, hr, h⟩ := bind_eq_ok_iff.mp h
      exact ih h (hp.repeatLast hr (ordered_readBounds hbounds))
    next =>
      obtain ⟨⟨atom, _⟩, hatom, h⟩ := bind_eq_ok_iff.mp h
      exact ih h (hp.add (wellFormed_readPrimitive hatom))

theorem Expr.wellFormed_of_parse {text : String} {e : Expr} (h : Expr.parse text = .ok e) :
    e.WellFormed := by
  unfold Expr.parse at h
  obtain ⟨⟨e', cursor⟩, hg, h⟩ := bind_eq_ok_iff.mp h
  dsimp only at h
  split_ifs at h
  cases h
  exact wellFormed_readGroup hg .empty

end TypeExchange.Regex
