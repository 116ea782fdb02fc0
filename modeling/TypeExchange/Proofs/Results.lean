/-! Computations that may fail: what their steps and their sequences give, and what is found under a
key. -/
namespace TypeExchange

variable {ε α β : Type}

@[simp] theorem ok_bind (a : α) (f : α → Except ε β) : (Except.ok a >>= f) = f a := rfl

@[simp] theorem error_bind (e : ε) (f : α → Except ε β) : (Except.error e >>= f) = .error e := rfl

@[simp] theorem ok_map (a : α) (f : α → β) : (Except.ok a : Except ε α).map f = .ok (f a) := rfl

@[simp] theorem error_map (e : ε) (f : α → β) : (Except.error e).map f = .error e := rfl

theorem bind_eq_ok_iff {x : Except ε α} {f : α → Except ε β} {b : β} :
    (x >>= f) = .ok b ↔ ∃ a, x = .ok a ∧ f a = .ok b := by
  cases x with
  | error e => simp
  | ok a => simp

theorem map_eq_ok_iff {x : Except ε α} {f : α → β} {b : β} :
    x.map f = .ok b ↔ ∃ a, x = .ok a ∧ f a = b := by
  cases x with
  | error e => simp
  | ok a => simp

theorem map_eq_error_iff {x : Except ε α} {f : α → β} {e : ε} :
    x.map f = .error e ↔ x = .error e := by
  cases x with
  | error e' => simp
  | ok a => simp

theorem bind_eq_error_iff {x : Except ε α} {f : α → Except ε β} {e : ε} :
    (x >>= f) = .error e ↔ x = .error e ∨ ∃ a, x = .ok a ∧ f a = .error e := by
  cases x with
  | error e' => simp
  | ok a => simp

theorem exists_ok_iff {x : Except ε α} : (∃ a, x = .ok a) ↔ ∀ e, x ≠ .error e := by
  cases x with
  | error e => simp
  | ok a => simp

theorem exists_ok_of_isOk {x : Except ε α} (h : x.isOk = true) : ∃ a, x = .ok a := by
  cases x with
  | error e => contradiction
  | ok a => exact ⟨a, rfl⟩

theorem exists_ok_of_any {x : Except ε α} {p : α → Bool} (h : x.toOption.any p = true) :
    ∃ a, x = .ok a ∧ p a = true := by
  cases x with
  | error e => contradiction
  | ok a => exact ⟨a, rfl, h⟩

theorem mapM_isOk_iff {f : α → Except ε β} {xs : List α} :
    (∃ bs, xs.mapM f = .ok bs) ↔ ∀ x ∈ xs, ∃ b, f x = .ok b := by
  induction xs with
  | nil => simp [pure, Except.pure]
  | cons x xs ih =>
    rw [List.mapM_cons, List.forall_mem_cons, ← ih]
    constructor
    · rintro ⟨_, h⟩
      obtain ⟨b, hb, h⟩ := bind_eq_ok_iff.mp h
      obtain ⟨bs, hbs, -⟩ := bind_eq_ok_iff.mp h
      exact ⟨⟨b, hb⟩, bs, hbs⟩
    · rintro ⟨⟨b, hb⟩, bs, hbs⟩
      exact ⟨b :: bs, by rw [hb, hbs]; rfl⟩

theorem mapM_eq_ok_map {f : α → Except ε β} {g : α → β} {xs : List α}
    (h : ∀ x ∈ xs, f x = .ok (g x)) : xs.mapM f = .ok (xs.map g) := by
  induction xs with
  | nil => rfl
  | cons x xs ih =>
    rw [List.forall_mem_cons] at h
    rw [List.mapM_cons, h.1, ih h.2]
    rfl

/-- A sequence fails with the failure of the first element that fails. -/
theorem mapM_eq_error_iff {f : α → Except ε β} {xs : List α} {e : ε} :
    xs.mapM f = .error e ↔
      ∃ (i : Nat) (x : α), xs[i]? = some x ∧ f x = .error e ∧
        ∀ j < i, ∀ y, xs[j]? = some y → ∃ b, f y = .ok b := by
  induction xs with
  | nil => simp [pure, Except.pure]
  | cons x xs ih =>
    rw [List.mapM_cons, bind_eq_error_iff]
    have hrest : ∀ b : β, (xs.mapM f >>= fun bs => (pure (b :: bs) : Except ε (List β))) =
        .error e ↔ xs.mapM f = .error e := by
      intro b
      cases xs.mapM f <;> simp [pure, Except.pure]
    simp only [hrest, ih]
    constructor
    · rintro (hx | ⟨b, hb, i, y, hy, he, hearlier⟩)
      · exact ⟨0, x, rfl, hx, by omega⟩
      · refine ⟨i + 1, y, hy, he, ?_⟩
        intro j hj z hz
        cases j with
        | zero =>
          obtain rfl := Option.some.inj hz
          exact ⟨b, hb⟩
        | succ j => exact hearlier j (by omega) z hz
    · rintro ⟨i, y, hy, he, hearlier⟩
      cases i with
      | zero =>
        obtain rfl := Option.some.inj hy
        exact .inl he
      | succ i =>
        obtain ⟨b, hb⟩ := hearlier 0 (by omega) x rfl
        refine .inr ⟨b, hb, i, y, hy, he, ?_⟩
        intro j hj z hz
        exact hearlier (j + 1) (by omega) z hz

/-- Where no key is repeated, each entry is found under its own. -/
theorem lookup_of_mem [BEq α] [LawfulBEq α] {entries : List (α × β)}
    (distinct : (entries.map Prod.fst).Nodup) {e : α × β} (he : e ∈ entries) :
    entries.lookup e.1 = some e.2 := by
  obtain ⟨before, after, rfl⟩ := List.append_of_mem he
  rw [List.map_append, List.nodup_append] at distinct
  refine List.lookup_eq_some_iff.mpr ⟨before, after, rfl, ?_⟩
  intro f hf
  have hne := distinct.2.2 f.1 (List.mem_map_of_mem hf) e.1 List.mem_cons_self
  simpa using Ne.symm hne

/-- Checks elements in turn, each in view of those before it. -/
def checkAll (check : List α → α → Except ε Unit) : List α → List α → Except ε Unit
  | _, [] => .ok ()
  | before, x :: xs => check before x >>= fun _ => checkAll check (before ++ [x]) xs

theorem of_checkAll_eq_ok {check : List α → α → Except ε Unit} {before xs : List α}
    (h : checkAll check before xs = .ok ()) {i : Nat} {x : α} (hx : xs[i]? = some x) :
    check (before ++ xs.take i) x = .ok () := by
  induction xs generalizing before i with
  | nil => contradiction
  | cons y xs ih =>
    obtain ⟨⟨⟩, hy, hrest⟩ := bind_eq_ok_iff.mp h
    cases i with
    | zero =>
      obtain rfl := Option.some.inj hx
      simpa using hy
    | succ i => simpa using ih hrest hx

/-- Checks fail with the failure of the first element that fails. -/
theorem exists_of_checkAll_eq_error {check : List α → α → Except ε Unit} {before xs : List α}
    {e : ε} (h : checkAll check before xs = .error e) :
    ∃ (i : Nat) (x : α), xs[i]? = some x ∧ check (before ++ xs.take i) x = .error e ∧
      ∀ j < i, ∀ y, xs[j]? = some y → check (before ++ xs.take j) y = .ok () := by
  induction xs generalizing before with
  | nil => contradiction
  | cons x xs ih =>
    rcases bind_eq_error_iff.mp h with hx | ⟨⟨⟩, hx, hrest⟩
    · exact ⟨0, x, rfl, by simpa using hx, by omega⟩
    · obtain ⟨i, y, hy, he, hearlier⟩ := ih hrest
      refine ⟨i + 1, y, hy, by simpa using he, ?_⟩
      intro j hj z hz
      cases j with
      | zero =>
        obtain rfl := Option.some.inj hz
        simpa using hx
      | succ j => simpa using hearlier j (by omega) z hz

end TypeExchange
