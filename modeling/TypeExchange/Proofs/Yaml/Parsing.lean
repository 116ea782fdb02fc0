import TypeExchange.Proofs.Yaml.BlockTokens

/-! The value of a document in block style. Its tokens are read as a tree without anchors and
aliases, and such a tree stands for itself unless it is nested too deep. -/
namespace TypeExchange.Yaml

namespace Value

mutual

/-- A value as a node of a document, without anchors. -/
def node {α : Type} : Value → Node α
  | scalar tag style text => .scalar none tag style text
  | sequence tag items => .sequence none tag (nodes items)
  | mapping tag entries => .mapping none tag (entryNodes entries)

def nodes {α : Type} : List Value → List (Node α)
  | [] => []
  | v :: rest => v.node :: nodes rest

def entryNodes {α : Type} : List (Value × Value) → List (Node α × Node α)
  | [] => []
  | (k, v) :: rest => (k.node, v.node) :: entryNodes rest

end

/-- Collections are nested in a value at most this deep. -/
inductive Nests : Nat → Value → Prop
  | scalar {n : Nat} {tag : Option Tag} {style : Style} {text : List Char} :
      Nests n (.scalar tag style text)
  | sequence {n : Nat} {tag : Option Tag} {items : List Value} (h : ∀ v ∈ items, Nests n v) :
      Nests (n + 1) (.sequence tag items)
  | mapping {n : Nat} {tag : Option Tag} {entries : List (Value × Value)}
      (hk : ∀ e ∈ entries, Nests n e.1) (hv : ∀ e ∈ entries, Nests n e.2) :
      Nests (n + 1) (.mapping tag entries)

mutual

theorem numberNode_node (names : Names) :
    ∀ v : Value, numberNode names v.node = .ok (v.node, names)
  | scalar tag style text => rfl
  | sequence tag items => by
    simp only [node, numberNode, Names.addIf, numberItems_nodes names items, ok_bind]
    rfl
  | mapping tag entries => by
    simp only [node, numberNode, Names.addIf, numberEntries_nodes names entries, ok_bind]
    rfl

theorem numberItems_nodes (names : Names) :
    ∀ items : List Value, numberItems names (nodes items) = .ok (nodes items, names)
  | [] => rfl
  | v :: rest => by
    simp only [nodes, numberItems, numberNode_node names v, numberItems_nodes names rest, ok_bind]
    rfl

theorem numberEntries_nodes (names : Names) : ∀ entries : List (Value × Value),
    numberEntries names (entryNodes entries) = .ok (entryNodes entries, names)
  | [] => rfl
  | (k, v) :: rest => by
    simp only [entryNodes, numberEntries, numberNode_node names k, numberNode_node names v,
      numberEntries_nodes names rest, ok_bind]
    rfl

end

section
variable {targets : List (Nat × Node Nat)} {f : Nat → Node Nat → Except Fault (Value × Nat)}

theorem expandItems_nodes {items : List Value}
    (h : ∀ v ∈ items, ∀ left, f left v.node = .ok (v, left)) (left : Nat) :
    expandItems f left (nodes items) = .ok (items, left) := by
  induction items with
  | nil => rfl
  | cons v rest ih =>
    simp only [nodes, expandItems, h v (.head rest), ih fun w hw => h w (.tail v hw), ok_bind]
    rfl

theorem expandEntries_nodes {entries : List (Value × Value)}
    (hk : ∀ e ∈ entries, ∀ left, f left e.1.node = .ok (e.1, left))
    (hv : ∀ e ∈ entries, ∀ left, f left e.2.node = .ok (e.2, left)) (left : Nat) :
    expandEntries f left (entryNodes entries) = .ok (entries, left) := by
  induction entries with
  | nil => rfl
  | cons e rest ih =>
    simp only [entryNodes, expandEntries, hk e (.head rest), hv e (.head rest),
      ih (fun w hw => hk w (.tail e hw)) fun w hw => hv w (.tail e hw), ok_bind]
    rfl

/-- No alias is followed in what a value is as a node. -/
theorem Nests.expand_node {n : Nat} {v : Value} (h : v.Nests n) (left : Nat) :
    expand targets (n + 1) left v.node = .ok (v, left) := by
  induction h generalizing left with
  | scalar => rfl
  | @sequence n tag items _ ih =>
    rw [node, expand]
    simp only [follow, ok_bind, Nat.succ_ne_zero, if_false, expandItems_nodes ih]
    rfl
  | @mapping n tag entries _ _ ihk ihv =>
    rw [node, expand]
    simp only [follow, ok_bind, Nat.succ_ne_zero, if_false, expandEntries_nodes ihk ihv]
    rfl

end
end Value
namespace Block

/-- The tokens that may follow a field in its mapping. -/
def EndsField (t : Token) : Prop := t = .key ∨ t = .blockEnd

section
variable {handles : Handles} {block unindented : Bool} {n : Nat} {ts rest : List Token}

theorem readNode_scalar (style : Style) (text : List Char) :
    readNode handles block unindented (n + 1) (.scalar style text :: rest) =
      .ok (.scalar none none style text, rest) := by
  simp [readNode, readProperties, pure, Except.pure]

theorem readNode_noItems :
    readNode handles block unindented (n + 2) (.flowSequence :: .flowSequenceEnd :: rest) =
      .ok (.sequence none none [], rest) := by
  simp [readNode, readProperties, readFlowItems, pure, Except.pure]

theorem readNode_mapping {entries : List (Parsed × Parsed)}
    (h : readBlockEntries handles n ts = .ok (entries, rest)) :
    readNode handles true unindented (n + 1) (.blockMapping :: ts) =
      .ok (.mapping none none entries, rest) := by
  simp [readNode, readProperties, h, pure, Except.pure]

theorem readNode_sequence {items : List Parsed}
    (h : readBlockItems handles n ts = .ok (items, rest)) :
    readNode handles true unindented (n + 1) (.blockSequence :: ts) =
      .ok (.sequence none none items, rest) := by
  simp [readNode, readProperties, h, pure, Except.pure]

theorem readNode_unindented {items : List Parsed}
    (h : readUnindented handles n (.blockEntry :: ts) = .ok (items, rest)) :
    readNode handles true true (n + 1) (.blockEntry :: ts) =
      .ok (.sequence none none items, rest) := by
  simp [readNode, readProperties, h, pure, Except.pure]

theorem readBlockEntries_key (key : Key) {value : Parsed} {entries : List (Parsed × Parsed)}
    {more : List Token} (hv : readBlockField handles (n + 2) ts = .ok (value, more))
    (he : readBlockEntries handles (n + 2) more = .ok (entries, rest)) :
    readBlockEntries handles (n + 3) (key.tokens ++ ts) =
      .ok ((key.value.node, value) :: entries, rest) := by
  have hkey : readBlockField handles (n + 2) (.scalar .plain key.name.toList :: .value :: ts) =
      .ok (key.value.node, .value :: ts) := by
    rw [readBlockField, readNode_scalar] <;> simp [Key.value, Value.node]
  show readBlockEntries handles (n + 3) (.key :: .scalar .plain _ :: .value :: ts) = _
  rw [readBlockEntries]
  simp only [hkey, hv, he, ok_bind]
  rfl

theorem readBlockEntries_end : readBlockEntries handles (n + 1) (.blockEnd :: rest) =
    .ok ([], rest) := by
  simp [readBlockEntries]

theorem readBlockItems_item {item : Parsed} {items : List Parsed} {more : List Token}
    (hi : readNode handles true false n (.blockMapping :: ts) = .ok (item, more))
    (hs : readBlockItems handles n more = .ok (items, rest)) :
    readBlockItems handles (n + 1) (.blockEntry :: .blockMapping :: ts) =
      .ok (item :: items, rest) := by
  simp [readBlockItems, hi, hs, pure, Except.pure]

theorem readBlockItems_end : readBlockItems handles (n + 1) (.blockEnd :: rest) =
    .ok ([], rest) := by
  simp [readBlockItems]

theorem readUnindented_item {item : Parsed} {items : List Parsed} {more : List Token}
    (hi : readNode handles true false n (.blockMapping :: ts) = .ok (item, more))
    (hs : readUnindented handles n more = .ok (items, rest)) :
    readUnindented handles (n + 1) (.blockEntry :: .blockMapping :: ts) =
      .ok (item :: items, rest) := by
  simp [readUnindented, hi, hs, pure, Except.pure]

theorem readUnindented_end {t : Token} (h : EndsField t) :
    readUnindented handles (n + 1) (t :: rest) = .ok ([], t :: rest) := by
  rcases h with rfl | rfl <;> simp [readUnindented]

end

/-- The tokens of a field are read as its value. -/
def Field.ReadsBack (field : Field) : Prop :=
  ∀ handles n t rest, EndsField t → field.tokens.length + 2 ≤ n →
    readBlockField handles n (field.tokens ++ t :: rest) = .ok (field.value.node, t :: rest)

def Mapping.ReadsBack (m : Mapping) : Prop :=
  ∀ handles n rest, m.tokens.length < n →
    readBlockEntries handles n (m.tokens ++ .blockEnd :: rest) =
      .ok (Value.entryNodes m.entries, rest)

/-- The tokens of a sequence are read as its items, whether it is indented or not. -/
def Sequence.ReadsBack (s : Sequence) : Prop :=
  ∀ handles n rest, s.tokens.length ≤ n →
    readBlockItems handles n (s.tokens ++ .blockEnd :: rest) = .ok (Value.nodes s.items, rest) ∧
    ∀ t, EndsField t →
      readUnindented handles n (s.tokens ++ t :: rest) = .ok (Value.nodes s.items, t :: rest)

theorem Field.readsBack_quoted (q : Quoted) : (Field.quoted q).ReadsBack := by
  intro handles n t rest _ hn
  obtain ⟨n, rfl⟩ : ∃ k, n = k + 2 := ⟨n - 2, by omega⟩
  rw [tokens, value, List.singleton_append, readBlockField, readNode_scalar] <;> simp [Value.node]

theorem Field.readsBack_noItems : Field.noItems.ReadsBack := by
  intro handles n t rest _ hn
  obtain ⟨n, rfl⟩ : ∃ k, n = k + 3 := ⟨n - 3, by simp [tokens] at hn; omega⟩
  rw [tokens, value, List.cons_append, List.singleton_append, readBlockField, readNode_noItems] <;>
    simp [Value.node, Value.nodes]

section
variable {m : Mapping} {s : Sequence} {field : Field}

theorem Mapping.ReadsBack.asField (h : m.ReadsBack) (more : Nat) :
    (Field.mapping more m).ReadsBack := by
  intro handles n t rest _ hn
  simp only [Field.tokens, List.length_cons, List.length_append, List.length_nil] at hn
  obtain ⟨n, rfl⟩ : ∃ k, n = k + 2 := ⟨n - 2, by omega⟩
  have hread := h handles n (t :: rest) (by omega)
  simp only [Field.tokens, Field.value, Value.node, List.cons_append, List.append_assoc,
    List.nil_append]
  rw [readBlockField, readNode_mapping hread] <;> simp

theorem Sequence.exists_tokens (s : Sequence) : ∃ ts, s.tokens = .blockEntry :: ts := by
  cases s <;> exact ⟨_, rfl⟩

theorem Sequence.ReadsBack.asField (h : s.ReadsBack) (indent : Nat) :
    (Field.sequence indent s).ReadsBack := by
  intro handles n t rest ht hn
  obtain ⟨ts, hs⟩ := s.exists_tokens
  by_cases hi : indent = 0
  · simp only [Field.tokens, hi, if_true] at hn ⊢
    obtain ⟨n, rfl⟩ : ∃ k, n = k + 2 := ⟨n - 2, by omega⟩
    have hread := (h handles n rest (by omega)).2 t ht
    rw [hs, List.cons_append] at hread ⊢
    rw [readBlockField, readNode_unindented hread] <;> simp [Field.value, Value.node]
  · simp only [Field.tokens, hi, if_false, List.length_cons, List.length_append] at hn ⊢
    obtain ⟨n, rfl⟩ : ∃ k, n = k + 2 := ⟨n - 2, by omega⟩
    have hread := (h handles n (t :: rest) (by omega)).1
    simp only [List.cons_append, List.append_assoc, List.nil_append]
    rw [readBlockField, readNode_sequence hread] <;> simp [Field.value, Value.node]

theorem Field.ReadsBack.last (h : field.ReadsBack) (key : Key) :
    (Mapping.last key field).ReadsBack := by
  intro handles n rest hn
  simp only [Mapping.tokens, List.length_append, Key.tokens, List.length_cons,
    List.length_nil] at hn
  obtain ⟨n, rfl⟩ : ∃ k, n = k + 3 := ⟨n - 3, by omega⟩
  have hread := h handles (n + 2) .blockEnd rest (.inr rfl) (by omega)
  rw [Mapping.tokens, List.append_assoc]
  exact readBlockEntries_key key hread readBlockEntries_end

theorem Field.ReadsBack.more (h : field.ReadsBack) (hm : m.ReadsBack) (key : Key) :
    (Mapping.more key field m).ReadsBack := by
  intro handles n rest hn
  simp only [Mapping.tokens, List.length_append, Key.tokens, List.length_cons,
    List.length_nil] at hn
  obtain ⟨n, rfl⟩ : ∃ k, n = k + 3 := ⟨n - 3, by omega⟩
  have hrest := hm handles (n + 2) rest (by omega)
  obtain ⟨ts, hs⟩ : ∃ ts, m.tokens = .key :: ts := by cases m <;> exact ⟨_, rfl⟩
  have hread := h handles (n + 2) .key (ts ++ .blockEnd :: rest) (.inl rfl) (by omega)
  rw [← List.cons_append, ← hs] at hread
  rw [Mapping.tokens, List.append_assoc, List.append_assoc]
  exact readBlockEntries_key key hread hrest

/-- An item of a sequence is a mapping with a beginning and an end. -/
theorem Mapping.ReadsBack.item (h : m.ReadsBack) (handles : Handles) {n : Nat}
    (hn : m.tokens.length + 2 ≤ n) (rest : List Token) :
    readNode handles true false n (.blockMapping :: (m.tokens ++ .blockEnd :: rest)) =
      .ok ((Value.mapping none m.entries).node, rest) := by
  obtain ⟨n, rfl⟩ : ∃ k, n = k + 1 := ⟨n - 1, by omega⟩
  rw [readNode_mapping (h handles n rest (by omega)), Value.node]

theorem Mapping.ReadsBack.last (h : m.ReadsBack) : (Sequence.last m).ReadsBack := by
  intro handles n rest hn
  simp only [Sequence.tokens, List.length_cons, List.length_append, List.length_nil] at hn
  obtain ⟨n, rfl⟩ : ∃ k, n = k + 2 := ⟨n - 2, by omega⟩
  have hitem := h.item handles (n := n + 1) (by omega)
  simp only [Sequence.tokens, List.cons_append, List.append_assoc, List.nil_append]
  exact ⟨readBlockItems_item (hitem _) readBlockItems_end,
    fun t ht => readUnindented_item (hitem _) (readUnindented_end ht)⟩

theorem Mapping.ReadsBack.more (h : m.ReadsBack) (hs : s.ReadsBack) :
    (Sequence.more m s).ReadsBack := by
  intro handles n rest hn
  simp only [Sequence.tokens, List.length_cons, List.length_append] at hn
  obtain ⟨n, rfl⟩ : ∃ k, n = k + 1 := ⟨n - 1, by omega⟩
  obtain ⟨hindented, hunindented⟩ := hs handles n rest (by omega)
  have hitem := h.item handles (n := n) (by omega)
  simp only [Sequence.tokens, List.cons_append, List.append_assoc]
  exact ⟨readBlockItems_item (hitem _) hindented,
    fun t ht => readUnindented_item (hitem _) (hunindented t ht)⟩

end

mutual

theorem Field.readsBack : ∀ field : Field, field.ReadsBack
  | .quoted q => Field.readsBack_quoted q
  | .noItems => Field.readsBack_noItems
  | .mapping more m => m.readsBack.asField more
  | .sequence indent s => s.readsBack.asField indent

theorem Mapping.readsBack : ∀ m : Mapping, m.ReadsBack
  | .last key field => field.readsBack.last key
  | .more key field rest => field.readsBack.more rest.readsBack key

theorem Sequence.readsBack : ∀ s : Sequence, s.ReadsBack
  | .last item => item.readsBack.last
  | .more item rest => item.readsBack.more rest.readsBack

end

namespace Document

variable (d : Document)

theorem readDocument_tokens :
    readDocument (.blockMapping :: (d.root.tokens ++ [.blockEnd, .streamEnd])) =
      .ok d.value.node := by
  have hread := d.root.readsBack.item defaultHandles
    (n := 2 * (d.root.tokens.length + 3) + 2) (by omega) [.streamEnd]
  have hlength : (.blockMapping :: (d.root.tokens ++ [Token.blockEnd, .streamEnd])).length =
      d.root.tokens.length + 3 := by simp
  rw [readDocument, hlength]
  · simp only [hread, ok_bind]
    rfl
  all_goals simp

/-- A document in block style has the value that is written in it. -/
theorem parse_text (h : d.value.Nests depthLimit) : parse d.text = .ok d.value := by
  rw [parse, d.tokens_text, ok_bind, readDocument_tokens, ok_bind]
  simp only [Value.numberNode_node, h.expand_node, ok_bind]
  rfl

end Document
end Block
end TypeExchange.Yaml
