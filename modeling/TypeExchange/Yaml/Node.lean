import TypeExchange.Yaml.Cursor
import TypeExchange.Yaml.Token

/-! The tree of nodes that the tokens of a document describe. -/
namespace TypeExchange.Yaml

/-- A node of a document. Anchors and aliases are of type `α`. -/
inductive Node (α : Type) where
  | alias (target : α)
  | scalar (anchor : Option α) (tag : Option Tag) (style : Style) (text : List Char)
  | sequence (anchor : Option α) (tag : Option Tag) (items : List (Node α))
  | mapping (anchor : Option α) (tag : Option Tag) (entries : List (Node α × Node α))
  deriving Inhabited, Repr

abbrev Parsed := Node (List Char)

/-- The node of a place where nothing is written. -/
def nothing : Parsed := .scalar none none .plain []

/-- The prefixes that the handles of tags stand for. -/
abbrev Handles := List (List Char × Tag)

def defaultHandles : Handles :=
  [(['!'], [Tag.mark]), (['!', '!'], Tag.ofString "tag:yaml.org,2002:")]

structure Properties where
  anchor : Option (List Char)
  tag : Option Tag

def wholeTag (handles : Handles) (handle : List Char) (suffix : Tag) : Except Fault Tag :=
  if handle = [] then .ok suffix
  else match handles.lookup handle with
    | some start => .ok (start ++ suffix)
    | none => .error .tag

/-- The anchor and the tag of a node, in either order. -/
def readProperties (handles : Handles) :
    List Token → Except Fault (Properties × List Token)
  | .anchor name :: .tag handle suffix :: rest => do
    return (⟨some name, some (← wholeTag handles handle suffix)⟩, rest)
  | .anchor name :: rest => .ok (⟨some name, none⟩, rest)
  | .tag handle suffix :: .anchor name :: rest => do
    return (⟨some name, some (← wholeTag handles handle suffix)⟩, rest)
  | .tag handle suffix :: rest => do
    return (⟨none, some (← wholeTag handles handle suffix)⟩, rest)
  | rest => .ok (⟨none, none⟩, rest)

mutual

/-- A node and the tokens after it. Block collections are read only where `block` is set, and a
sequence on the indentation of its mapping only where `unindented` is. -/
def readNode (handles : Handles) (block unindented : Bool) :
    Nat → List Token → Except Fault (Parsed × List Token)
  | 0, _ => .error .token
  | n + 1, ts =>
    match ts with
    | .alias name :: rest => .ok (.alias name, rest)
    | _ => do
      let (p, ts) ← readProperties handles ts
      match ts with
      | .blockEntry :: rest =>
        if unindented then
          let (items, rest) ← readUnindented handles n (.blockEntry :: rest)
          return (.sequence p.anchor p.tag items, rest)
        else readEmpty p ts
      | .scalar style text :: rest =>
        return (.scalar p.anchor p.tag style text, rest)
      | .flowSequence :: rest =>
        let (items, rest) ← readFlowItems handles true n rest
        return (.sequence p.anchor p.tag items, rest)
      | .flowMapping :: rest =>
        let (entries, rest) ← readFlowEntries handles true n rest
        return (.mapping p.anchor p.tag entries, rest)
      | .blockSequence :: rest =>
        if block then
          let (items, rest) ← readBlockItems handles n rest
          return (.sequence p.anchor p.tag items, rest)
        else readEmpty p ts
      | .blockMapping :: rest =>
        if block then
          let (entries, rest) ← readBlockEntries handles n rest
          return (.mapping p.anchor p.tag entries, rest)
        else readEmpty p ts
      | _ => readEmpty p ts

/-- An anchor or a tag may stand without a node. -/
def readEmpty (p : Properties) (ts : List Token) : Except Fault (Parsed × List Token) :=
  if p.anchor.isSome ∨ p.tag.isSome then .ok (.scalar p.anchor p.tag .plain [], ts)
  else .error .token

/-- The items of a block sequence up to its end. -/
def readBlockItems (handles : Handles) :
    Nat → List Token → Except Fault (List Parsed × List Token)
  | 0, _ => .error .token
  | n + 1, ts =>
    match ts with
    | .blockEntry :: rest => do
      let (item, rest) ← match rest with
        | .blockEntry :: _ | .blockEnd :: _ => pure (nothing, rest)
        | _ => readNode handles true false n rest
      let (items, rest) ← readBlockItems handles n rest
      return (item :: items, rest)
    | .blockEnd :: rest => .ok ([], rest)
    | _ => .error .token

/-- The items of a sequence that has no indentation of its own. -/
def readUnindented (handles : Handles) :
    Nat → List Token → Except Fault (List Parsed × List Token)
  | 0, _ => .error .token
  | n + 1, ts =>
    match ts with
    | .blockEntry :: rest => do
      let (item, rest) ← match rest with
        | .blockEntry :: _ | .key :: _ | .value :: _ | .blockEnd :: _ => pure (nothing, rest)
        | _ => readNode handles true false n rest
      let (items, rest) ← readUnindented handles n rest
      return (item :: items, rest)
    | _ => .ok ([], ts)

/-- The entries of a block mapping up to its end. -/
def readBlockEntries (handles : Handles) :
    Nat → List Token → Except Fault (List (Parsed × Parsed) × List Token)
  | 0, _ => .error .token
  | n + 1, ts =>
    match ts with
    | .key :: rest => do
      let (key, rest) ← readBlockField handles n rest
      let (value, rest) ← match rest with
        | .value :: rest => readBlockField handles n rest
        | _ => pure (nothing, rest)
      let (entries, rest) ← readBlockEntries handles n rest
      return ((key, value) :: entries, rest)
    | .blockEnd :: rest => .ok ([], rest)
    | _ => .error .token

/-- A key or a value of a block mapping, which may be missing. -/
def readBlockField (handles : Handles) :
    Nat → List Token → Except Fault (Parsed × List Token)
  | 0, _ => .error .token
  | n + 1, ts =>
    match ts with
    | .key :: _ | .value :: _ | .blockEnd :: _ => .ok (nothing, ts)
    | _ => readNode handles true true n ts

/-- The items of a flow sequence up to its bracket. All but the first stand behind a comma. -/
def readFlowItems (handles : Handles) (first : Bool) :
    Nat → List Token → Except Fault (List Parsed × List Token)
  | 0, _ => .error .token
  | n + 1, ts =>
    match ts with
    | .flowSequenceEnd :: rest => .ok ([], rest)
    | _ => do
      let ts ← match first, ts with
        | true, _ => pure ts
        | false, .flowEntry :: rest => pure rest
        | false, _ => .error .token
      match ts with
      | .flowSequenceEnd :: rest => return ([], rest)
      | .key :: rest =>
        let (item, rest) ← readFlowPair handles n rest
        let (items, rest) ← readFlowItems handles false n rest
        return (item :: items, rest)
      | _ =>
        let (item, rest) ← readNode handles false false n ts
        let (items, rest) ← readFlowItems handles false n rest
        return (item :: items, rest)

/-- A single pair as an item of a flow sequence. Where its key is missing, the token in the place
of the key is passed over. -/
def readFlowPair (handles : Handles) :
    Nat → List Token → Except Fault (Parsed × List Token)
  | 0, _ => .error .token
  | n + 1, ts => do
    let (key, rest) ← match ts with
      | .value :: rest | .flowEntry :: rest | .flowSequenceEnd :: rest => pure (nothing, rest)
      | _ => readNode handles false false n ts
    let (value, rest) ← match rest with
      | .value :: .flowEntry :: rest => pure (nothing, .flowEntry :: rest)
      | .value :: .flowSequenceEnd :: rest => pure (nothing, .flowSequenceEnd :: rest)
      | .value :: rest => readNode handles false false n rest
      | _ => pure (nothing, rest)
    return (.mapping none none [(key, value)], rest)

/-- The entries of a flow mapping up to its brace. All but the first stand behind a comma. -/
def readFlowEntries (handles : Handles) (first : Bool) :
    Nat → List Token → Except Fault (List (Parsed × Parsed) × List Token)
  | 0, _ => .error .token
  | n + 1, ts =>
    match ts with
    | .flowMappingEnd :: rest => .ok ([], rest)
    | _ => do
      let ts ← match first, ts with
        | true, _ => pure ts
        | false, .flowEntry :: rest => pure rest
        | false, _ => .error .token
      match ts with
      | .flowMappingEnd :: rest => return ([], rest)
      | .key :: rest =>
        let (key, rest) ← match rest with
          | .value :: _ | .flowEntry :: _ | .flowMappingEnd :: _ => pure (nothing, rest)
          | _ => readNode handles false false n rest
        let (value, rest) ← match rest with
          | .value :: .flowEntry :: rest => pure (nothing, .flowEntry :: rest)
          | .value :: .flowMappingEnd :: rest => pure (nothing, .flowMappingEnd :: rest)
          | .value :: rest => readNode handles false false n rest
          | _ => pure (nothing, rest)
        let (entries, rest) ← readFlowEntries handles false n rest
        return ((key, value) :: entries, rest)
      | _ =>
        let (key, rest) ← readNode handles false false n ts
        let (entries, rest) ← readFlowEntries handles false n rest
        return ((key, nothing) :: entries, rest)

end

/-- The directives before a document. The version is 1.1 or 1.2 and comes once, as does each
handle. Handles that are not declared keep their prefixes. -/
def readDirectives (versioned : Bool) (handles : Handles) :
    List Token → Except Fault (Handles × List Token)
  | .version major minor :: rest =>
    if versioned ∨ major ≠ 1 ∨ (minor ≠ 1 ∧ minor ≠ 2) then .error .version
    else readDirectives true handles rest
  | .tagDirective handle start :: rest =>
    if (handles.lookup handle).isSome then .error .directive
    else readDirectives versioned (handles ++ [(handle, start)]) rest
  | rest => .ok (handles ++ defaultHandles, rest)

/-- Whether no node can begin with this token. -/
def endsContent : List Token → Bool
  | [] => true
  | t :: _ => match t with
    | .version .. | .tagDirective .. | .documentStart | .documentEnd | .streamEnd => true
    | _ => false

/-- The only document of a text: its directives and its mark may be missing. -/
def readDocument (ts : List Token) : Except Fault Parsed := do
  let (root, rest) ← match ts with
    | .streamEnd :: _ => .error .empty
    | .version .. :: _ | .tagDirective .. :: _ | .documentStart :: _ => do
      let (handles, rest) ← readDirectives false [] ts
      match rest with
      | .documentStart :: rest =>
        if endsContent rest then pure (nothing, rest)
        else readNode handles true false (2 * rest.length + 2) rest
      | _ => .error .token
    | _ => readNode defaultHandles true false (2 * ts.length + 2) ts
  match rest.dropWhile (· == .documentEnd) with
  | [.streamEnd] => return root
  | _ => .error .moreDocuments

end TypeExchange.Yaml
