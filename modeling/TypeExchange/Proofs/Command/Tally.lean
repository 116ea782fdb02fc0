import TypeExchange.Command.Outcome
import TypeExchange.Proofs.Json.Text
import TypeExchange.Proofs.Table.Counting

/-! What a table shows of its pairs: in order, each with the number of its rules. All that is shown
of a table that was made step by step follows from the steps, whatever the order of its entries. -/
namespace TypeExchange

/-- The count of a pair as it is read, with the members in the order of their keys. -/
def countJson (c : SystemPair × Nat) : Json :=
  .object [("from", .string c.1.source.name), ("rules", .integer c.2),
    ("to", .string c.1.target.name)]

section
variable {counts : List (SystemPair × Nat)}

theorem readsBack_count (bound : Nat) (pair : SystemPair) {n : Nat} (hn : n < 2 ^ 64) :
    Json.ReadsBack bound (.object [("from", .string pair.source.name),
      ("to", .string pair.target.name), ("rules", .integer n)]) :=
  Json.readsBack_object (Json.readsBack_string bound _)
    (Json.membersReadBack_cons (Json.readsBack_string bound _)
      (Json.membersReadBack_cons (Json.readsBack_natural bound hn)
        (Json.membersReadBack_nil bound)))

theorem readsBack_tallyJson (bound : Nat) (h : ∀ c ∈ counts, c.2 < 2 ^ 64) :
    Json.ReadsBack bound (tallyJson counts) := by
  cases counts with
  | nil => exact Json.readsBack_nil bound
  | cons c counts =>
    obtain ⟨hc, hcounts⟩ := List.forall_mem_cons.mp h
    refine Json.readsBack_array ?_ (readsBack_count bound c.1 hc)
      (Json.itemsReadBack_of_forall ?_)
    · intro depth
      exact ⟨_, _, Json.toList_prettyAt_object .., rfl, by decide⟩
    · rw [List.forall_mem_map]
      exact fun d hd => readsBack_count bound d.1 (hcounts d hd)

theorem sorted_tallyJson (counts : List (SystemPair × Nat)) :
    (tallyJson counts).sorted = .array (counts.map countJson) := by
  rw [tallyJson, Json.sorted, Json.sortedItems_eq_map, List.map_map]
  rfl

/-- What is printed of the counts of a table is read as these counts. -/
theorem parse?_tallyJson (h : ∀ c ∈ counts, c.2 < 2 ^ 64) :
    Json.parse? ((tallyJson counts).pretty ++ "\n") = some (.array (counts.map countJson)) := by
  rw [(readsBack_tallyJson _ h).parse?_pretty rfl, sorted_tallyJson]

end

namespace Table

/-- Whatever goes through the pairs of a table lists these, with these numbers of rules. The numbers
in JSON are read as they are if they have 64 bits at most. -/
structure Shows (t : Table) (counts : List (SystemPair × Nat)) : Prop where
  pairs : t.pairs = counts.map Prod.fst
  keys : (t.entries.map Prod.fst).mergeSort SystemPair.notAfter = counts.map Prod.fst
  hasPair : ∀ p, t.hasPair p = true ↔ p ∈ counts.map Prod.fst
  found : ∀ p, (∃ rules, t.rules p = .ok rules) ↔ p ∈ counts.map Prod.fst
  rules : ∀ c ∈ counts, ∃ rules, t.rules c.1 = .ok rules ∧ rules.length = c.2
  size : t.size = (counts.map Prod.snd).sum
  inspected : t.inspect =
    "\x7b" ++ String.intercalate ", " (counts.map fun c => s!"{c.1.text}: {c.2}") ++ "\x7d"
  printed : Command.pairs.output t false =
    .ok (String.join (counts.map fun c => s!"{c.1.text} ({c.2} rules)\n"))
  printedJson : Command.pairs.output t true = .ok ((tallyJson counts).pretty ++ "\n")
  read : (∀ c ∈ counts, c.2 < 2 ^ 64) → ∃ text, Command.pairs.output t true = .ok text ∧
    Json.parse? text = some (.array (counts.map countJson))

/-- Every pair has rules to count. -/
theorem tally_eq_counts (t : Table) : t.tally = .ok t.counts := by
  refine mapM_eq_ok_map ?_
  intro p hp
  obtain ⟨rules, hr⟩ := Option.isSome_iff_exists.mp (mem_pairs.mp hp)
  simp only [Table.rules, hr, Option.getD_some]
  rfl

theorem output_pairs (t : Table) (json : Bool) : Command.pairs.output t json =
    .ok (if json then (tallyJson t.counts).pretty ++ "\n" else tallyText t.counts) := by
  rw [Command.output, Command.run, Logged.bind_result, Logged.lift_result, tally_eq_counts]
  rfl

theorem shows_counts (t : Table) : t.Shows t.counts := by
  have hmem : ∀ p, t.hasPair p = true ↔ p ∈ t.counts.map Prod.fst := by
    intro p
    rw [map_fst_counts, mem_pairs]
  exact
    { pairs := t.map_fst_counts.symm
      keys := by rw [map_fst_counts, mergeSort_keys]
      hasPair := hmem
      found := fun p => hasPair_iff.symm.trans (hmem p)
      rules := fun _ => exists_rules_of_mem_counts
      size := t.sum_counts.symm
      inspected := rfl
      printed := t.output_pairs false
      printedJson := t.output_pairs true
      read := fun h => ⟨_, t.output_pairs true, parse?_tallyJson h⟩ }

/-- In whatever order the entries of a table stand, all that is shown of it lists the pairs that the
steps name, even those for which they pass no rules, in ascending order and with the numbers of
rules that they pass. Printing the pairs never fails. -/
theorem shows_tallies {steps : List Step} {t : Table}
    (h : t.entries.Perm (ofSteps steps).entries) :
    ∃ counts, Tallies steps counts ∧ t.Shows counts ∧
      t.size = (steps.map fun s => s.passed.length).sum ∧ (t.isEmpty = true ↔ steps = []) := by
  refine ⟨t.counts, ?_, t.shows_counts, ?_, ?_⟩
  · rw [counts_of_perm h]
    exact tallies_counts steps
  · rw [size_of_perm h, size_ofSteps]
  · rw [isEmpty, h.isEmpty_eq]
    exact isEmpty_ofSteps

/-- The same table with its entries the other way round. -/
def turned (t : Table) : Table :=
  ⟨t.entries.reverse, by
    rw [List.map_reverse]
    exact (List.reverse_perm _).symm.nodup t.distinct⟩

/-- Two steps for one pair, with another between them that passes no rules. -/
def scattered : List Step := [
  .rule ⟨.value, .abi⟩ ⟨.literal "String", .literal "string", .call "fromString", none⟩,
  .rules ⟨.abi, .runtime⟩ [],
  .rules ⟨.value, .abi⟩ [⟨.literal "Boolean", .literal "bool", .call "fromBoolean", none⟩]]

theorem shows_tallies_turned :
    (ofSteps scattered).turned.entries.Perm (ofSteps scattered).entries ∧
    ∃ counts, Tallies scattered counts ∧ (ofSteps scattered).turned.Shows counts ∧
      (ofSteps scattered).turned.size = (scattered.map fun s => s.passed.length).sum ∧
      ((ofSteps scattered).turned.isEmpty = true ↔ scattered = []) :=
  ⟨List.reverse_perm _, shows_tallies (List.reverse_perm _)⟩

example : Command.pairs.output (ofSteps scattered).turned false =
    .ok "abi → runtime (0 rules)\nvalue → abi (2 rules)\n" := by decide +kernel

end Table
end TypeExchange
