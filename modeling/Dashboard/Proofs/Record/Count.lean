import Dashboard.Json.Document
import Dashboard.Proofs.Record.Field
import Dashboard.Proofs.Sample
import Dashboard.Proofs.Table
import Dashboard.Record.Count
import Dashboard.Record.Json

/-! Counters under several spellings of their names: for which records it does not matter how a counter is spelled. -/

namespace Dashboard.Record

open Dashboard.Field (internal)

/-- What is stored under just this name, as it is counted: zero where there is nothing, or something below zero. -/
def storedCount (r : Record) (name : String) : Int :=
  ((r.counters.get? name).map fun value => max value.toInt 0).getD 0

/-- A field that is stored as it is spelled counts what is stored under this spelling. -/
theorem count_of_mem {r : Record} {field : String} (stored : field ∈ r.counters.keys) :
    r.count field = r.storedCount field := by
  obtain ⟨value, found⟩ := Table.mem_keys.1 stored
  simp [count, Table.counter?, storedCount, found]

/-- A field that is not stored as it is spelled counts what is stored under the library's spelling. -/
theorem count_of_not_mem {r : Record} {field : String} (unstored : field ∉ r.counters.keys) :
    r.count field = r.storedCount (internal field) := by
  -- Only the other spelling is looked up then.
  have absent : r.counters.get? field = none := by
    rw [Option.eq_none_iff_forall_ne_some]
    exact fun value found => unstored (Table.mem_keys.2 ⟨value, found⟩)
  unfold count Table.counter? storedCount
  rw [absent]
  cases r.counters.get? (internal field) <;> rfl

/-- Spellings do not compete in a record when each stored value is the one under the library's spelling of its name, or
else all spellings of the name are stored with this value. -/
def SpelledAlike (r : Record) : Prop :=
  ∀ name ∈ r.counters.keys, r.storedCount (internal name) = r.storedCount name ∨
    ∀ other, internal other = internal name → other ∈ r.counters.keys ∧ r.storedCount other = r.storedCount name

/-- Where spellings do not compete, every spelling of a stored counter counts what is stored. -/
theorem SpelledAlike.count_eq {r : Record} (alike : r.SpelledAlike) {name other : String}
    (stored : name ∈ r.counters.keys) (same : internal other = internal name) : r.count other = r.storedCount name := by
  rcases alike name stored with library | all
  · -- The other spelling may be stored, too, but then with a value that competes with neither.
    by_cases otherStored : other ∈ r.counters.keys
    · rw [count_of_mem otherStored]
      rcases alike other otherStored with otherLibrary | otherAll
      · rw [← otherLibrary, same, library]
      · exact (otherAll name same.symm).2.symm
    · rw [count_of_not_mem otherStored, same, library]
  · obtain ⟨otherStored, equal⟩ := all other same
    rw [count_of_mem otherStored, equal]

/-- A record counts the same for all spellings of each counter exactly when they do not compete in it. -/
theorem count_congr_iff (r : Record) :
    (∀ field other, internal field = internal other → r.count field = r.count other) ↔ r.SpelledAlike := by
  constructor
  · intro congr name stored
    -- A spelling that is not stored itself is read under the library's spelling, which then holds the value.
    refine Classical.or_iff_not_imp_left.2 fun notLibrary other same => ?_
    have counted := congr other name same
    rw [count_of_mem stored] at counted
    by_cases otherStored : other ∈ r.counters.keys
    · exact ⟨otherStored, (count_of_mem otherStored).symm.trans counted⟩
    · rw [count_of_not_mem otherStored, same] at counted
      exact absurd counted notLibrary
  · -- Without competition all stored spellings hold one value, and one that is not stored is read from them.
    intro alike field other same
    by_cases stored : field ∈ r.counters.keys
    · rw [count_of_mem stored, alike.count_eq stored same.symm]
    · by_cases otherStored : other ∈ r.counters.keys
      · rw [count_of_mem otherStored, alike.count_eq otherStored same]
      · rw [count_of_not_mem stored, count_of_not_mem otherStored, same]

/-- A record whose counters all have names in the library's spelling. -/
def KeyedByLibrary (r : Record) : Prop :=
  ∀ name ∈ r.counters.keys, internal name = name

/-- Where all names are in the library's spelling, spellings do not compete. -/
theorem KeyedByLibrary.spelledAlike {r : Record} (keyed : r.KeyedByLibrary) : r.SpelledAlike :=
  fun name stored => .inl (by rw [keyed name stored])

/-- A counter is stored under the library's spelling, unless this spelling still has a segment to be left out. -/
theorem KeyedByLibrary.withCounter {r : Record} (keyed : r.KeyedByLibrary) {field : String}
    (settled : internal (internal field) = internal field) (value : Int64) :
    (r.withCounter field value).KeyedByLibrary := by
  -- A name is that of the new counter or was stored before.
  intro name stored
  obtain ⟨kept, found⟩ := Table.mem_keys.1 stored
  have inserted : (r.counters.insert (internal field) value).get? name = some kept := found
  rw [Table.get?_insert] at inserted
  by_cases here : name = internal field
  · rw [here, settled]
  · rw [if_neg here] at inserted
    exact keyed name (Table.mem_keys.2 ⟨kept, inserted⟩)

/-- Stores several counters one after another. -/
def withCounters (r : Record) (counters : List (String × Int64)) : Record :=
  counters.foldl (fun r (field, value) => r.withCounter field value) r

/-- A record that was stored counter by counter under settled names has them in the library's spelling. -/
theorem KeyedByLibrary.withCounters {r : Record} (keyed : r.KeyedByLibrary) {counters : List (String × Int64)}
    (settled : ∀ counter ∈ counters, internal (internal counter.1) = internal counter.1) :
    (r.withCounters counters).KeyedByLibrary := by
  -- Induction on the counters, each of which keeps the names as they are.
  induction counters generalizing r with
  | nil => exact keyed
  | cons counter rest ih =>
    obtain ⟨first, others⟩ := List.forall_mem_cons.1 settled
    exact ih (keyed.withCounter first counter.2) others

/-- Spelling does not matter to a record exactly when the spellings under which its counters are stored do not compete.
So it is where all of them are stored under the library's spelling, and so with a record whose counters were stored one
after another under names with at most one segment to be left out. -/
theorem count_spelling (r : Record) :
    ((∀ field other, internal field = internal other → r.count field = r.count other) ↔ r.SpelledAlike) ∧
    (r.KeyedByLibrary → r.SpelledAlike) ∧
    ∀ counters : List (String × Int64), r.counters = .empty →
      (∀ counter ∈ counters, internal (internal counter.1) = internal counter.1) →
      (r.withCounters counters).SpelledAlike := by
  refine ⟨r.count_congr_iff, KeyedByLibrary.spelledAlike, fun counters bare settled => ?_⟩
  -- At the start nothing is stored, under whatever name.
  have keyed : r.KeyedByLibrary := by
    intro name stored
    rw [bare] at stored
    cases stored
  exact (keyed.withCounters settled).spelledAlike

/-- A launch that was stored counter by counter counts its executions under every spelling. -/
theorem count_spelling_leapRun : ∀ field, internal field = Field.total → Sample.leapRun.count field = 5 := by
  -- The counters are those of the launch, stored one after another.
  have alike : Sample.leapRun.SpelledAlike :=
    (count_spelling (Sample.run "1" "Smoke" (Sample.midnight Sample.leapDay))).2.2
      [(Field.total, 5), (Field.productBug, 1), (Field.toInvestigate, 2)] rfl (by decide)
  intro field same
  exact (((count_spelling Sample.leapRun).1.2 alike) field Field.total same).trans (by decide)

/-- A launch with a counter under a consumer's spelling. -/
def dollarRun : Record :=
  { Sample.run "1" "Smoke" (Sample.midnight Sample.leapDay) with
    counters := .ofList [("statistics$executions$total", 5)] }

/-- A counter that a file spells with dollar signs is not the one that is read under the library's spelling, and of a
name with two segments to be left out the one that is left is taken for a part of the name. -/
theorem count_ne_of_dollars :
    (Json.read? ("\x7b\"id\": \"1\", \"name\": \"Smoke\", \"startTime\": \"2024-02-29T00:00:00Z\", " ++
      "\"counters\": \x7b\"statistics$executions$total\": 5\x7d\x7d")).bind ofJson? = some dollarRun ∧
    internal "statistics$executions$total" = internal Field.total ∧
    dollarRun.count "statistics$executions$total" = 5 ∧ dollarRun.count Field.total = 0 ∧
    internal "statistics.x" = internal "x" ∧
    (dollarRun.withCounter "statistics$statistics$x" 7).count "statistics.x" = 7 ∧
    (dollarRun.withCounter "statistics$statistics$x" 7).count "x" = 0 := by
  decide +kernel

end Dashboard.Record
