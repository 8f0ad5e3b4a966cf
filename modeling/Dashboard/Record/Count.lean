import Dashboard.Number.Word
import Dashboard.Record.Basic

/-! Reading counters by name, off a record and off a table of sums. -/

namespace Dashboard

/-- The value under a name as it is spelled, or else under the library's spelling of it. -/
def Table.counter? {α : Type} (t : Table α) (field : String) : Option α :=
  match t.get? field with
  | some value => some value
  | none => t.get? (Field.internal field)

/-- A counter of a record; an absent one is zero, and so is a negative one, which cannot be right. -/
def Record.count (r : Record) (field : String) : Int :=
  match r.counters.counter? field with
  | some value => max value.toInt 0
  | none => 0

/-- A sum in a table; an absent one is zero. -/
def Table.count (t : Table Int) (field : String) : Int :=
  (t.counter? field).getD 0

/-- The sum of some counts, which are added as signed words from the first to the last. -/
def sumOf (counts : List Int) : Int :=
  counts.foldl Word.add 0

/-- The sum of several counters. -/
def sumCounts (count : String → Int) (fields : List String) : Int :=
  sumOf (fields.map count)

/-- The sum of one counter over several records. -/
def sumOver (records : List Record) (field : String) : Int :=
  sumOf (records.map (·.count field))

end Dashboard
