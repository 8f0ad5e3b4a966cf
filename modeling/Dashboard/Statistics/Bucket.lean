import Dashboard.Content.Basic
import Dashboard.Indexed
import Dashboard.Record.Count
import Dashboard.Request.Query
import Dashboard.Statistics.Period

/-! Buckets of records by time or by name: a timeline leaves out no day or month between its ends. -/

namespace Dashboard

open Calendar (Date)

/-- The counters of all records of one bucket, added up. -/
structure Bucket where
  key : String
  totals : Table Int
  /-- The number of records in the bucket. -/
  size : Nat
deriving DecidableEq

/-- The date on which a record starts. -/
def Record.date (r : Record) : Date :=
  r.start.date

/-- The dates of the earliest and the latest of some records. -/
def dateRange? (records : List Record) : Option (Date × Date) := do
  let dates := records.map Record.date
  pure (← dates.min?, ← dates.max?)

/-- The names of records, each once and in the order of first mention. -/
def distinctNames (records : List Record) : List String :=
  records.foldl (fun names r => if names.contains r.name then names else names ++ [r.name]) []

namespace Period

/-- The bucket that a record falls into. -/
def keyOf (period : Period) (r : Record) : String :=
  (period.dateKey? r.date).getD r.name

/-- The keys of all buckets for some records: by time without gaps, by name in the order of first mention. -/
def keys (period : Period) (records : List Record) : List String :=
  match period with
  | name => distinctNames records
  | span s =>
    match dateRange? records with
    | some (earliest, latest) => s.timeline earliest latest
    | none => []

end Period

/-- The names of all counters of some records, each once and in ascending order. -/
def fieldsIn (records : List Record) : List String :=
  (Table.ofList (records.flatMap fun r => r.counters.keys.map (·, ()))).keys

namespace Bucket

/-- The empty bucket, with a zero for each field. -/
def placeholder (fields : List String) (key : String) : Bucket :=
  { key, totals := .ofList (fields.map (·, 0)), size := 0 }

/-- Whether no record fell into a bucket. -/
def isPlaceholder (bucket : Bucket) : Bool :=
  bucket.size = 0

/-- Adds the counters of a record as signed words, once for each mention of a field. -/
def add (fields : List String) (bucket : Bucket) (r : Record) : Bucket :=
  { bucket with
    totals := fields.foldl (fun totals field =>
      totals.insert field (Word.add ((totals.get? field).getD 0) (r.count field))) bucket.totals
    size := bucket.size + 1 }

/-- The buckets of some records; without any field named, all their counters are added up. -/
def ofRecords (records : List Record) (period : Period) (fields : List String) : List Bucket :=
  let fields := if fields = [] then fieldsIn records else fields
  -- The empty buckets come first, so that a gap in time keeps its zeros.
  let buckets := Indexed.ofKeys (period.keys records) (placeholder fields)
  (records.foldl (fun buckets r => buckets.change (period.keyOf r) (add fields · r)) buckets).items

/-- A bucket as a point with all its sums. -/
def toChart (bucket : Bucket) : Chart :=
  { values := bucket.totals.mapValues Decimal.ofInt }

end Bucket

/-- Notes a record as the best one of its key unless the one noted before counts more of a field. -/
def noteBest (period : Period) (field : String) (best : Table Record) (r : Record) : Table Record :=
  let key := period.keyOf r
  match best.get? key with
  | some current => if current.count field ≤ r.count field then best.insert key r else best
  | none => best.insert key r

/-- For each bucket its record with the greatest count of a field, the latest of several, or none. -/
def maxByDate (records : List Record) (period : Period) (field : String) : List (String × Option Record) :=
  -- In the order of time, the last of several equal records is the latest.
  let best := (Record.oldestFirst records).foldl (noteBest period field) .empty
  (period.keys records).map fun key => (key, best.get? key)

end Dashboard
