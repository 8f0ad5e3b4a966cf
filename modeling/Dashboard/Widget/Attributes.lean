import Dashboard.Statistics.Group
import Dashboard.Statistics.Share
import Dashboard.Widget.Job

/-! Launches by the values of an attribute: a cumulative trend over builds, and a health check of components. -/

namespace Dashboard.Attributes

/-- Puts a record in the place of an earlier one of its name unless that one started later, or else at the end. -/
def keepLatest (latest : Indexed Record) (r : Record) : Indexed Record :=
  -- Of two launches that started together the later one in the batch counts.
  latest.upsert r.name (fun kept => if kept.start ≤ r.start then r else kept) r

/-- The latest record of each name, in the order in which the names are first mentioned. -/
def latestPerName (records : List Record) : List Record :=
  (records.foldl keepLatest .empty).items

/-- The point of an attribute's value, with the sums over the latest launch of each name. -/
def valuePoint (fields : List String) (value : String) (records : List Record) : Chart :=
  let latest := latestPerName records
  fields.foldl (fun point field => point.setInt field (sumOver latest field)) { name := some value }

/-- The sums of the counters asked for by the values of an attribute, from the oldest value on. -/
def cumulative : Strategy := fun job => do
  let key ← job.required Widget.attributeOption
  let fields ← job.requiredFields
  if job.records = [] then return .empty
  let groups := RecordGroups.byAttribute (Record.oldestFirst job.records) key
  return .ofPoints (groups.entries.map fun (value, group) => (value, valuePoint fields value group))

/-- The values of some launches together: how many executions passed, of how many, and the rate. -/
def healthRow (name : Option String) (records : List Record) : Chart :=
  let passed := sumOver records Field.passed
  let total := sumOver records Field.total
  Chart.setAll { name } [
    (Field.passed, Decimal.ofInt passed),
    (Field.total, Decimal.ofInt total),
    (Share.passingRateKey, Share.passingRateText passed total)]

/-- The key of the row for all launches together. -/
def totalKey : String := "total"

/-- A row for each value of an attribute, and one for all launches that carry it. -/
def health : Strategy := fun job => do
  let key ← job.required Widget.healthOption
  if job.records = [] then return .empty
  let groups := RecordGroups.byAttribute job.records key
  if groups.isEmpty then return .empty
  let rows := groups.entries.map fun (value, group) => healthRow (some value) group
  let all := groups.entries.flatMap (·.2)
  return (Content.result rows).insert totalKey [healthRow none all]

end Dashboard.Attributes
