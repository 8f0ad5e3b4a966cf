import Dashboard.Statistics.Bucket
import Dashboard.Statistics.Share
import Dashboard.Widget.Job

/-! Trends of counters and of shares, by launch or along a timeline. -/

namespace Dashboard.Trend

open Calendar (Span)

/-- The point of a record with the counters asked for. -/
def recordPoint (fields : List String) (r : Record) : Chart :=
  fields.foldl (fun point field => point.setInt field (r.count field)) (.ofRecord r)

/-- One group for each point of a timeline, made of its bucket. -/
def alongTimeline (point : Bucket → Chart) (span : Span) (fields : List String) (records : List Record) : Content :=
  .ofPoints ((Bucket.ofRecords records (.span span) fields).map fun bucket => (bucket.key, point bucket))

/-- Counters by launch, or their sums along a timeline. -/
def counters (timeline : Option Span) (fields : List String) (records : List Record) : Content :=
  match timeline with
  | some span => alongTimeline Bucket.toChart span fields records
  | none => .result (records.map (recordPoint fields))

/-- The trend of the counters asked for, of which there must be some. -/
def statistics : Strategy := fun job => do
  let fields ← job.requiredFields
  let timeline ← job.timeline?
  if job.records = [] then return .empty
  return counters timeline fields job.records

/-- The trend of the counters asked for, or of all counters of executions and defects. -/
def launches : Strategy := fun job => do
  let asked ← job.contentFields
  let fields := if asked = [] then Field.executions ++ Field.defects else asked
  let timeline ← job.timeline?
  if job.records = [] then return .empty
  return counters timeline fields job.records

/-- The counters that say how far failures have been looked into. -/
def investigationFields : List String :=
  Share.Investigation.decidedFields ++ [Field.toInvestigate]

/-- The shares of failures that have and have not been looked into. -/
def investigated : Strategy := fun job => do
  let timeline ← job.timeline?
  if job.records = [] then return .empty
  return match timeline with
    | some span =>
      let point (bucket : Bucket) := Chart.setAll {} (Share.Investigation.ofCounts bucket.totals.count).values
      alongTimeline point span investigationFields job.records
    | none =>
      let point (r : Record) := (Chart.ofRecord r).setAll (Share.Investigation.ofCounts r.count).values
      .result (job.records.map point)

/-- The share of executions that did not pass, by launch. -/
def notPassed : Strategy := fun job => do
  if job.records = [] then return .empty
  let point (r : Record) := (Chart.ofRecord r).set Share.notPassedKey (Share.notPassed r.count)
  return .result (job.records.map point)

end Dashboard.Trend
