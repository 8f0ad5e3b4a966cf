import Dashboard.Statistics.Bucket
import Dashboard.Statistics.Delta
import Dashboard.Widget.Job

/-! The growth of the number of test cases. -/

namespace Dashboard.Cases

/-- The point of a record with its total; where there is no record the total is zero. -/
def totalPoint (field : String) : Option Record → Chart
  | some r => (Chart.ofRecord r).setInt field (r.count field)
  | none => Chart.setInt {} field 0

/-- The counter whose growth is shown: the first one asked for, or all executions. -/
def totalField (fields : List String) : String :=
  fields.head?.getD Field.total

/-- The total and its change by launch, or along a timeline by the launch with the greatest total of each point. -/
def trend : Strategy := fun job => do
  job.requireMetadata
  let field := totalField (← job.contentFields)
  let timeline ← job.timeline?
  if job.records = [] then return .empty
  return match timeline with
    | none =>
      let series := job.records.map fun r => totalPoint field (some r)
      .result (Delta.annotate series field job.request.sort.direction)
    | some span =>
      -- The changes are those of the totals shown, so they are taken after the choice of launches.
      let best := maxByDate job.records (.span span) field
      let series := best.map fun (_, r) => totalPoint field r
      .ofPoints ((best.map (·.1)).zip (Delta.annotateTimeline series field job.request.sort.direction))

end Dashboard.Cases
