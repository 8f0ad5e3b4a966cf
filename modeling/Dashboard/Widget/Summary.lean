import Dashboard.Request.Query
import Dashboard.Statistics.Share
import Dashboard.Widget.Job

/-! Summaries of a batch of launches: sums, passing rates, durations, and the newest launches compared. -/

namespace Dashboard.Summary

/-- The sum of each counter asked for over all launches. -/
def overall : Strategy := fun job => do
  let fields ← job.requiredFields
  if job.records = [] then return .empty
  let point := fields.foldl (fun point field => point.setInt field (sumOver job.records field)) ({} : Chart)
  return .result [point]

/-- How many executions of all launches passed, of how many, and the rate of the two. -/
def passingRate : Strategy := fun job => do
  if job.records = [] then return .empty
  let passed := sumOver job.records Field.passed
  let total := sumOver job.records Field.total
  return .result [Chart.setAll {} [
    ("passed", Decimal.ofInt passed),
    ("total", Decimal.ofInt total),
    (Share.passingRateKey, Share.passingRateText passed total)]]

/-- The point of a launch that has ended, with its duration, its end and, if it has one, its status. -/
def durationPoint? (r : Record) : Option Chart := do
  let finish ← r.finish
  let duration ← r.duration?
  let point := ((Chart.ofRecord r).setInt "duration" duration).setInt "endTime" finish.millis
  pure (match r.status with
    | some status => point.set "status" status
    | none => point)

/-- The durations of all launches that have ended. -/
def durations : Strategy := fun job => do
  let series := job.records.filterMap durationPoint?
  -- A batch of launches that are all in progress has no content either.
  if series = [] then return .empty
  return .result series

/-- The shares of the newest launches, from the oldest of them to the newest. -/
def comparison : Strategy := fun job => do
  if job.records = [] then return .empty
  let newest := (Record.newestFirst job.records).take job.config.comparisonQuantity.toNat
  let point (r : Record) := (Chart.ofRecord r).setAll (Share.comparison r.count)
  return .result (newest.reverse.map point)

end Dashboard.Summary
