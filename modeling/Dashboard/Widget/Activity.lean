import Dashboard.Statistics.Group
import Dashboard.Statistics.Share
import Dashboard.Widget.Job

/-! The activity of a project: launches and defects by calendar interval, and totals by launch name. -/

namespace Dashboard.Activity

open Calendar (Date Span)

/-- The defects that are counted, with the names under which points carry their sums. -/
def defectOutputs : List (String × String) := [
  ("productBug", Field.productBug),
  ("systemIssue", Field.systemIssue),
  ("automationBug", Field.automationBug),
  ("toInvestigate", Field.toInvestigate)]

/-- A date of an interval: that of its first record, or else the one that its label names. -/
def groupDate? (span : Span) (label : String) (records : List Record) : Option Date :=
  match records with
  | r :: _ => some r.date
  | [] => span.ofIntervalLabel? label

/-- The point of an interval with its first and last day. -/
def boundedPoint (span : Span) (point : Chart) (date : Date) : Except Failure Chart :=
  match span.intervalBounds date with
  | .error missing => .error (.cutWeek missing)
  | .ok (first, last) =>
    let point := point.set "start" first.dayLabel
    .ok (match last with
      | some last => point.set "end" last.dayLabel
      | none => point)

/-- The point of an interval with the number of its launches. -/
def quantityPoint (span : Span) (label : String) (records : List Record) : Except Failure Chart :=
  let point := Chart.setAll { name := some "Number of launches" } [
    ("count", Decimal.ofNat records.length),
    ("interval", span.name)]
  match groupDate? span label records with
  | some date => boundedPoint span point date
  | none => .ok point

/-- The number of launches by calendar interval, without gaps. -/
def quantity : Strategy := fun job => do
  let span ← job.interval
  if job.records = [] then return .empty
  let groups ← RecordGroups.byInterval job.records span
  let points ← groups.entries.mapM fun (label, group) => do
    pure (label, ← quantityPoint span label group)
  return .ofPoints points

/-- The point of an interval with the sums of its defects. -/
def defectPoint (records : List Record) : Chart :=
  Chart.setAll {} (defectOutputs.map fun (output, field) => (output, Decimal.ofInt (sumOver records field)))

/-- The sums of defects by calendar interval, without gaps. -/
def defects : Strategy := fun job => do
  let span ← job.interval
  if job.records = [] then return .empty
  let groups ← RecordGroups.byInterval job.records span
  return .ofPoints (groups.entries.map fun (label, group) => (label, defectPoint group))

/-- The point of all launches of one name, with the least, the greatest and the average total. -/
def namePoint (name : String) (records : List Record) : Chart :=
  let totals := records.map (·.count Field.total)
  Chart.setAll { name := some name } [
    ("min", Decimal.ofInt (totals.min?.getD 0)),
    ("max", Decimal.ofInt (totals.max?.getD 0)),
    ("avg", Share.average totals)]

/-- The totals by launch name, in the order of first mention. -/
def unique : Strategy := fun job => do
  if job.records = [] then return .empty
  return .ofPoints ((RecordGroups.byName job.records).entries.map fun (name, group) => (name, namePoint name group))

end Dashboard.Activity
