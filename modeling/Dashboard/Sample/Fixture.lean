import Dashboard.Record.Basic
import Dashboard.Number.Decimal

/-! Sample launches and test items for examples and tests. -/

namespace Dashboard.Sample

open Calendar (Date Moment)

/-- Why a sample cannot be made. -/
inductive Problem where
  /-- The date or the hour does not exist. -/
  | noSuchTime
  /-- The calendar ends before the last of the days asked for. -/
  | pastCalendar
deriving DecidableEq

/-- The text shown for a problem. -/
def Problem.message : Problem → String
  | noSuchTime => "Invalid fixture date"
  | pastCalendar => "`DateTime + TimeDelta` overflowed"

/-- A full hour of a date. -/
def atHour (year : Int) (month day hour : Nat) : Except Problem Moment :=
  match (Date.of? year month day).bind (Moment.of? · (hour * 3600) 0) with
  | some time => .ok time
  | none => .error .noSuchTime

/-- Eight in the morning of a date. -/
def atMorning (year : Int) (month day : Nat) : Except Problem Moment :=
  atHour year month day 8

/-- The same time of day a number of days later. -/
def daysAfter (start : Moment) (days : Nat) : Except Problem Moment :=
  match start.laterDays? days with
  | some time => .ok time
  | none => .error .pastCalendar

/-- A launch without counters. -/
def run (id name : String) (start : Moment) : Record :=
  { id, name, start }

/-- A launch with counters of executions; the total is the sum of the other three. -/
def runWithExecutions (id name : String) (start : Moment) (passed failed skipped : Int64) : Record :=
  (run id name start)
    |>.withCounter Field.total (passed + failed + skipped)
    |>.withCounter Field.passed passed
    |>.withCounter Field.failed failed
    |>.withCounter Field.skipped skipped

/-- A test item with one history entry a day from the first of 2024 on; its name is its id as well. -/
def historyItem (name : String) (statuses : List String) : Except Problem Record := do
  let first ← atMorning 2024 1 1
  let entries ← statuses.zipIdx.mapM fun (status, day) => do
    pure ({ status, time := ← daysAfter first day } : StatusEntry)
  pure { run name name first with history := entries }

/-- One launch a day with growing totals, newest first. -/
def dailyRuns (name : String) (start : Moment) (days : Nat) : Except Problem (List Record) := do
  -- Where the last day exists, all days before it do.
  let _ ← daysAfter start (days - 1)
  (List.range days).reverse.mapM fun day => do
    let id := name ++ "-" ++ Decimal.ofNat day
    let count (n : Nat) : Int64 := Int64.ofNat n
    pure (runWithExecutions id name (← daysAfter start day) (count (10 + day)) (count (day % 3)) (count (day % 2)))

/-- Test items with alternating histories of one length. -/
def historyItems (count length : Nat) : Except Problem (List Record) :=
  (List.range count).mapM fun i =>
    historyItem ("item-" ++ Decimal.ofNat i)
      ((List.range length).map fun j => if (i + j) % (i % 4 + 2) = 0 then "FAILED" else "PASSED")

end Dashboard.Sample
