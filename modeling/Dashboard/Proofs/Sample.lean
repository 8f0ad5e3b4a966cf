import Dashboard.Request.Basic
import Dashboard.Sample.Fixture

/-! Launches and requests for worked examples. -/

namespace Dashboard.Sample

open Calendar (Date Moment)

/-- The start of a date. -/
def midnight (date : Date) : Moment :=
  ⟨date, 0, 0, by decide, .inl (by decide)⟩

/-- A leap day. -/
def leapDay : Date :=
  ⟨2024, 2, 29, by decide, by decide, by decide⟩

/-- The last day of the calendar. -/
def lastDay : Date :=
  ⟨262142, 12, 31, by decide, by decide, by decide⟩

/-- A day in the last month but one of the calendar. -/
def lateDay : Date :=
  ⟨262142, 11, 30, by decide, by decide, by decide⟩

/-- A launch on a leap day with some executions and defects. -/
def leapRun : Record :=
  run "1" "Smoke" (midnight leapDay)
    |>.withCounter Field.total 5
    |>.withCounter Field.productBug 1
    |>.withCounter Field.toInvestigate 2

/-- The day before the leap day. -/
def leapEve : Date :=
  ⟨2024, 2, 28, by decide, by decide, by decide⟩

/-- Launches on the leap day and on the day before it, the newer one first. -/
def leapRuns : List Record :=
  [leapRun, (run "0" "Smoke" (midnight leapEve)).withCounter Field.total 3]

/-- The last day of a year with 53 weeks. -/
def longYearEnd : Date :=
  ⟨2020, 12, 31, by decide, by decide, by decide⟩

/-- A day of the third week behind that year. -/
def thirdWeek : Date :=
  ⟨2021, 1, 18, by decide, by decide, by decide⟩

/-- An hour of the leap day, if there is one, and else its start. -/
def leapHour (hour : Nat) : Moment :=
  (Moment.of? leapDay (hour * 3600) 0).getD (midnight leapDay)

/-- A test item of the leap day that reported one status at each hour, from the start of the day on. -/
def testItem (id name : String) (statuses : List String) : Record :=
  { run id name (midnight leapDay) with
    history := statuses.zipIdx.map fun (status, hour) => { status, time := leapHour hour } }

/-- Test items of which one has no history, two have never switched and one has never failed. -/
def testItems : List Record :=
  [testItem "1" "order" ["PASSED", "FAILED", "PASSED"], testItem "2" "logout" ["FAILED", "FAILED"],
    testItem "3" "search" [], testItem "4" "login" ["PASSED", "failed"], testItem "5" "login" ["PASSED"]]

/-- Two counters in two kinds of spelling. -/
def twoCounters : List String := ["executions$total", Field.toInvestigate]

/-- Two spellings of the same counter. -/
def twoSpellings : List String := ["executions$total", "statistics$executions$total"]

/-- A request for the trend of a launch by launch. -/
def trend (fields : List String) : Request :=
  { widget := "statistic_trend", records := [leapRun], contentFields := fields }

end Dashboard.Sample
