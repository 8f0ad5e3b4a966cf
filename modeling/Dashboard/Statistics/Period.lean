import Dashboard.Calendar.Span
import Dashboard.Failure
import Dashboard.Text.Blank
import Dashboard.Text.Case

/-! Grouping periods: the spans of the calendar, and the names of launches. -/

namespace Dashboard

open Calendar (Date Span Stride)

/-- By what records are put into buckets. -/
inductive Period where
  | span (span : Span)
  | name
deriving DecidableEq

namespace Period

/-- The words for each period, in small letters and the canonical one first. -/
def words : List (Period × List String) := [
  (span .day, ["day", "days"]),
  (span .week, ["week", "weeks"]),
  (span .month, ["month", "months"]),
  (name, ["name", "by_name"])]

/-- Reads a period in any case, with blanks allowed around it. -/
def parse (text : String) : Except Failure Period :=
  match words.find? (·.2.contains (Text.lower (Text.trim text))) with
  | some (period, _) => .ok period
  | none => .error (.invalidPeriod text)

/-- The canonical word for a period. -/
def word : Period → String
  | span s => s.name
  | name => "name"

/-- The span of a period that follows the calendar. -/
def span? : Period → Option Span
  | span s => some s
  | name => none

/-- The bucket of a date, when the period has buckets for dates. -/
def dateKey? (period : Period) (date : Date) : Option String :=
  period.span?.map (·.pointLabel date)

/-- The first date of a range of buckets whose earliest record has this date. -/
def rangeStart (period : Period) (date : Date) : Date :=
  match period with
  | span s => s.firstPoint date
  | name => date

/-- The date of the next bucket in a range. -/
def next? (period : Period) (date : Date) : Option Date :=
  period.span?.bind (·.pointStride.next? date)

end Period
end Dashboard
