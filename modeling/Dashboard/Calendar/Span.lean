import Dashboard.Calendar.Label
import Dashboard.Calendar.Stride
import Dashboard.Calendar.Week

/-! Days, weeks and months as the points of a timeline and as the intervals of a calendar. -/

namespace Dashboard.Calendar

/-- A stretch of the calendar by which launches are put together. -/
inductive Span where
  | day
  | week
  | month
deriving DecidableEq

namespace Span

/-- The word for a span. -/
def name : Span → String
  | day => "day"
  | week => "week"
  | month => "month"

/-- The label of a date on a timeline; a timeline by weeks labels single days. -/
def pointLabel : Span → Date → String
  | month, d => d.monthLabel
  | _, d => d.dayLabel

/-- The first point of a timeline whose earliest launch has this date. -/
def firstPoint : Span → Date → Date
  | month, d => d.firstOfMonth
  | _, d => d

/-- The step between the points of a timeline. -/
def pointStride : Span → Stride
  | month => .monthly
  | _ => .daily

/-- The labels of a timeline from the earliest to the latest date. -/
def timeline (span : Span) (earliest latest : Date) : List String :=
  (span.pointStride.walk latest (span.firstPoint earliest)).map span.pointLabel

/-- The label of the interval that holds a date; weeks are ISO weeks. -/
def intervalLabel : Span → Date → String
  | day, d => d.dayLabel
  | week, d => d.weekLabel
  | month, d => d.monthLabel

/-- The first day of the interval that holds a date. -/
def intervalStart : Span → Date → Except WeekEnd Date
  | day, d => .ok d
  | week, d => d.weekBounds.map (·.1)
  | month, d => .ok d.firstOfMonth

/-- The first and the last day of the interval that holds a date; a day needs no second bound. -/
def intervalBounds : Span → Date → Except WeekEnd (Date × Option Date)
  | day, d => .ok (d, none)
  | week, d => d.weekBounds.map fun (monday, sunday) => (monday, some sunday)
  | month, d => .ok (d.firstOfMonth, some d.lastOfMonth)

/-- The step from one interval's first day to the next one's. -/
def intervalStride : Span → Stride
  | day => .daily
  | week => .weekly
  | month => .monthly

/-- The labels of the intervals from the earliest to the latest date. -/
def intervals (span : Span) (earliest latest : Date) : Except WeekEnd (List String) := do
  let start ← span.intervalStart earliest
  pure ((span.intervalStride.walk latest start).map span.intervalLabel)

/-- The first day of the interval that a label names. -/
def ofIntervalLabel? : Span → String → Option Date
  | day, label => Date.ofDayLabel? label
  | week, label => Date.ofWeekLabel? label
  | month, label => Date.ofMonthLabel? label

end Span
end Dashboard.Calendar
