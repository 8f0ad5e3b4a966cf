import Dashboard.Calendar.Date

/-! Walking through the calendar in steps that always lead to a later day. -/

namespace Dashboard.Calendar

/-- A way to step from a date to a later one, or to none at the end of the calendar. -/
structure Stride where
  next? : Date → Option Date
  later : ∀ {d e : Date}, next? d = some e → d.dayNumber < e.dayNumber

namespace Stride

/-- One day at a time. -/
def daily : Stride where
  next? := Date.next?
  later found := by have := Date.dayNumber_next? found; omega

/-- Seven days at a time. -/
def weekly : Stride where
  next? := Date.later? 7
  later found := by have := Date.dayNumber_later? found; omega

/-- One month at a time. -/
def monthly : Stride where
  next? := Date.nextMonth?
  later := Date.dayNumber_lt_nextMonth?

/-- The dates met from `d` on, up to and including `last`. -/
def walk (stride : Stride) (last d : Date) : List Date :=
  if d ≤ last then
    match _reached : stride.next? d with
    | some next => d :: stride.walk last next
    -- Where the calendar ends, the walk ends too.
    | none => [d]
  else []
termination_by (last.dayNumber + 1 - d.dayNumber).toNat
decreasing_by
  -- Each step brings the day number closer to that of the last date.
  rename_i within
  have within : d.dayNumber ≤ last.dayNumber := within
  have := stride.later ‹_›
  omega

end Stride
end Dashboard.Calendar
