import Dashboard.Calendar.Date
import Dashboard.Number.Decimal

/-! Weeks from Monday to Sunday, and the ISO 8601 numbers of weeks, which count a week to the year of its Thursday. -/

namespace Dashboard.Calendar

/-- The days from the last Monday to the day with this number. -/
def sinceMonday (n : Int) : Nat :=
  ((n - 1) % 7).toNat

/-- The number of the first Thursday of a year, which lies in the year's first week. -/
def firstThursday (year : Int) : Int :=
  let january1 := daysBeforeYear year + 1
  january1 + (3 - (sinceMonday january1 : Int)) % 7

/-- An end of a week that lies outside the calendar. -/
inductive WeekEnd where
  | monday
  | sunday
deriving DecidableEq

namespace Date

/-- The Monday and the Sunday of a date's week; the calendar may cut off either of them. -/
def weekBounds (d : Date) : Except WeekEnd (Date × Date) :=
  -- The calendar never cuts off both ends of one week, but the Monday is looked for first.
  let passed := sinceMonday d.dayNumber
  match earlier? passed d, later? (6 - passed) d with
  | some monday, some sunday => .ok (monday, sunday)
  | none, _ => .error .monday
  | _, none => .error .sunday

/-- The number of the Thursday of a date's week. -/
def thursdayNumber (d : Date) : Int :=
  d.dayNumber - sinceMonday d.dayNumber + 3

/-- The year a date's week counts to, which may be a neighbour of the date's year. -/
def weekYear (d : Date) : Int :=
  -- Around New Year the Thursday may lie in the other year.
  if d.thursdayNumber ≤ daysBeforeYear d.year then d.year - 1
  else if daysBeforeYear (d.year + 1) < d.thursdayNumber then d.year + 1
  else d.year

/-- The number of a date's week within the week's year, from 1 to 53. -/
def weekNumber (d : Date) : Nat :=
  ((d.thursdayNumber - firstThursday d.weekYear) / 7).toNat + 1

/-- The Monday of a numbered week, when the year has that week and the calendar that Monday. -/
def ofWeek? (year : Int) (week : Nat) : Option Date :=
  let thursday := firstThursday year + 7 * ((week : Int) - 1)
  if 1 ≤ week ∧ thursday ≤ daysBeforeYear (year + 1) then ofDayNumber? (thursday - 3) else none

/-- The year of a week in four characters, a minus sign included. -/
def weekYearDigits (year : Int) : List Char :=
  -- The minus sign takes one of the four places.
  if year < 0 then '-' :: Decimal.padded 3 year.natAbs else Decimal.padded 4 year.toNat

/-- The label of a date's week, such as 2024-W09. -/
def weekLabel (d : Date) : String :=
  String.ofList (weekYearDigits d.weekYear ++ '-' :: 'W' :: Decimal.padded 2 d.weekNumber)

/-- Cuts a text in two at the first mark between the year and the number of a week. -/
def splitWeekMark : List Char → Option (List Char × List Char)
  | [] => none
  | c :: cs =>
    match c, cs with
    | '-', 'W' :: week => some ([], week)
    | _, _ => (splitWeekMark cs).map fun (year, week) => (c :: year, week)

/-- The Monday of the week that a label names. -/
def ofWeekLabel? (label : String) : Option Date := do
  let (year, week) ← splitWeekMark label.toList
  ofWeek? (← Decimal.readInt? year) (← Decimal.readNat? week)

end Date
end Dashboard.Calendar
