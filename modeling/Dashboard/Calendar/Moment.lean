import Dashboard.Calendar.Label

/-! Moments in universal time, to the nanosecond and with leap seconds. -/

namespace Dashboard.Calendar

/-- A moment of a date; a leap second counts its nanoseconds on from the second before it. -/
structure Moment where
  date : Date
  second : Nat
  nano : Nat
  second_lt : second < 86400
  nano_lt : nano < 1000000000 ∨ (second % 60 = 59 ∧ nano < 2000000000)
deriving DecidableEq

namespace Moment

/-- The moment at this second and nanosecond of a date, when there is one. -/
def of? (date : Date) (second nano : Nat) : Option Moment :=
  if exists_ : second < 86400 ∧ (nano < 1000000000 ∨ (second % 60 = 59 ∧ nano < 2000000000)) then
    some ⟨date, second, nano, exists_.1, exists_.2⟩
  else none

/-- Moments are ordered as these numbers are: by date, then second, then nanosecond. -/
def rank (m : Moment) : Int :=
  -- A second has room for the nanoseconds of the leap second behind it.
  (m.date.dayNumber * 86400 + m.second) * 2000000000 + m.nano

/-- An earlier moment is a smaller one. -/
instance : LE Moment := ⟨fun a b => a.rank ≤ b.rank⟩
instance : LT Moment := ⟨fun a b => a.rank < b.rank⟩
instance (a b : Moment) : Decidable (a ≤ b) := inferInstanceAs (Decidable (a.rank ≤ b.rank))
instance (a b : Moment) : Decidable (a < b) := inferInstanceAs (Decidable (a.rank < b.rank))

/-- The number of the day from which milliseconds are counted, the first of 1970. -/
def epochDay : Int := 719163

/-- The milliseconds since the start of 1970, less what is left of a millisecond. -/
def millis (m : Moment) : Int :=
  ((m.date.dayNumber - epochDay) * 86400 + m.second) * 1000 + (m.nano / 1000000 : Nat)

/-- The moment with this count of milliseconds since the start of 1970, when the calendar holds it. -/
def ofMillis? (millis : Int) : Option Moment := do
  let date ← Date.ofDayNumber? (millis / 86400000 + epochDay)
  of? date (millis % 86400000 / 1000).toNat (millis % 1000 * 1000000).toNat

/-- The same time of day a number of days later, when the calendar reaches that far. -/
def laterDays? (m : Moment) (days : Nat) : Option Moment :=
  (Date.ofDayNumber? (m.date.dayNumber + days)).map fun date => { m with date }

/-- The seconds that a leap second adds between two times of day, or takes away when they run backwards. -/
def leapSeconds (start finish : Moment) : Int :=
  if start.second < finish.second ∧ 1000000000 ≤ start.nano then 1
  else if finish.second < start.second ∧ 1000000000 ≤ finish.nano then -1
  else 0

/-- The nanoseconds from one moment to another. -/
def nanosUntil (start finish : Moment) : Int :=
  -- Days have one length; the leap second is counted apart.
  let days := finish.date.dayNumber - start.date.dayNumber
  let seconds := (finish.second : Int) - start.second + leapSeconds start finish
  (days * 86400 + seconds) * 1000000000 + ((finish.nano : Int) - start.nano)

/-- The whole milliseconds from one moment to another, none when the other is not later. -/
def millisUntil (start finish : Moment) : Nat :=
  (nanosUntil start finish).toNat / 1000000

/-- Hour and minute. -/
def minuteDigits (m : Moment) : List Char :=
  Decimal.padded 2 (m.second / 3600) ++ ':' :: Decimal.padded 2 (m.second / 60 % 60)

/-- Hour, minute and second; a leap second is the second numbered 60. -/
def secondDigits (m : Moment) : List Char :=
  m.minuteDigits ++ ':' :: Decimal.padded 2 (m.second % 60 + m.nano / 1000000000)

/-- Date, hour and minute, as a table shows them. -/
def minuteLabel (m : Moment) : String :=
  String.ofList (m.date.dayDigits ++ ' ' :: m.minuteDigits)

/-- Date, hour, minute and second, as a report names the time it was made. -/
def secondLabel (m : Moment) : String :=
  String.ofList (m.date.dayDigits ++ ' ' :: m.secondDigits) ++ " UTC"

end Moment
end Dashboard.Calendar
