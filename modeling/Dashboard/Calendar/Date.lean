import Dashboard.Calendar.Month

/-! Dates of the proleptic Gregorian calendar: their numbers, their neighbours, and the order between them. -/

namespace Dashboard.Calendar

/-- The first year of the calendar. -/
def firstYear : Int := -262143

/-- The last year of the calendar. -/
def lastYear : Int := 262142

/-- A day that exists, in a year of the calendar. -/
structure Date where
  year : Int
  month : Nat
  day : Nat
  year_mem : firstYear ≤ year ∧ year ≤ lastYear
  month_mem : 1 ≤ month ∧ month ≤ 12
  day_mem : 1 ≤ day ∧ day ≤ daysInMonth year month
deriving DecidableEq

namespace Date

/-- The date with this year, month and day, when there is one. -/
def of? (year : Int) (month day : Nat) : Option Date :=
  if exists_ : (firstYear ≤ year ∧ year ≤ lastYear) ∧ (1 ≤ month ∧ month ≤ 12) ∧
      (1 ≤ day ∧ day ≤ daysInMonth year month) then
    some ⟨year, month, day, exists_.1, exists_.2.1, exists_.2.2⟩
  else none

/-- The position of a date in the sequence of all days; the first day of year 1, a Monday, has number 1. -/
def dayNumber (d : Date) : Int :=
  daysBeforeYear d.year + daysBeforeMonth d.year d.month + d.day

/-- An earlier date is a smaller one. -/
instance : LE Date := ⟨fun a b => a.dayNumber ≤ b.dayNumber⟩
instance : LT Date := ⟨fun a b => a.dayNumber < b.dayNumber⟩
instance (a b : Date) : Decidable (a ≤ b) := inferInstanceAs (Decidable (a.dayNumber ≤ b.dayNumber))
instance (a b : Date) : Decidable (a < b) := inferInstanceAs (Decidable (a.dayNumber < b.dayNumber))
instance : Min Date := minOfLe
instance : Max Date := maxOfLe

/-- The day after, unless the calendar ends. -/
def next? (d : Date) : Option Date :=
  if d.day < daysInMonth d.year d.month then of? d.year d.month (d.day + 1)
  else if d.month < 12 then of? d.year (d.month + 1) 1
  else of? (d.year + 1) 1 1

/-- The day before, unless the calendar begins. -/
def prev? (d : Date) : Option Date :=
  if 1 < d.day then of? d.year d.month (d.day - 1)
  else if 1 < d.month then of? d.year (d.month - 1) (daysInMonth d.year (d.month - 1))
  else of? (d.year - 1) 12 31

/-- The date a number of days later, unless the calendar ends before. -/
def later? : Nat → Date → Option Date
  | 0, d => some d
  | days + 1, d => d.next?.bind (later? days)

/-- The date a number of days earlier, unless the calendar begins after it. -/
def earlier? : Nat → Date → Option Date
  | 0, d => some d
  | days + 1, d => d.prev?.bind (earlier? days)

/-- The first day of the month. -/
def firstOfMonth (d : Date) : Date :=
  { d with day := 1, day_mem := ⟨Nat.le_refl 1, daysInMonth_pos d.year d.month⟩ }

/-- The same day of the next month, or that month's last day when it is shorter; none when the calendar ends. -/
def nextMonth? (d : Date) : Option Date :=
  -- A day that the next month lacks moves back to that month's end.
  if d.month < 12 then of? d.year (d.month + 1) (min d.day (daysInMonth d.year (d.month + 1)))
  else of? (d.year + 1) 1 (min d.day (daysInMonth (d.year + 1) 1))

/-- The last day of the month; in the calendar's last month, which no month follows, the day itself. -/
def lastOfMonth (d : Date) : Date :=
  (d.firstOfMonth.nextMonth?.bind prev?).getD d

/-- The date with a given number, when the calendar holds it. -/
def ofDayNumber? (n : Int) : Option Date := do
  -- A year of the average length comes within one of the right year.
  let guess := (n * 400) / 146097 + 1
  let year ← [guess - 1, guess, guess + 1].find? fun year =>
    daysBeforeYear year < n ∧ n ≤ daysBeforeYear year + daysInYear year
  let ordinal := (n - daysBeforeYear year).toNat
  let month ← (List.range' 1 12).find? fun month =>
    ordinal ≤ daysBeforeMonth year month + daysInMonth year month
  of? year month (ordinal - daysBeforeMonth year month)

/-- Exactly the fields of an existing date make a date. -/
theorem of?_eq_some {year : Int} {month day : Nat} {d : Date} (found : of? year month day = some d) :
    d.year = year ∧ d.month = month ∧ d.day = day := by
  -- Only the branch in which the date exists gives one.
  unfold of? at found
  split at found
  · cases found; exact ⟨rfl, rfl, rfl⟩
  · cases found

/-- The day after has the next number. -/
theorem dayNumber_next? {d e : Date} (found : d.next? = some e) : e.dayNumber = d.dayNumber + 1 := by
  -- The next day lies in the same month, in the same year, or at the start of the next year.
  have monthEnd := d.day_mem
  have monthRange := d.month_mem
  unfold next? at found
  split at found
  · obtain ⟨sameYear, sameMonth, nextDay⟩ := of?_eq_some found
    simp only [dayNumber, sameYear, sameMonth, nextDay]
    omega
  · rename_i lastDay
    split at found
    · -- The first of the next month follows the last day of this one.
      obtain ⟨sameYear, nextMonth, firstDay⟩ := of?_eq_some found
      simp only [dayNumber, sameYear, nextMonth, firstDay, daysBeforeMonth_succ _ _ monthRange.1]
      omega
    · -- New Year's Day follows the last day of December.
      rename_i lastMonth
      obtain ⟨nextYear, firstMonth, firstDay⟩ := of?_eq_some found
      have december : d.month = 12 := by omega
      have total := daysBeforeMonth_succ d.year 12 (by omega)
      rw [daysBeforeMonth_thirteen] at total
      rw [december] at lastDay monthEnd
      simp only [dayNumber, nextYear, firstMonth, firstDay, daysBeforeYear_succ, december, daysBeforeMonth_one]
      omega

/-- Going a number of days forward raises the number by as much. -/
theorem dayNumber_later? {days : Nat} {d e : Date} (found : later? days d = some e) :
    e.dayNumber = d.dayNumber + days := by
  -- Every single day raises the number by one.
  induction days generalizing d with
  | zero => cases found; simp
  | succ days ih =>
    obtain ⟨middle, stepped, rest⟩ := Option.bind_eq_some_iff.1 found
    have := ih rest
    have := dayNumber_next? stepped
    omega

/-- A day of the next month lies after every day of this one. -/
theorem dayNumber_lt_nextMonth? {d e : Date} (found : d.nextMonth? = some e) : d.dayNumber < e.dayNumber := by
  have monthEnd := d.day_mem
  have monthRange := d.month_mem
  have laterDay := e.day_mem
  unfold nextMonth? at found
  split at found
  · -- Within a year the next month starts after the last day of this month.
    obtain ⟨sameYear, nextMonth, -⟩ := of?_eq_some found
    simp only [dayNumber, sameYear, nextMonth, daysBeforeMonth_succ _ _ monthRange.1]
    omega
  · -- The next year starts after the last day of this month, too.
    obtain ⟨nextYear, firstMonth, -⟩ := of?_eq_some found
    have within := daysBeforeMonth_add_le d.year monthRange.1 (show d.month < 13 by omega)
    rw [daysBeforeMonth_thirteen] at within
    simp only [dayNumber, nextYear, firstMonth, daysBeforeYear_succ, daysBeforeMonth_one]
    omega

end Date
end Dashboard.Calendar
