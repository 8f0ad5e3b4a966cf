/-! Lengths of months and years in the Gregorian calendar, and the days counted before each of them. -/

namespace Dashboard.Calendar

/-- Every fourth year is a leap year, except the centuries that 400 does not divide. -/
def isLeap (year : Int) : Bool :=
  year % 4 == 0 && (year % 100 != 0 || year % 400 == 0)

/-- The number of days of a year. -/
def daysInYear (year : Int) : Nat :=
  if isLeap year then 366 else 365

/-- The number of days of a month. -/
def daysInMonth (year : Int) (month : Nat) : Nat :=
  if month = 2 then
    if isLeap year then 29 else 28
  else if month = 4 ∨ month = 6 ∨ month = 9 ∨ month = 11 then 30
  else 31

/-- The days from the start of year 1 to the start of a year, negative for the years before it. -/
def daysBeforeYear (year : Int) : Int :=
  365 * (year - 1) + (year - 1) / 4 - (year - 1) / 100 + (year - 1) / 400

/-- The days of a year before one of its months. -/
def daysBeforeMonth (year : Int) : Nat → Nat
  | 0 | 1 => 0
  | month + 2 => daysBeforeMonth year (month + 1) + daysInMonth year (month + 1)

/-- Each year starts after all days of the year before it. -/
theorem daysBeforeYear_succ (year : Int) :
    daysBeforeYear (year + 1) = daysBeforeYear year + daysInYear year := by
  -- The three quotients change exactly at the years that the leap rule names.
  unfold daysBeforeYear daysInYear isLeap
  split <;> rename_i leap <;> simp at leap <;> omega

/-- January starts with the year. -/
@[simp] theorem daysBeforeMonth_one (year : Int) : daysBeforeMonth year 1 = 0 := rfl

/-- Each month starts after all days of the month before it. -/
theorem daysBeforeMonth_succ (year : Int) (month : Nat) (exists_ : 1 ≤ month) :
    daysBeforeMonth year (month + 1) = daysBeforeMonth year month + daysInMonth year month := by
  -- A month that exists has a number above zero, as the recursion wants it.
  obtain ⟨earlier, rfl⟩ : ∃ earlier, month = earlier + 1 := ⟨month - 1, by omega⟩
  rfl

/-- December is the last month of the year. -/
theorem daysBeforeMonth_thirteen (year : Int) : daysBeforeMonth year 13 = daysInYear year := by
  -- Only February depends on the year.
  simp only [daysBeforeMonth, daysInMonth, daysInYear]
  cases isLeap year <;> simp

/-- No month is empty. -/
theorem daysInMonth_pos (year : Int) (month : Nat) : 0 < daysInMonth year month := by
  -- Every branch of the rule names a length.
  unfold daysInMonth
  repeat' split
  all_goals omega

/-- A later month starts after the whole of an earlier one. -/
theorem daysBeforeMonth_add_le (year : Int) {early late : Nat} (exists_ : 1 ≤ early) (order : early < late) :
    daysBeforeMonth year early + daysInMonth year early ≤ daysBeforeMonth year late := by
  -- Induction on the later month: it follows the earlier one directly or some month in between.
  induction late with
  | zero => omega
  | succ late ih =>
    rw [daysBeforeMonth_succ year late (by omega)]
    rcases Nat.lt_or_ge early late with further | here
    · have := ih further
      omega
    · have : early = late := by omega
      subst this
      omega

/-- A later year starts after the whole of an earlier one. -/
theorem daysBeforeYear_add_le {early late : Int} (order : early < late) :
    daysBeforeYear early + daysInYear early ≤ daysBeforeYear late := by
  -- Induction on the distance, one year at a time.
  obtain ⟨gap, rfl⟩ : ∃ gap : Nat, late = early + 1 + gap := ⟨(late - early - 1).toNat, by omega⟩
  induction gap with
  | zero => simp [daysBeforeYear_succ]
  | succ gap ih =>
    have step := daysBeforeYear_succ (early + 1 + gap)
    have : early + 1 + ((gap + 1 : Nat) : Int) = early + 1 + gap + 1 := by omega
    rw [this, step]
    have := ih (by omega)
    omega

end Dashboard.Calendar
