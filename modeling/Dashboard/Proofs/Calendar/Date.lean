import Dashboard.Calendar.Date

/-! The order of dates: day numbers tell dates apart, and the calendar has no gap between a day and the next. -/

namespace Dashboard.Calendar.Date

/-- A date is made of its own fields. -/
theorem of?_fields (d : Date) : of? d.year d.month d.day = some d := by
  -- The date itself carries the proof that it exists.
  unfold of?
  rw [dif_pos ⟨d.year_mem, d.month_mem, d.day_mem⟩]

/-- Fields in range make a date. -/
theorem exists_of? {year : Int} {month day : Nat} (yearRange : firstYear ≤ year ∧ year ≤ lastYear)
    (monthRange : 1 ≤ month ∧ month ≤ 12) (dayRange : 1 ≤ day ∧ day ≤ daysInMonth year month) :
    ∃ d, of? year month day = some d :=
  ⟨⟨year, month, day, yearRange, monthRange, dayRange⟩,
    of?_fields ⟨year, month, day, yearRange, monthRange, dayRange⟩⟩

/-- Dates with the same fields are the same. -/
theorem eq_of_fields {d e : Date} (sameYear : d.year = e.year) (sameMonth : d.month = e.month)
    (sameDay : d.day = e.day) : d = e := by
  -- Both are the date that their fields make.
  have made := of?_fields d
  rw [sameYear, sameMonth, sameDay, of?_fields e] at made
  exact (Option.some.inj made).symm

/-- Every day of a year lies within the days counted for that year. -/
theorem dayNumber_mem_year (d : Date) :
    daysBeforeYear d.year < d.dayNumber ∧ d.dayNumber ≤ daysBeforeYear d.year + daysInYear d.year := by
  -- The end of any month lies within the year, since December does.
  have monthRange := d.month_mem
  have dayRange := d.day_mem
  have within := daysBeforeMonth_add_le d.year monthRange.1 (show d.month < 13 by omega)
  rw [daysBeforeMonth_thirteen] at within
  unfold dayNumber
  omega

/-- A date of an earlier year is an earlier date. -/
theorem dayNumber_lt_of_year_lt {d e : Date} (earlier : d.year < e.year) : d.dayNumber < e.dayNumber := by
  -- The whole of the earlier year lies before the later one.
  have := (dayNumber_mem_year d).2
  have := (dayNumber_mem_year e).1
  have := daysBeforeYear_add_le earlier
  omega

/-- Within a year a date of an earlier month is an earlier date. -/
theorem dayNumber_lt_of_month_lt {d e : Date} (sameYear : d.year = e.year) (earlier : d.month < e.month) :
    d.dayNumber < e.dayNumber := by
  -- The whole of the earlier month lies before the later one.
  have dayRange := d.day_mem
  have laterDay := e.day_mem
  have monthGap := daysBeforeMonth_add_le d.year d.month_mem.1 earlier
  unfold dayNumber
  rw [← sameYear]
  omega

/-- The number of a date tells it apart from all others. -/
theorem eq_of_dayNumber_eq {d e : Date} (same : d.dayNumber = e.dayNumber) : d = e := by
  -- Neither the years nor the months can differ, as either would put the dates in order.
  have sameYear : d.year = e.year := by
    rcases Int.lt_trichotomy d.year e.year with earlier | equal | later
    · have := dayNumber_lt_of_year_lt earlier
      omega
    · exact equal
    · have := dayNumber_lt_of_year_lt later
      omega
  have sameMonth : d.month = e.month := by
    rcases Nat.lt_trichotomy d.month e.month with earlier | equal | later
    · have := dayNumber_lt_of_month_lt sameYear earlier
      omega
    · exact equal
    · have := dayNumber_lt_of_month_lt sameYear.symm later
      omega
  -- With year and month in common, what is left of the numbers is the day.
  have sameDay : d.day = e.day := by
    unfold dayNumber at same
    rw [sameYear, sameMonth] at same
    omega
  exact eq_of_fields sameYear sameMonth sameDay

/-- Dates compare as their numbers do. -/
theorem le_iff {d e : Date} : d ≤ e ↔ d.dayNumber ≤ e.dayNumber := Iff.rfl

/-- Dates compare as their numbers do. -/
theorem lt_iff {d e : Date} : d < e ↔ d.dayNumber < e.dayNumber := Iff.rfl

/-- The order of dates is linear. -/
instance : Std.IsLinearOrder Date := .of_le
  ⟨fun _ _ below above => eq_of_dayNumber_eq (Int.le_antisymm below above)⟩
  ⟨fun first second => Int.le_trans (le_iff.1 first) (le_iff.1 second)⟩
  ⟨fun d e => Int.le_total d.dayNumber e.dayNumber⟩

/-- The later of two dates is at or after both, and one of them. -/
instance : Std.LawfulOrderMax Date := .of_le_max
  (fun d e => by
    show d ≤ if d ≤ e then e else d
    split
    · assumption
    · exact Std.le_refl d)
  (fun d e => by
    show e ≤ if d ≤ e then e else d
    split
    · exact Std.le_refl e
    · exact Std.le_of_not_ge ‹_›)
  (fun d e => by
    show (if d ≤ e then e else d) = d ∨ (if d ≤ e then e else d) = e
    split
    · exact .inr rfl
    · exact .inl rfl)

/-- After the last day of December a later date lies in a later year. -/
theorem year_lt_of_lastDay {d e : Date} (december : d.month = 12) (lastDay : daysInMonth d.year d.month ≤ d.day)
    (later : d.dayNumber < e.dayNumber) : d.year < e.year := by
  -- No day of the same year is left, and earlier years lie before all of them.
  have yearEnd := daysBeforeMonth_succ d.year 12 (by omega)
  have number : d.dayNumber = daysBeforeYear d.year + daysBeforeMonth d.year d.month + d.day := rfl
  rw [december] at lastDay number
  rw [daysBeforeMonth_thirteen] at yearEnd
  rcases Int.lt_trichotomy d.year e.year with earlier | equal | afterwards
  · exact earlier
  · have := (dayNumber_mem_year e).2
    rw [← equal] at this
    omega
  · have := dayNumber_lt_of_year_lt afterwards
    omega

/-- Before a later date the calendar does not end, and the next day comes first. -/
theorem exists_next? {d e : Date} (later : d < e) : ∃ next, d.next? = some next ∧ next ≤ e := by
  have yearRange := d.year_mem
  have monthRange := d.month_mem
  have dayRange := d.day_mem
  have later : d.dayNumber < e.dayNumber := later
  -- The next day follows at once, so nothing but its existence is in question.
  suffices reached : ∃ next, d.next? = some next by
    obtain ⟨next, found⟩ := reached
    have := dayNumber_next? found
    exact ⟨next, found, le_iff.2 (by omega)⟩
  unfold next?
  split
  · exact exists_of? yearRange monthRange (by omega)
  · rename_i lastDay
    split
    · rename_i notDecember
      exact exists_of? yearRange (by omega) ⟨Nat.le_refl 1, daysInMonth_pos _ _⟩
    · -- On the last day of December a later date must lie in a later year, so there is one.
      rename_i december
      have december : d.month = 12 := by omega
      have yearLater := year_lt_of_lastDay december (by omega) later
      have := e.year_mem
      exact exists_of? (by omega) (by omega) ⟨Nat.le_refl 1, daysInMonth_pos _ _⟩

/-- The month of a date in the sequence of all months. -/
def monthNumber (d : Date) : Int :=
  d.year * 12 + d.month

/-- First days of months are in the order of their months. -/
theorem lt_iff_monthNumber_lt {d e : Date} (firstDay : d.day = 1) (otherFirstDay : e.day = 1) :
    d < e ↔ d.monthNumber < e.monthNumber := by
  -- Either the years are in order, or they agree and the months are, or both agree and so do the dates.
  have monthRange := d.month_mem
  have otherRange := e.month_mem
  rw [lt_iff]
  unfold monthNumber
  rcases Int.lt_trichotomy d.year e.year with earlier | sameYear | later
  · have := dayNumber_lt_of_year_lt earlier
    omega
  · -- In one year the months decide, and in one month two first days are the same day.
    rcases Nat.lt_trichotomy d.month e.month with before | sameMonth | behind
    · have := dayNumber_lt_of_month_lt sameYear before
      omega
    · have : d.dayNumber = e.dayNumber := by
        unfold dayNumber
        rw [sameYear, sameMonth, firstDay, otherFirstDay]
      omega
    · have := dayNumber_lt_of_month_lt sameYear.symm behind
      omega
  · have := dayNumber_lt_of_year_lt later
    omega

/-- After the first day of a month comes the first day of the month after it. -/
theorem nextMonth?_of_firstDay {d e : Date} (firstDay : d.day = 1) (found : d.nextMonth? = some e) :
    e.day = 1 ∧ e.monthNumber = d.monthNumber + 1 := by
  -- No month is so short that its first day would have to move.
  have monthRange := d.month_mem
  unfold nextMonth? at found
  rw [firstDay] at found
  split at found
  · obtain ⟨sameYear, nextMonth, day⟩ := of?_eq_some found
    have := daysInMonth_pos d.year (d.month + 1)
    unfold monthNumber
    omega
  · obtain ⟨nextYear, january, day⟩ := of?_eq_some found
    have := daysInMonth_pos (d.year + 1) 1
    unfold monthNumber
    omega

/-- Before a later first day of a month the calendar does not end, and the next month's first day comes first. -/
theorem exists_nextMonth? {d e : Date} (firstDay : d.day = 1) (otherFirstDay : e.day = 1) (later : d < e) :
    ∃ next, d.nextMonth? = some next ∧ next ≤ e := by
  have yearRange := d.year_mem
  have otherYearRange := e.year_mem
  have monthRange := d.month_mem
  have otherRange := e.month_mem
  have monthLater := (lt_iff_monthNumber_lt firstDay otherFirstDay).1 later
  -- The next month follows at once, so nothing but its existence is in question: no first day of a month lies strictly
  -- between those of two months in a row.
  suffices reached : ∃ next, d.nextMonth? = some next by
    obtain ⟨next, found⟩ := reached
    obtain ⟨nextFirstDay, nextMonth⟩ := nextMonth?_of_firstDay firstDay found
    refine ⟨next, found, Int.not_lt.1 fun beyond => ?_⟩
    have := (lt_iff_monthNumber_lt otherFirstDay nextFirstDay).1 beyond
    omega
  -- In December the next month is the January of another year, which is in the calendar because the later date is.
  unfold nextMonth?
  rw [firstDay]
  unfold monthNumber at monthLater
  split
  · have := daysInMonth_pos d.year (d.month + 1)
    exact exists_of? yearRange (by omega) (by omega)
  · have := daysInMonth_pos (d.year + 1) 1
    exact exists_of? (by omega) (by omega) (by omega)

/-- The first day of a month lies before no day of that month. -/
theorem firstOfMonth_le (d : Date) : d.firstOfMonth ≤ d := by
  -- Both dates have the same year and month.
  have dayRange := d.day_mem
  rw [le_iff]
  simp only [dayNumber, firstOfMonth]
  omega

/-- The first day of a month has day one. -/
@[simp] theorem firstOfMonth_day (d : Date) : d.firstOfMonth.day = 1 := rfl

/-- Going to the first day stays in the month. -/
@[simp] theorem firstOfMonth_monthNumber (d : Date) : d.firstOfMonth.monthNumber = d.monthNumber := rfl

/-- Only a first day is the first day of its month. -/
theorem firstOfMonth_of_firstDay {d : Date} (firstDay : d.day = 1) : d.firstOfMonth = d := by
  -- The day is the only field that could differ.
  cases d
  cases firstDay
  rfl

/-- Dates of one month have the same first day. -/
theorem firstOfMonth_eq_iff {d e : Date} : d.firstOfMonth = e.firstOfMonth ↔ d.year = e.year ∧ d.month = e.month := by
  -- The first day keeps the year and the month and forgets the day.
  constructor
  · intro same
    have sameYear : d.firstOfMonth.year = e.firstOfMonth.year := by rw [same]
    have sameMonth : d.firstOfMonth.month = e.firstOfMonth.month := by rw [same]
    exact ⟨sameYear, sameMonth⟩
  · rintro ⟨sameYear, sameMonth⟩
    apply eq_of_dayNumber_eq
    simp only [dayNumber, firstOfMonth]
    rw [sameYear, sameMonth]

/-- A later date does not lie in an earlier month. -/
theorem firstOfMonth_mono {d e : Date} (order : d ≤ e) : d.firstOfMonth ≤ e.firstOfMonth := by
  -- Were the month earlier, then the whole of it would lie before the other date.
  refine Int.not_lt.1 fun beyond => ?_
  have monthLater := (lt_iff_monthNumber_lt (firstOfMonth_day e) (firstOfMonth_day d)).1 beyond
  have order : d.dayNumber ≤ e.dayNumber := order
  have monthRange := d.month_mem
  have otherRange := e.month_mem
  simp only [firstOfMonth_monthNumber] at monthLater
  unfold monthNumber at monthLater
  -- A greater month number leaves a later year, or a later month of the same year.
  rcases Int.lt_trichotomy e.year d.year with earlier | sameYear | later
  · have := dayNumber_lt_of_year_lt earlier
    omega
  · have := dayNumber_lt_of_month_lt sameYear (show e.month < d.month by omega)
    omega
  · omega

end Dashboard.Calendar.Date
