import Dashboard.Proofs.Calendar.Cut
import Dashboard.Proofs.Sample

/-! Labels and intervals belong to each other one to one: dates share a label when they share an interval, and the first day
of the interval is read back from the label. -/

namespace Dashboard.Calendar

namespace Date

/-- The ends of the week that a date is in: a Monday and the Sunday six days later. -/
structure IsInWeek (d monday sunday : Date) : Prop where
  startsOnMonday : sinceMonday monday.dayNumber = 0
  endsOnSunday : sinceMonday sunday.dayNumber = 6
  sixDaysLater : later? 6 monday = some sunday
  holds : monday ≤ d ∧ d ≤ sunday

/-- The ends of the month that a date is in: its first day and the day before the first of the next month. -/
structure IsInMonth (d first last : Date) : Prop where
  startsOnFirst : first.day = 1
  endsBeforeNext : ∃ next, last.next? = some next ∧ next.day = 1 ∧ next.monthNumber = first.monthNumber + 1
  holds : first ≤ d ∧ d ≤ last

/-- Between the first and the last year of the calendar no week is cut off. -/
theorem not_inCutWeek_of_years {d : Date} (preceded : firstYear < d.year) (followed : d.year < lastYear) :
    ¬ d.InCutWeek := by
  intro cut
  -- The first Monday lies in the first year, and the last Sunday in the last one.
  have first : firstMonday.year = firstYear := rfl
  have last : lastSunday.year = lastYear := rfl
  rcases cut with early | late
  · have := year_mono (Int.le_of_lt early)
    omega
  · have := year_mono (Int.le_of_lt late)
    omega

/-- A week that is not cut off is found with both of its ends. -/
theorem exists_isInWeek {d : Date} (whole : ¬ d.InCutWeek) :
    ∃ monday sunday, d.weekBounds = .ok (monday, sunday) ∧ d.IsInWeek monday sunday := by
  -- What is found is a Monday and a day whose number is six more, which makes it a Sunday.
  obtain ⟨monday, sunday, bounds, start, number, above, below⟩ := exists_weekBounds whole
  refine ⟨monday, sunday, bounds, start, ?_, later?_of_dayNumber number, above, below⟩
  unfold sinceMonday at start ⊢
  omega

/-- Before the last year of the calendar the next month begins behind the last day of a month. -/
theorem isInMonth_of_followed {d : Date} (followed : d.year < lastYear) :
    d.IsInMonth d.firstOfMonth d.lastOfMonth := by
  rw [lastOfMonth_eq_monthEnd followed]
  refine ⟨rfl, ?_, (firstOfMonth_eq_iff_between (firstOfMonth_day d)).1 rfl⟩
  -- The calendar goes on, since the last day of its last year is a later date.
  have lastOfAll : firstYear ≤ lastYear ∧ lastYear ≤ lastYear := by decide
  obtain ⟨-, yearEnd, -, number⟩ := exists_yearEnds lastOfAll
  have later : d.monthEnd < yearEnd := by
    have := (dayNumber_mem_year d.monthEnd).2
    have := daysBeforeYear_add_le (show d.monthEnd.year < lastYear from followed)
    rw [lt_iff, number]
    have := daysInYear_mem lastYear
    omega
  obtain ⟨next, found, -⟩ := exists_next? later
  -- The day behind the end of the month is where the stride by months leads to.
  have interval : Span.month.IsInterval d.firstOfMonth d.monthEnd := ⟨rfl, rfl⟩
  have reached : d.firstOfMonth.nextMonth? = some next := (Span.intervalStride_next? interval).trans found
  exact ⟨next, found, nextMonth?_of_firstDay rfl reached⟩

/-- Dates have the same label of a week exactly when their weeks have the same bounds. -/
theorem weekLabel_eq_iff_weekBounds_eq {d e : Date} (whole : ¬ d.InCutWeek) :
    d.weekLabel = e.weekLabel ↔ d.weekBounds = e.weekBounds := by
  obtain ⟨monday, sunday, bounds, start, number, above, below⟩ := exists_weekBounds whole
  have interval : Span.week.IsInterval monday sunday := ⟨start, number⟩
  have ofDate : d.weekLabel = monday.weekLabel := (Span.intervalLabel_eq_iff_between interval).2 ⟨above, below⟩
  rw [ofDate, bounds]
  constructor
  · intro same
    -- The other date lies in the week, too, so that the same bounds are found for it.
    obtain ⟨otherAbove, otherBelow⟩ := (Span.intervalLabel_eq_iff_between interval).1 same.symm
    exact (weekBounds_eq start number otherAbove otherBelow).symm
  · -- A Monday and a Sunday in common enclose both dates.
    intro same
    obtain ⟨mondayNumber, sundayNumber⟩ := dayNumber_weekBounds same.symm
    have inside : monday ≤ e ∧ e ≤ sunday := ⟨le_iff.2 (by omega), le_iff.2 (by omega)⟩
    exact ((Span.intervalLabel_eq_iff_between interval).2 inside).symm

end Date

namespace Span

/-- A week that is not cut off starts where its bounds do. -/
theorem intervalStart_week {d monday sunday : Date} (bounds : d.weekBounds = .ok (monday, sunday)) :
    week.intervalStart d = .ok monday := by
  rw [intervalStart, bounds]
  rfl

/-- Dates have the same label of an interval exactly when their intervals start on the same day. -/
theorem intervalLabel_eq_iff_intervalStart_eq {span : Span} {d e : Date} (whole : ¬ d.InCutWeek) :
    span.intervalLabel d = span.intervalLabel e ↔ span.intervalStart d = span.intervalStart e := by
  cases span with
  -- Days are their own intervals, weeks go by their bounds, and months by the number of the month.
  | day =>
    constructor
    · intro same
      rw [Date.dayLabel_injective same]
    · intro same
      rw [Except.ok.inj same]
  | week =>
    rw [intervalLabel, intervalLabel, Date.weekLabel_eq_iff_weekBounds_eq whole]
    constructor
    · intro same
      rw [intervalStart, intervalStart, same]
    · intro same
      obtain ⟨monday, sunday, bounds, -, number, -⟩ := Date.exists_weekBounds whole
      rw [intervalStart_week bounds] at same
      -- The bounds of the other date end six days behind the same Monday.
      cases otherBounds : e.weekBounds with
      | error missing =>
        rw [intervalStart, otherBounds] at same
        cases same
      | ok ends =>
        obtain ⟨otherMonday, otherSunday⟩ := ends
        rw [intervalStart_week otherBounds] at same
        cases same
        have sundayNumber := (Date.dayNumber_weekBounds otherBounds).2
        have sameSunday : sunday = otherSunday := Date.eq_of_dayNumber_eq (by omega)
        rw [bounds, sameSunday]
  | month =>
    rw [intervalLabel, intervalLabel, Date.monthLabel_eq_iff]
    exact ⟨congrArg Except.ok, Except.ok.inj⟩

/-- From the label of an interval its first day is read back. -/
theorem exists_ofIntervalLabel? {d : Date} (whole : ¬ d.InCutWeek) (span : Span) :
    ∃ first, span.intervalStart d = .ok first ∧ span.ofIntervalLabel? (span.intervalLabel d) = some first := by
  cases span with
  | day => exact ⟨d, rfl, Date.ofDayLabel?_dayLabel d⟩
  | week =>
    -- The label is that of the Monday, too, and from this one it is read back.
    obtain ⟨monday, sunday, bounds, start, number, above, below⟩ := Date.exists_weekBounds whole
    have interval : week.IsInterval monday sunday := ⟨start, number⟩
    refine ⟨monday, intervalStart_week bounds, ?_⟩
    rw [(intervalLabel_eq_iff_between interval).2 ⟨above, below⟩, ofIntervalLabel?_intervalLabel interval]
  | month => exact ⟨d.firstOfMonth, rfl, Date.ofMonthLabel?_monthLabel d⟩

end Span

namespace Date

/-- How a date lies in its week and in its month, and how labels tell the intervals that it lies in from all others. -/
structure IntervalsNamed (d : Date) : Prop where
  week : ∃ monday sunday, d.weekBounds = .ok (monday, sunday) ∧ d.IsInWeek monday sunday
  month : d.IsInMonth d.firstOfMonth d.lastOfMonth
  /-- The dates with the same label of a week are those with the same bounds of a week. -/
  weekLabel : ∀ e : Date, d.weekLabel = e.weekLabel ↔ d.weekBounds = e.weekBounds
  /-- Of each span, the dates with the same label are those whose interval starts on the same day. -/
  label : ∀ (span : Span) (e : Date),
    span.intervalLabel d = span.intervalLabel e ↔ span.intervalStart d = span.intervalStart e
  /-- The first day of each interval is read back from its label. -/
  readBack : ∀ span : Span, ∃ first,
    span.intervalStart d = .ok first ∧ span.ofIntervalLabel? (span.intervalLabel d) = some first

/-- Between the first and the last year of the calendar, and so in every year from 1 to 9999, intervals and their labels
correspond one to one. -/
theorem intervalsNamed_of_years {d : Date} (preceded : firstYear < d.year) (followed : d.year < lastYear) :
    d.IntervalsNamed := by
  -- In these years no week is cut off.
  have whole := not_inCutWeek_of_years preceded followed
  constructor
  case week => exact exists_isInWeek whole
  case month => exact isInMonth_of_followed followed
  case weekLabel => exact fun _ => weekLabel_eq_iff_weekBounds_eq whole
  case label => exact fun _ _ => Span.intervalLabel_eq_iff_intervalStart_eq whole
  case readBack => exact Span.exists_ofIntervalLabel? whole

/-- The last day of a year with 53 weeks lies in a week that goes on behind New Year. -/
theorem intervalsNamed_longYearEnd : firstYear < Sample.longYearEnd.year ∧ Sample.longYearEnd.year < lastYear ∧
    Sample.longYearEnd.weekLabel = "2020-W53" ∧ Sample.longYearEnd.IntervalsNamed := by
  have preceded : firstYear < Sample.longYearEnd.year := by decide
  have followed : Sample.longYearEnd.year < lastYear := by decide
  exact ⟨preceded, followed, by decide, intervalsNamed_of_years preceded followed⟩

end Date
end Dashboard.Calendar
