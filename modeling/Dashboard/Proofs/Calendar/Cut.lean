import Dashboard.Proofs.Calendar.Interval

/-! The two weeks that the ends of the calendar cut off, whose dates have no bounds of a week. -/

namespace Dashboard.Calendar.Date

/-- Going back some days takes as many off the number. -/
theorem dayNumber_earlier? {days : Nat} {d e : Date} (found : earlier? days d = some e) :
    e.dayNumber = d.dayNumber - days := by
  -- Induction on the days, the first of which leads to the day before.
  induction days generalizing d with
  | zero =>
    cases found
    simp
  | succ days ih =>
    obtain ⟨middle, stepped, rest⟩ := Option.bind_eq_some_iff.1 found
    have behind := ih rest
    have step := dayNumber_prev? stepped
    omega

/-- The bounds that are found for a week are its Monday and the Sunday six days later. -/
theorem dayNumber_weekBounds {d monday sunday : Date} (found : d.weekBounds = .ok (monday, sunday)) :
    monday.dayNumber = d.dayNumber - (d.dayNumber - 1) % 7 ∧ sunday.dayNumber = monday.dayNumber + 6 := by
  unfold weekBounds at found
  -- Both ends are found, and they are counted from the date itself.
  dsimp only at found
  split at found
  · rename_i mondayFound sundayFound
    cases found
    have passed := dayNumber_earlier? mondayFound
    have left := dayNumber_later? sundayFound
    unfold sinceMonday at passed left
    omega
  · cases found
  · cases found

/-- The first day that is found for an interval starts one. -/
theorem isStart_of_intervalStart {span : Span} {d start : Date} (found : span.intervalStart d = .ok start) :
    span.IsStart start := by
  cases span with
  | day => trivial
  | week =>
    -- A first day is only found together with the Sunday, as the bounds of the week.
    cases bounds : d.weekBounds with
    | error missing =>
      rw [Span.intervalStart, bounds] at found
      cases found
    | ok ends =>
      obtain ⟨monday, sunday⟩ := ends
      rw [Span.intervalStart, bounds] at found
      obtain rfl : monday = start := Except.ok.inj found
      have number := (dayNumber_weekBounds bounds).1
      unfold Span.IsStart sinceMonday
      omega
  | month =>
    cases found
    exact firstOfMonth_day d

/-- No two intervals from the earliest to the latest date have the same label, wherever in the calendar they lie. -/
theorem nodup_intervals {span : Span} {earliest latest : Date} {labels : List String}
    (labelled : span.intervals earliest latest = .ok labels) : labels.Nodup := by
  -- The labels are those of a walk, which goes from the first day that was found.
  unfold Span.intervals at labelled
  cases found : span.intervalStart earliest with
  | error missing =>
    rw [found] at labelled
    cases labelled
  | ok start =>
    rw [found] at labelled
    cases labelled
    exact Span.nodup_walk_labels (isStart_of_intervalStart found) latest

/-- The first Monday of the calendar, which begins with a Thursday. -/
def firstMonday : Date :=
  (of? firstYear 1 5).get rfl

/-- The last Sunday of the calendar, which ends with a Monday. -/
def lastSunday : Date :=
  (of? lastYear 12 30).get rfl

/-- Before the first Monday there are less than seven days, and behind the last Sunday as well. -/
theorem dayNumber_mem_calendar (d : Date) :
    firstMonday.dayNumber - 7 < d.dayNumber ∧ d.dayNumber < lastSunday.dayNumber + 7 := by
  obtain ⟨above, below⟩ := dayNumber_mem_year d
  obtain ⟨yearAbove, yearBelow⟩ := d.year_mem
  have first : firstMonday.dayNumber = daysBeforeYear firstYear + 5 := by decide
  have last : lastSunday.dayNumber + 1 = daysBeforeYear lastYear + daysInYear lastYear := by decide
  -- Days of a later year have larger numbers, so that the first and the last year bound them all.
  have start : daysBeforeYear firstYear ≤ daysBeforeYear d.year := by
    rcases Int.lt_or_eq_of_le yearAbove with later | same
    · have := daysBeforeYear_add_le later
      omega
    · rw [same]
  -- The same holds at the other end, for the years before the last one.
  have end_ : daysBeforeYear d.year + daysInYear d.year ≤ daysBeforeYear lastYear + daysInYear lastYear := by
    rcases Int.lt_or_eq_of_le yearBelow with earlier | same
    · have := daysBeforeYear_add_le earlier
      omega
    · rw [same]
  omega

/-- A date of a week that the calendar cuts off, at its first or at its last end. -/
def InCutWeek (d : Date) : Prop :=
  d < firstMonday ∨ lastSunday < d

instance (d : Date) : Decidable d.InCutWeek :=
  inferInstanceAs (Decidable (d < firstMonday ∨ lastSunday < d))

/-- The first Monday begins a week, and the last Sunday ends one. -/
theorem dayNumber_ends : (firstMonday.dayNumber - 1) % 7 = 0 ∧ (lastSunday.dayNumber - 1) % 7 = 6 := by
  decide

/-- A week that is not cut off has its Monday and its Sunday. -/
theorem exists_weekBounds {d : Date} (whole : ¬ d.InCutWeek) : ∃ monday sunday : Date,
    d.weekBounds = .ok (monday, sunday) ∧ sinceMonday monday.dayNumber = 0 ∧
    sunday.dayNumber = monday.dayNumber + 6 ∧ monday ≤ d ∧ d ≤ sunday := by
  simp only [InCutWeek, not_or, lt_iff, Int.not_lt] at whole
  obtain ⟨above, below⟩ := whole
  obtain ⟨firstDay, lastDay⟩ := dayNumber_ends
  -- The Monday is not before the calendar's first, nor the Sunday behind its last.
  obtain ⟨monday, mondayNumber⟩ : ∃ e : Date, e.dayNumber = d.dayNumber - (d.dayNumber - 1) % 7 := by
    apply @exists_dayNumber firstMonday lastSunday
    · omega
    · omega
  obtain ⟨sunday, sundayNumber⟩ : ∃ e : Date, e.dayNumber = monday.dayNumber + 6 := by
    apply @exists_dayNumber firstMonday lastSunday
    · omega
    · omega
  -- Both ends exist, so the lookup finds them; what is left is that the date lies between them.
  have start : sinceMonday monday.dayNumber = 0 := by
    unfold sinceMonday
    omega
  have behind : monday ≤ d := le_iff.2 (by omega)
  have ahead : d ≤ sunday := le_iff.2 (by omega)
  exact ⟨monday, sunday, weekBounds_eq start sundayNumber behind ahead, start, sundayNumber, behind, ahead⟩

/-- A week that is cut off has no bounds. -/
theorem exists_weekBounds_error {d : Date} (cut : d.InCutWeek) : ∃ missing, d.weekBounds = .error missing := by
  cases bounds : d.weekBounds with
  | error missing => exact ⟨missing, rfl⟩
  -- Bounds that are found give a whole week of dates, which would have to lie in the calendar.
  | ok ends =>
    exfalso
    obtain ⟨monday, sunday⟩ := ends
    obtain ⟨firstDay, lastDay⟩ := dayNumber_ends
    obtain ⟨mondayNumber, sundayNumber⟩ := dayNumber_weekBounds bounds
    have mondayInside := dayNumber_mem_calendar monday
    have sundayInside := dayNumber_mem_calendar sunday
    -- Its Monday would be a week before the calendar's first, or its Sunday a week behind the last.
    rcases cut with early | late
    · rw [lt_iff] at early
      omega
    · rw [lt_iff] at late
      omega

/-- Dates of the same week are cut off together. -/
theorem inCutWeek_of_weekLabel_eq {d e : Date} (same : d.weekLabel = e.weekLabel) (cut : d.InCutWeek) :
    e.InCutWeek := by
  -- The label stands for a Thursday, and the Thursdays of a week that is cut off lie beyond all others.
  rw [weekLabel_eq_iff, thursdayNumber_eq, thursdayNumber_eq] at same
  obtain ⟨firstDay, lastDay⟩ := dayNumber_ends
  rcases cut with early | late
  · rw [lt_iff] at early
    exact .inl (lt_iff.2 (by omega))
  · rw [lt_iff] at late
    exact .inr (lt_iff.2 (by omega))

/-- A Monday up to a whole week is that of a whole week. -/
theorem not_inCutWeek_of_monday {monday d : Date} (start : sinceMonday monday.dayNumber = 0) (before : monday ≤ d)
    (whole : ¬ d.InCutWeek) : ¬ monday.InCutWeek := by
  have inside := dayNumber_mem_calendar monday
  obtain ⟨firstDay, -⟩ := dayNumber_ends
  unfold sinceMonday at start
  rw [le_iff] at before
  rintro (early | late)
  · -- There is no Monday before the first one.
    rw [lt_iff] at early
    omega
  · exact whole (.inr (lt_iff.2 (Int.lt_of_lt_of_le (lt_iff.1 late) before)))

/-- A walk by weeks meets the Monday of every date between its ends. -/
theorem exists_mem_walk_weekly {monday d last : Date} (start : sinceMonday monday.dayNumber = 0) (above : monday ≤ d)
    (below : d ≤ last) : ∃ met ∈ Stride.weekly.walk last monday, met.weekLabel = d.weekLabel := by
  rw [le_iff] at above below
  unfold sinceMonday at start
  -- The Monday of a date lies between the Monday where the walk begins and the date itself, so that it exists.
  obtain ⟨met, number⟩ : ∃ e : Date, e.dayNumber = d.dayNumber - (d.dayNumber - 1) % 7 := by
    apply @exists_dayNumber monday d
    · omega
    · omega
  refine ⟨met, (Stride.mem_walk Stride.weekly_visits (by unfold sinceMonday; omega)).2 ⟨?_, ?_, ?_⟩, ?_⟩
  -- It is a Monday in the range of the walk, and the date has the same Thursday.
  · unfold sinceMonday
    omega
  · exact le_iff.2 (by omega)
  · exact le_iff.2 (by omega)
  · rw [weekLabel_eq_iff, thursdayNumber_eq, thursdayNumber_eq]
    omega

end Dashboard.Calendar.Date
