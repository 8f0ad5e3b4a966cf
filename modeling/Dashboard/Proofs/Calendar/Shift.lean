import Dashboard.Proofs.Calendar.Date

/-! Dates by their numbers: which date lies some days before or after another one, and which date has a number. -/

namespace Dashboard.Calendar

/-- December always has 31 days. -/
@[simp] theorem daysInMonth_december (year : Int) : daysInMonth year 12 = 31 := by
  simp [daysInMonth]

/-- No year is shorter than 365 days or longer than 366. -/
theorem daysInYear_mem (year : Int) : 365 ≤ daysInYear year ∧ daysInYear year ≤ 366 := by
  unfold daysInYear
  split <;> omega

namespace Date

/-- The day before has the number before. -/
theorem dayNumber_prev? {d e : Date} (found : d.prev? = some e) : e.dayNumber = d.dayNumber - 1 := by
  have monthRange := d.month_mem
  have dayRange := d.day_mem
  unfold prev? at found
  split at found
  · -- Inside a month the day goes down by one.
    obtain ⟨sameYear, sameMonth, dayBefore⟩ := of?_eq_some found
    simp only [dayNumber, sameYear, sameMonth, dayBefore]
    omega
  · rename_i firstDay
    split at found
    · -- The first of a month follows the last day of the month before it.
      obtain ⟨sameYear, monthBefore, lastDay⟩ := of?_eq_some found
      have step := daysBeforeMonth_succ d.year (d.month - 1) (by omega)
      rw [show d.month - 1 + 1 = d.month by omega] at step
      simp only [dayNumber, sameYear, monthBefore, lastDay, step]
      omega
    · -- New Year's Day follows the last day of December.
      rename_i firstMonth
      obtain ⟨yearBefore, december, lastDay⟩ := of?_eq_some found
      have january : d.month = 1 := by omega
      have year := daysBeforeYear_succ (d.year - 1)
      have months := daysBeforeMonth_succ (d.year - 1) 12 (by omega)
      rw [show d.year - 1 + 1 = d.year by omega] at year
      rw [daysBeforeMonth_thirteen, daysInMonth_december] at months
      simp only [dayNumber, yearBefore, december, lastDay, january, daysBeforeMonth_one]
      omega

/-- Behind an earlier date the calendar does not begin. -/
theorem exists_prev? {d e : Date} (earlier : e < d) : ∃ prev, d.prev? = some prev := by
  have yearRange := d.year_mem
  have monthRange := d.month_mem
  have dayRange := d.day_mem
  unfold prev?
  -- Inside a month the day before is of the same month, and on its first day it is the last one of the month before.
  split
  · exact exists_of? yearRange monthRange (by omega)
  · split
    · exact exists_of? yearRange (by omega) ⟨daysInMonth_pos _ _, Nat.le_refl _⟩
    · -- Before New Year's Day an earlier date lies in an earlier year.
      have earlierYear : e.year < d.year := by
        refine Int.not_le.1 fun notEarlier => ?_
        have earlier : e.dayNumber < d.dayNumber := earlier
        have january : d.month = 1 := by omega
        have newYear : d.dayNumber = daysBeforeYear d.year + 1 := by
          simp only [dayNumber, january, daysBeforeMonth_one]
          omega
        have inside := (dayNumber_mem_year e).1
        rcases Int.lt_or_eq_of_le notEarlier with later | same
        · have := daysBeforeYear_add_le later
          omega
        · rw [same] at newYear
          omega
      -- The year before is therefore in the calendar, and has its December.
      have := e.year_mem
      exact exists_of? (by omega) (by omega) (by simp)

/-- The date some days later is found by its number. -/
theorem later?_of_dayNumber {days : Nat} {d e : Date} (apart : e.dayNumber = d.dayNumber + days) :
    later? days d = some e := by
  induction days generalizing d with
  | zero =>
    have same : d = e := eq_of_dayNumber_eq (by omega)
    rw [later?, same]
  | succ days ih =>
    -- The next day exists, as a later date does, and it is one day closer.
    obtain ⟨next, found, -⟩ := exists_next? (show d < e from lt_iff.2 (by omega))
    have step := dayNumber_next? found
    rw [later?, found, Option.bind_some]
    exact ih (by omega)

/-- The date some days earlier is found by its number. -/
theorem earlier?_of_dayNumber {days : Nat} {d e : Date} (apart : d.dayNumber = e.dayNumber + days) :
    earlier? days d = some e := by
  induction days generalizing d with
  | zero =>
    have same : d = e := eq_of_dayNumber_eq (by omega)
    rw [earlier?, same]
  | succ days ih =>
    -- The day before exists, as an earlier date does, and it is one day closer.
    obtain ⟨prev, found⟩ := exists_prev? (show e < d from lt_iff.2 (by omega))
    have step := dayNumber_prev? found
    rw [earlier?, found, Option.bind_some]
    exact ih (by omega)

/-- Between the numbers of two dates every number is that of a date. -/
theorem exists_dayNumber {first last : Date} {n : Int} (above : first.dayNumber ≤ n) (below : n ≤ last.dayNumber) :
    ∃ d : Date, d.dayNumber = n := by
  -- Induction on the distance from the first date, one day at a time.
  obtain ⟨days, rfl⟩ : ∃ days : Nat, n = first.dayNumber + days := ⟨(n - first.dayNumber).toNat, by omega⟩
  clear above
  induction days with
  | zero => exact ⟨first, by simp⟩
  | succ days ih =>
    obtain ⟨d, number⟩ := ih (by omega)
    obtain ⟨next, found, -⟩ := exists_next? (show d < last from lt_iff.2 (by omega))
    exact ⟨next, by rw [dayNumber_next? found, number]; omega⟩

/-- The first and the last day of a year have its first and its last number. -/
theorem exists_yearEnds {year : Int} (yearRange : firstYear ≤ year ∧ year ≤ lastYear) :
    ∃ newYear yearEnd : Date, newYear.dayNumber = daysBeforeYear year + 1 ∧
      yearEnd.dayNumber = daysBeforeYear year + daysInYear year := by
  refine ⟨⟨year, 1, 1, yearRange, by decide, by simp [daysInMonth_pos, Nat.succ_le_iff]⟩,
    ⟨year, 12, 31, yearRange, by decide, by simp⟩, ?_, ?_⟩
  · simp [dayNumber]
  · -- The days before the thirteenth month are all days of the year.
    have months := daysBeforeMonth_succ year 12 (by omega)
    rw [daysBeforeMonth_thirteen, daysInMonth_december] at months
    simp only [dayNumber]
    omega

/-- In a year behind the first one there is a date a few days earlier. -/
theorem exists_earlier {d : Date} {days : Nat} (preceded : firstYear < d.year) (few : days ≤ 365) :
    ∃ e : Date, e.dayNumber = d.dayNumber - days := by
  -- The year before starts no later than that.
  have yearRange := d.year_mem
  have before : firstYear ≤ d.year - 1 ∧ d.year - 1 ≤ lastYear := by omega
  obtain ⟨newYear, -, number, -⟩ := exists_yearEnds before
  have year := daysBeforeYear_succ (d.year - 1)
  have length := daysInYear_mem (d.year - 1)
  have inside := (dayNumber_mem_year d).1
  rw [show d.year - 1 + 1 = d.year by omega] at year
  apply @exists_dayNumber newYear d
  · omega
  · omega

/-- In a year before the last one there is a date a few days later. -/
theorem exists_later {d : Date} {days : Nat} (followed : d.year < lastYear) (few : days ≤ 365) :
    ∃ e : Date, e.dayNumber = d.dayNumber + days := by
  -- The year behind ends no earlier than that.
  have yearRange := d.year_mem
  have behind : firstYear ≤ d.year + 1 ∧ d.year + 1 ≤ lastYear := by omega
  obtain ⟨-, yearEnd, -, number⟩ := exists_yearEnds behind
  have year := daysBeforeYear_succ d.year
  have length := daysInYear_mem (d.year + 1)
  have inside := (dayNumber_mem_year d).2
  apply @exists_dayNumber d yearEnd
  · omega
  · omega

/-- A later date lies in no earlier year. -/
theorem year_mono {d e : Date} (order : d ≤ e) : d.year ≤ e.year := by
  apply Int.not_lt.1
  intro earlier
  -- The numbers of an earlier year are all smaller.
  have := dayNumber_lt_of_year_lt earlier
  rw [le_iff] at order
  omega

/-- The year of a number is the one that a year of the average length suggests, or a neighbour of it. -/
theorem year_near_guess {year n : Int} (above : daysBeforeYear year < n)
    (below : n ≤ daysBeforeYear year + daysInYear year) :
    n * 400 / 146097 ≤ year ∧ year ≤ n * 400 / 146097 + 2 := by
  -- The quotients stray from the average length by less than a year.
  have length := daysInYear_mem year
  unfold daysBeforeYear at above below
  omega

/-- The year that holds a number is the only one. -/
theorem year_unique {year other n : Int} (above : daysBeforeYear year < n)
    (below : n ≤ daysBeforeYear year + daysInYear year) (otherAbove : daysBeforeYear other < n)
    (otherBelow : n ≤ daysBeforeYear other + daysInYear other) : other = year := by
  -- Another year ends before this one starts, or starts when it has ended.
  rcases Int.lt_trichotomy other year with earlier | same | later
  · have := daysBeforeYear_add_le earlier
    omega
  · exact same
  · have := daysBeforeYear_add_le later
    omega

/-- A search over some candidates finds the only one that fits. -/
theorem find?_eq_some_of_unique {α : Type} {fits : α → Bool} {candidates : List α} {item : α}
    (listed : item ∈ candidates) (here : fits item = true)
    (only : ∀ other ∈ candidates, fits other = true → other = item) :
    candidates.find? fits = some item := by
  cases found : candidates.find? fits with
  | none => simp [List.find?_eq_none.1 found item listed] at here
  | some other => rw [only other (List.mem_of_find?_eq_some found) (List.find?_some found)]

/-- From its number a date is found again. -/
theorem ofDayNumber?_dayNumber (d : Date) : ofDayNumber? d.dayNumber = some d := by
  have monthRange := d.month_mem
  have dayRange := d.day_mem
  obtain ⟨above, below⟩ := dayNumber_mem_year d
  obtain ⟨low, high⟩ := year_near_guess above below
  -- The year is among the three candidates and the only one that holds the number.
  have year : [d.dayNumber * 400 / 146097 + 1 - 1, d.dayNumber * 400 / 146097 + 1,
      d.dayNumber * 400 / 146097 + 1 + 1].find? (fun year => decide (daysBeforeYear year < d.dayNumber ∧
        d.dayNumber ≤ daysBeforeYear year + daysInYear year)) = some d.year := by
    apply find?_eq_some_of_unique
    · simp only [List.mem_cons, List.not_mem_nil, or_false]
      omega
    · exact decide_eq_true ⟨above, below⟩
    · intro other _ fits
      obtain ⟨otherAbove, otherBelow⟩ := of_decide_eq_true fits
      exact year_unique above below otherAbove otherBelow
  -- What is left of the number counts the days of that year.
  have ordinal : (d.dayNumber - daysBeforeYear d.year).toNat = daysBeforeMonth d.year d.month + d.day := by
    unfold dayNumber
    omega
  -- The month is the first one that does not end before the day.
  have month : (List.range' 1 12).find? (fun month => decide (daysBeforeMonth d.year d.month + d.day ≤
      daysBeforeMonth d.year month + daysInMonth d.year month)) = some d.month := by
    rw [List.find?_range'_eq_some]
    refine ⟨decide_eq_true (by omega), by simp; omega, fun month above below => ?_⟩
    have := daysBeforeMonth_add_le d.year above below
    simp
    omega
  unfold ofDayNumber?
  simp only [year, ordinal, month, bind, Option.bind_some]
  rw [show daysBeforeMonth d.year d.month + d.day - daysBeforeMonth d.year d.month = d.day by omega]
  exact of?_fields d

/-- The last day of the month of a date. -/
def monthEnd (d : Date) : Date :=
  { d with day := daysInMonth d.year d.month, day_mem := ⟨daysInMonth_pos _ _, Nat.le_refl _⟩ }

/-- Before the last year of the calendar the last day of a month is found. -/
theorem lastOfMonth_eq_monthEnd {d : Date} (followed : d.year < lastYear) : d.lastOfMonth = d.monthEnd := by
  have yearRange := d.year_mem
  have monthRange := d.month_mem
  -- The day before the first of the next month is looked up by its fields.
  have found : d.firstOfMonth.nextMonth?.bind prev? = of? d.year d.month (daysInMonth d.year d.month) := by
    unfold nextMonth? firstOfMonth
    by_cases inside : d.month < 12
    · -- The next month lies in the same year.
      obtain ⟨next, exists_⟩ := exists_of? yearRange (show 1 ≤ d.month + 1 ∧ d.month + 1 ≤ 12 by omega)
        ⟨Nat.le_refl 1, daysInMonth_pos d.year (d.month + 1)⟩
      obtain ⟨sameYear, nextMonth, firstDay⟩ := of?_eq_some exists_
      have least : min 1 (daysInMonth d.year (d.month + 1)) = 1 := Nat.min_eq_left (daysInMonth_pos _ _)
      simp only [if_pos inside, least, exists_, Option.bind_some, prev?, sameYear, nextMonth, firstDay]
      rw [if_neg (by omega), if_pos (by omega), Nat.add_sub_cancel]
    · -- Behind December comes the January of a year that the calendar still has.
      have december : d.month = 12 := by omega
      obtain ⟨next, exists_⟩ := exists_of? (show firstYear ≤ d.year + 1 ∧ d.year + 1 ≤ lastYear by omega)
        (show 1 ≤ 1 ∧ 1 ≤ 12 by omega) ⟨Nat.le_refl 1, daysInMonth_pos (d.year + 1) 1⟩
      obtain ⟨nextYear, january, firstDay⟩ := of?_eq_some exists_
      have least : min 1 (daysInMonth (d.year + 1) 1) = 1 := Nat.min_eq_left (daysInMonth_pos _ _)
      simp only [if_neg inside, least, exists_, Option.bind_some, prev?, nextYear, january, firstDay]
      rw [if_neg (by omega), if_neg (by omega), december, daysInMonth_december, Int.add_sub_cancel]
  unfold lastOfMonth
  rw [found]
  exact congrArg (Option.getD · d) (of?_fields d.monthEnd)

/-- A date lies between the first and the last day of a month exactly when its month starts on that first day. -/
theorem firstOfMonth_eq_iff_between {first d : Date} (firstDay : first.day = 1) :
    d.firstOfMonth = first ↔ first ≤ d ∧ d ≤ first.monthEnd := by
  constructor
  · -- The month of a date begins no later than the date and ends no earlier.
    rintro rfl
    have dayRange := d.day_mem
    refine ⟨firstOfMonth_le d, le_iff.2 ?_⟩
    simp only [dayNumber, monthEnd, firstOfMonth]
    omega
  · -- Both ends have the same first day, which is then also that of the date.
    rintro ⟨above, below⟩
    have ofFirst := firstOfMonth_of_firstDay firstDay
    have ofLast : first.monthEnd.firstOfMonth = first.firstOfMonth := firstOfMonth_eq_iff.2 ⟨rfl, rfl⟩
    have fromFirst := firstOfMonth_mono above
    have toLast := firstOfMonth_mono below
    rw [ofLast] at toLast
    rw [ofFirst] at fromFirst toLast
    exact Std.le_antisymm toLast fromFirst

end Date
end Dashboard.Calendar
