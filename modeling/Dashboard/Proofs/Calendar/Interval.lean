import Dashboard.Calendar.Span
import Dashboard.Proofs.Calendar.Scan
import Dashboard.Proofs.Calendar.Stride
import Dashboard.Proofs.Calendar.Week

/-! Intervals of the calendar: days, weeks from Monday to Sunday, and months, each from the day after the last one. -/

namespace Dashboard.Calendar

namespace Stride

/-- Mondays are visited week by week. -/
theorem weekly_visits : weekly.Visits fun d => sinceMonday d.dayNumber = 0 where
  stays monday reached := by
    have := Date.dayNumber_later? reached
    unfold sinceMonday at *
    omega
  complete {d e} monday otherMonday later := by
    -- The other Monday lies at least seven days later, so that the calendar goes on for a week.
    rw [Date.lt_iff] at later
    unfold sinceMonday at monday otherMonday
    obtain ⟨next, number⟩ : ∃ next : Date, next.dayNumber = d.dayNumber + 7 := by
      apply @Date.exists_dayNumber d e
      · omega
      · omega
    refine ⟨next, Date.later?_of_dayNumber number, Date.le_iff.2 ?_⟩
    omega

end Stride

namespace Span

/-- The first and the last day of an interval: a single day, a Monday and the Sunday behind it, or those of a month. -/
def IsInterval : Span → Date → Date → Prop
  | day, first, last => last = first
  | week, first, last => sinceMonday first.dayNumber = 0 ∧ last.dayNumber = first.dayNumber + 6
  | month, first, last => first.day = 1 ∧ last = first.monthEnd

/-- The dates at which intervals start. -/
def IsStart : Span → Date → Prop
  | day, _ => True
  | week, d => sinceMonday d.dayNumber = 0
  | month, d => d.day = 1

/-- The last day of the interval that starts at a date. -/
def intervalEnd : Span → Date → Date
  | day, d => d
  | week, d => (Date.later? 6 d).getD d
  | month, d => d.monthEnd

/-- The stride of a span visits the dates at which its intervals start. -/
theorem intervalStride_visits (span : Span) : span.intervalStride.Visits span.IsStart := by
  cases span with
  | day => exact Stride.daily_visits
  | week => exact Stride.weekly_visits
  | month => exact Stride.monthly_visits

/-- Before the last year of the calendar an interval that starts also ends. -/
theorem isInterval_intervalEnd {span : Span} {d : Date} (start : span.IsStart d) (followed : d.year < lastYear) :
    span.IsInterval d (span.intervalEnd d) := by
  -- Six days behind a Monday the calendar has not ended.
  cases span with
  | day => rfl
  | week =>
    obtain ⟨sunday, number⟩ := Date.exists_later followed (show 6 ≤ 365 by decide)
    refine ⟨start, ?_⟩
    rw [intervalEnd, Date.later?_of_dayNumber number]
    exact number
  | month => exact ⟨start, rfl⟩

section

variable {span : Span} {first last : Date} (interval : span.IsInterval first last)
include interval

/-- The first day of an interval is one at which intervals start. -/
theorem isStart_of_isInterval : span.IsStart first := by
  cases span with
  | day => trivial
  | week => exact interval.1
  | month => exact interval.1

/-- The last day of an interval is found from its first one. -/
theorem intervalEnd_eq : span.intervalEnd first = last := by
  cases span with
  | day => exact Eq.symm interval
  | week => rw [intervalEnd, Date.later?_of_dayNumber interval.2, Option.getD_some]
  | month => exact interval.2.symm

/-- Inside an interval no other one starts. -/
theorem eq_first_of_isStart {d : Date} (start : span.IsStart d) (above : first ≤ d) (below : d ≤ last) :
    d = first := by
  -- A week has one Monday, and a month one first day.
  rw [Date.le_iff] at above below
  apply Date.eq_of_dayNumber_eq
  cases span with
  -- A day is an interval of its own.
  | day =>
    rw [show last = first from interval] at below
    omega
  | week =>
    -- Of the seven days of a week only one is a Monday.
    obtain ⟨monday, sunday⟩ := interval
    unfold IsStart at start
    unfold sinceMonday at monday start
    omega
  | month =>
    obtain ⟨firstDay, rfl⟩ := interval
    have sameMonth := (Date.firstOfMonth_eq_iff_between firstDay).2 ⟨Date.le_iff.2 above, Date.le_iff.2 below⟩
    rw [Date.firstOfMonth_of_firstDay start] at sameMonth
    rw [sameMonth]

/-- Exactly the dates of an interval have its label. -/
theorem intervalLabel_eq_iff_between {d : Date} :
    span.intervalLabel d = span.intervalLabel first ↔ first ≤ d ∧ d ≤ last := by
  -- A label tells days apart, or the Thursdays of weeks, or the first days of months.
  cases span with
  | day =>
    rw [show last = first from interval]
    constructor
    · intro same
      rw [Date.dayLabel_injective same]
      exact ⟨Std.le_refl first, Std.le_refl first⟩
    · rintro ⟨above, below⟩
      rw [Std.le_antisymm below above]
  | week =>
    -- Both weeks have the same Thursday when the date is no more than six days behind this Monday.
    obtain ⟨monday, sunday⟩ := interval
    unfold sinceMonday at monday
    rw [intervalLabel, intervalLabel, Date.weekLabel_eq_iff, Date.thursdayNumber_eq, Date.thursdayNumber_eq,
      Date.le_iff, Date.le_iff]
    omega
  | month =>
    obtain ⟨firstDay, rfl⟩ := interval
    rw [← Date.firstOfMonth_eq_iff_between firstDay, intervalLabel, intervalLabel, Date.monthLabel_eq_iff,
      Date.firstOfMonth_of_firstDay firstDay]

/-- The start of an interval is read back from its label. -/
theorem ofIntervalLabel?_intervalLabel : span.ofIntervalLabel? (span.intervalLabel first) = some first := by
  -- A day is read as it stands, a week by its Thursday, and a month by its first day.
  cases span with
  | day => exact Date.ofDayLabel?_dayLabel first
  | week =>
    obtain ⟨monday, -⟩ := interval
    unfold sinceMonday at monday
    apply Date.ofWeekLabel?_weekLabel
    rw [Date.thursdayNumber_eq]
    omega
  | month =>
    obtain ⟨firstDay, -⟩ := interval
    rw [ofIntervalLabel?, intervalLabel, Date.ofMonthLabel?_monthLabel, Date.firstOfMonth_of_firstDay firstDay]

/-- The next interval starts on the day behind the last one, as far as the calendar goes. -/
theorem intervalStride_next? : span.intervalStride.next? first = last.next? := by
  -- Both sides look for the same date, or for none where the calendar ends with this interval.
  cases span with
  | day =>
    rw [show last = first from interval]
    rfl
  | week =>
    obtain ⟨-, sunday⟩ := interval
    show Date.later? 7 first = last.next?
    cases found : last.next? with
    | some monday =>
      have number := Date.dayNumber_next? found
      exact Date.later?_of_dayNumber (by omega)
    | none =>
      -- A date seven days later would lie behind the Sunday, where the calendar has ended.
      cases reached : Date.later? 7 first with
      | none => rfl
      | some monday =>
        have number := Date.dayNumber_later? reached
        obtain ⟨next, exists_, -⟩ := Date.exists_next? (show last < monday from Date.lt_iff.2 (by omega))
        cases found.symm.trans exists_
  | month =>
    -- The last day of a month leaves no day in it, so that the calendar goes on with the next month.
    obtain ⟨firstDay, rfl⟩ := interval
    have least (year : Int) (month : Nat) : min 1 (daysInMonth year month) = 1 :=
      Nat.min_eq_left (daysInMonth_pos year month)
    have noDayLeft : ¬ first.monthEnd.day < daysInMonth first.monthEnd.year first.monthEnd.month := Nat.lt_irrefl _
    show first.nextMonth? = first.monthEnd.next?
    rw [Date.next?, if_neg noDayLeft, Date.nextMonth?, firstDay, least, least]
    rfl

/-- The stride leads to the day after the end of the interval. -/
theorem dayNumber_next_start {next : Date} (reached : span.intervalStride.next? first = some next) :
    next.dayNumber = last.dayNumber + 1 := by
  rw [intervalStride_next? interval] at reached
  exact Date.dayNumber_next? reached

section

variable {d : Date} (above : first ≤ d) (below : d ≤ last)
include above below

/-- The interval of a date is found with both of its ends, of which a day only has one. -/
theorem intervalBounds_eq (followed : first.year < lastYear) :
    span.intervalBounds d = .ok (first, if span = day then none else some last) := by
  cases span with
  | day =>
    rw [show last = first from interval] at below
    rw [Std.le_antisymm above below]
    rfl
  | week =>
    rw [intervalBounds, Date.weekBounds_eq interval.1 interval.2 above below]
    rfl
  | month =>
    obtain ⟨firstDay, rfl⟩ := interval
    -- The end of a month is found from the month behind it, which must be in the calendar.
    obtain rfl := (Date.firstOfMonth_eq_iff_between firstDay).2 ⟨above, below⟩
    rw [intervalBounds, @Date.lastOfMonth_eq_monthEnd d followed]
    rfl

/-- The interval of a date starts with its first day, whichever of its dates it is looked up by. -/
theorem intervalStart_eq : span.intervalStart d = .ok first := by
  -- Each kind of interval has its own way to its first day.
  cases span with
  | day =>
    rw [show last = first from interval] at below
    rw [Std.le_antisymm above below]
    rfl
  | week =>
    rw [intervalStart, Date.weekBounds_eq interval.1 interval.2 above below]
    rfl
  | month =>
    obtain ⟨firstDay, rfl⟩ := interval
    obtain rfl := (Date.firstOfMonth_eq_iff_between firstDay).2 ⟨above, below⟩
    rfl

end

/-- The interval of a later date does not start earlier. -/
theorem start_mono {otherFirst otherLast d e : Date} (other : span.IsInterval otherFirst otherLast) (above : first ≤ d)
    (order : d ≤ e) (below : e ≤ otherLast) : first ≤ otherFirst := by
  -- Were the other start earlier, then the interval would start inside the other one.
  rcases (Std.le_total : first ≤ otherFirst ∨ otherFirst ≤ first) with before | behind
  · exact before
  · have inside := Std.le_trans (Std.le_trans above order) below
    rw [eq_first_of_isStart other (isStart_of_isInterval interval) behind inside]
    exact Std.le_refl otherFirst

end

/-- Between the first and the last year of the calendar every date lies in an interval. -/
theorem exists_interval (span : Span) {d : Date} (preceded : firstYear < d.year) (followed : d.year < lastYear) :
    ∃ first last, span.IsInterval first last ∧ first ≤ d ∧ d ≤ last := by
  -- A day is its own interval, and every month has its first and its last day.
  cases span with
  | day => exact ⟨d, d, rfl, Std.le_refl d, Std.le_refl d⟩
  | week =>
    -- The Monday may lie in the year before, and the Sunday in the year behind.
    obtain ⟨monday, number⟩ := Date.exists_earlier preceded (show sinceMonday d.dayNumber ≤ 365 by
      unfold sinceMonday
      omega)
    unfold sinceMonday at number
    have start : week.IsStart monday := by
      unfold IsStart sinceMonday
      omega
    have before : monday ≤ d := Date.le_iff.2 (by omega)
    have interval := isInterval_intervalEnd start (Int.lt_of_le_of_lt (Date.year_mono before) followed)
    refine ⟨monday, _, interval, before, Date.le_iff.2 ?_⟩
    rw [interval.2]
    omega
  | month =>
    exact ⟨d.firstOfMonth, d.firstOfMonth.monthEnd, ⟨rfl, rfl⟩,
      (Date.firstOfMonth_eq_iff_between (Date.firstOfMonth_day d)).1 rfl⟩

/-- The intervals from the one that starts on a day up to the one that holds the latest date. -/
def intervalsFrom (span : Span) (first latest : Date) : List (Date × Date) :=
  (span.intervalStride.walk latest first).map fun d => (d, span.intervalEnd d)

/-- The labels of the intervals are those of the dates that a walk meets. -/
@[simp] theorem map_intervalLabel_intervalsFrom (span : Span) (first latest : Date) :
    (span.intervalsFrom first latest).map (span.intervalLabel ·.1) =
      (span.intervalStride.walk latest first).map span.intervalLabel := by
  simp [intervalsFrom]

/-- Of dates at which intervals start no two have the same label. -/
theorem eq_of_intervalLabel_eq {span : Span} {d e : Date} (start : span.IsStart d) (otherStart : span.IsStart e)
    (same : span.intervalLabel d = span.intervalLabel e) : d = e := by
  cases span with
  | day => exact Date.dayLabel_injective same
  | week =>
    -- Both are Mondays, three days before the Thursday that the label stands for.
    have thursday := Date.weekLabel_eq_iff.1 same
    rw [Date.thursdayNumber_eq, Date.thursdayNumber_eq] at thursday
    unfold IsStart sinceMonday at start otherStart
    exact Date.eq_of_dayNumber_eq (by omega)
  | month =>
    rw [← Date.firstOfMonth_of_firstDay start, ← Date.firstOfMonth_of_firstDay otherStart]
    exact Date.monthLabel_eq_iff.1 same

/-- A walk from the start of an interval meets no label twice. -/
theorem nodup_walk_labels {span : Span} {first : Date} (start : span.IsStart first) (latest : Date) :
    ((span.intervalStride.walk latest first).map span.intervalLabel).Nodup := by
  refine List.pairwise_map.2 ((Stride.walk_pairwise _ latest first).imp_of_mem ?_)
  intro d e metFirst met before same
  -- All dates that are met start intervals, so that equal labels would make the later date the earlier one.
  have starts {d : Date} (met : d ∈ span.intervalStride.walk latest first) : span.IsStart d :=
    ((Stride.mem_walk span.intervalStride_visits start).1 met).1
  rw [eq_of_intervalLabel_eq (starts metFirst) (starts met) same] at before
  exact Int.lt_irrefl _ before

/-- Intervals tile the calendar between two dates when they follow each other without a gap from one to the other. -/
structure Tiles (span : Span) (earliest latest : Date) (intervals : List (Date × Date)) : Prop where
  /-- All of them are intervals of the calendar. -/
  each : ∀ interval ∈ intervals, span.IsInterval interval.1 interval.2
  /-- Each of them starts on the day after the end of the one before it. -/
  adjacent : intervals.IsChain fun interval next => next.1.dayNumber = interval.2.dayNumber + 1
  /-- The first one holds the earliest date. -/
  first : ∃ interval, intervals.head? = some interval ∧ interval.1 ≤ earliest ∧ earliest ≤ interval.2
  /-- The last one holds the latest date. -/
  last : ∃ interval, intervals.getLast? = some interval ∧ interval.1 ≤ latest ∧ latest ≤ interval.2

section

variable {span : Span} {earliest latest first last : Date}
variable (interval : span.IsInterval first last) (followed : latest.year < lastYear)
include interval followed

/-- Each start that a walk meets is that of an interval. -/
theorem isInterval_of_mem_walk {d : Date} (met : d ∈ span.intervalStride.walk latest first) :
    span.IsInterval d (span.intervalEnd d) := by
  have isStart := isStart_of_isInterval interval
  obtain ⟨start, -, below⟩ := (Stride.mem_walk span.intervalStride_visits isStart).1 met
  exact isInterval_intervalEnd start (Int.lt_of_le_of_lt (Date.year_mono below) followed)

variable (preceded : firstYear < earliest.year) (before : first ≤ earliest)
include preceded before

/-- The interval of every date from the earliest to the latest one is met. -/
theorem exists_mem_walk {d : Date} (above : earliest ≤ d) (below : d ≤ latest) :
    ∃ s ∈ span.intervalStride.walk latest first, s ≤ d ∧ d ≤ span.intervalEnd s := by
  have dPreceded := Int.lt_of_lt_of_le preceded (Date.year_mono above)
  have dFollowed := Int.lt_of_le_of_lt (Date.year_mono below) followed
  obtain ⟨s, sLast, ofDate, sAbove, sBelow⟩ := span.exists_interval dPreceded dFollowed
  refine ⟨s, ?_, sAbove, ?_⟩
  · -- Its start lies between the first one and the latest date.
    rw [Stride.mem_walk span.intervalStride_visits (isStart_of_isInterval interval)]
    exact ⟨isStart_of_isInterval ofDate, start_mono interval ofDate before above sBelow, Std.le_trans sAbove below⟩
  · rwa [intervalEnd_eq ofDate]

/-- Every date from the earliest to the latest one has the label of one of the intervals. -/
theorem intervalLabel_mem {d : Date} (above : earliest ≤ d) (below : d ≤ latest) :
    span.intervalLabel d ∈ (span.intervalsFrom first latest).map (span.intervalLabel ·.1) := by
  -- The date lies in an interval that the walk meets, and has the label of its first day.
  obtain ⟨s, met, sAbove, sBelow⟩ := exists_mem_walk interval followed preceded before above below
  have ofStart := isInterval_of_mem_walk interval followed met
  rw [map_intervalLabel_intervalsFrom, (intervalLabel_eq_iff_between ofStart).2 ⟨sAbove, sBelow⟩]
  exact List.mem_map_of_mem met

/-- The intervals from that of the earliest to that of the latest date tile the calendar. -/
theorem tiles_intervalsFrom (behind : earliest ≤ last) (order : earliest ≤ latest) :
    Tiles span earliest latest (span.intervalsFrom first latest) := by
  constructor
  case each =>
    intro found member
    obtain ⟨d, met, rfl⟩ := List.mem_map.1 member
    exact isInterval_of_mem_walk interval followed met
  case adjacent =>
    -- Each step of the walk leads to the day after the end of an interval.
    rw [intervalsFrom, List.isChain_map]
    refine (Stride.walk_isChain _ latest first).imp_of_mem_imp ?_
    intro d next met _ reached
    exact dayNumber_next_start (isInterval_of_mem_walk interval followed met) reached
  case first =>
    refine ⟨(first, span.intervalEnd first), ?_, before, ?_⟩
    · rw [intervalsFrom, List.head?_map, Stride.head?_walk (Std.le_trans before order), Option.map_some]
    · rwa [intervalEnd_eq interval]
  case last =>
    obtain ⟨s, met, above, below⟩ := exists_mem_walk interval followed preceded before order (Std.le_refl latest)
    -- No other interval starts behind that of the latest date.
    have greatest : ∀ other ∈ span.intervalStride.walk latest first, other ≤ s := by
      intro other otherMet
      have ofOther := isInterval_of_mem_walk interval followed otherMet
      have upTo := (Stride.le_of_mem_walk otherMet).2
      exact start_mono ofOther (isInterval_of_mem_walk interval followed met) (Std.le_refl other) upTo below
    refine ⟨(s, span.intervalEnd s), ?_, above, below⟩
    rw [intervalsFrom, List.getLast?_map, Stride.getLast?_walk met greatest, Option.map_some]

end

end Span
end Dashboard.Calendar
