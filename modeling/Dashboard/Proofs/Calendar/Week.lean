import Dashboard.Calendar.Week
import Dashboard.Proofs.Calendar.Shift
import Dashboard.Proofs.Number.Decimal

/-! Weeks and their labels: a label names the week of its dates and no other, and its Monday is read back from it. -/

namespace Dashboard.Calendar

open Decimal (padded padded_injective padded_ne_cons length_padded)

/-- The first Thursday of a year is a Thursday among the year's first seven days. -/
theorem firstThursday_mem (year : Int) : daysBeforeYear year < firstThursday year ∧
    firstThursday year ≤ daysBeforeYear year + 7 ∧ firstThursday year % 7 = 4 := by
  simp only [firstThursday, sinceMonday]
  omega

/-- Years of weeks are told apart by their digits. -/
theorem weekYearDigits_injective {m n : Int} (same : Date.weekYearDigits m = Date.weekYearDigits n) : m = n := by
  -- Only negative years carry a sign.
  unfold Date.weekYearDigits at same
  split at same <;> split at same
  · have := padded_injective (List.tail_eq_of_cons_eq same)
    omega
  · exact absurd same.symm (padded_ne_cons (by decide))
  · exact absurd same (padded_ne_cons (by decide))
  · have := padded_injective same
    omega

/-- The year of a week is read back from its digits. -/
theorem readInt?_weekYearDigits (year : Int) : Decimal.readInt? (Date.weekYearDigits year) = some year := by
  unfold Date.weekYearDigits
  -- A negative year is written with a minus, and its digits are read behind it.
  split
  · rw [Decimal.readInt?, Decimal.readNat?_padded]
    show some (-(year.natAbs : Int)) = some year
    congr 1
    omega
  · -- The first digit keeps the text from being read as one with a sign.
    cases shape : padded 4 year.toNat with
    | nil => exact absurd shape (Decimal.padded_ne_nil 4 _)
    | cons c cs =>
      have digit := Decimal.isDigit_of_mem_padded (shape ▸ List.mem_cons_self)
      rw [Decimal.readInt?_of_isDigit digit, ← shape, Decimal.readNat?_padded]
      simp only [Option.map_some, Option.some.injEq, Int.ofNat_eq_natCast]
      omega

/-- The mark of a week does not stand in the digits of its year. -/
theorem not_mem_weekYearDigits (year : Int) : 'W' ∉ Date.weekYearDigits year := by
  -- A mark is no digit, and the sign of a year is no mark.
  have noDigit : ∀ width n, 'W' ∉ padded width n := by
    intro width n member
    have := Decimal.isDigit_of_mem_padded member
    revert this
    decide
  unfold Date.weekYearDigits
  split
  · simp [noDigit]
  · exact noDigit 4 _

/-- A text is cut at the first mark in it. -/
theorem splitWeekMark_append {front : List Char} (unmarked : 'W' ∉ front) (back : List Char) :
    Date.splitWeekMark (front ++ '-' :: 'W' :: back) = some (front, back) := by
  -- Induction on the characters in front, none of which starts a mark.
  induction front with
  | nil => rfl
  | cons c cs ih =>
    obtain ⟨_, restUnmarked⟩ := not_or.1 (List.mem_cons.not.1 unmarked)
    rw [List.cons_append, Date.splitWeekMark, ih restUnmarked]
    · rfl
    · -- A mark at this place would have its letter among the characters in front.
      intro week _ shape
      cases cs with
      | nil => simp at shape
      | cons d ds =>
        obtain ⟨rfl, -⟩ := List.cons.inj shape
        exact absurd List.mem_cons_self restUnmarked

namespace Date

/-- The Thursday of a date's week lies three days behind its Monday. -/
theorem thursdayNumber_eq (d : Date) : d.thursdayNumber = d.dayNumber - (d.dayNumber - 1) % 7 + 3 := by
  unfold thursdayNumber sinceMonday
  omega

/-- A week counts to the year that holds its Thursday. -/
theorem weekYear_mem (d : Date) :
    daysBeforeYear d.weekYear < d.thursdayNumber ∧
      d.thursdayNumber ≤ daysBeforeYear d.weekYear + daysInYear d.weekYear := by
  have thursday := thursdayNumber_eq d
  obtain ⟨above, below⟩ := dayNumber_mem_year d
  have next := daysBeforeYear_succ d.year
  have length := daysInYear_mem d.year
  -- The Thursday lies at most three days from the date, so at most one New Year lies between them.
  unfold weekYear
  -- Then the week counts to the year before, to the year behind, or to the date's own.
  split
  · have before := daysBeforeYear_succ (d.year - 1)
    have beforeLength := daysInYear_mem (d.year - 1)
    rw [show d.year - 1 + 1 = d.year by omega] at before
    omega
  · split
    · have behindLength := daysInYear_mem (d.year + 1)
      omega
    · omega

/-- A week is numbered by the weeks from the first Thursday of its year on. -/
theorem thursdayNumber_eq_firstThursday (d : Date) :
    1 ≤ d.weekNumber ∧ d.weekNumber ≤ 53 ∧
      d.thursdayNumber = firstThursday d.weekYear + 7 * ((d.weekNumber : Int) - 1) := by
  -- The Thursday of the week lies in the year, so that whole weeks have passed since the first one.
  have thursday := thursdayNumber_eq d
  obtain ⟨above, below⟩ := weekYear_mem d
  obtain ⟨firstAbove, firstBelow, firstDay⟩ := firstThursday_mem d.weekYear
  have length := daysInYear_mem d.weekYear
  unfold weekNumber
  omega

/-- Dates have the same label of a week exactly when their weeks have the same Thursday. -/
theorem weekLabel_eq_iff {d e : Date} : d.weekLabel = e.weekLabel ↔ d.thursdayNumber = e.thursdayNumber := by
  obtain ⟨numberPositive, numberSmall, thursday⟩ := thursdayNumber_eq_firstThursday d
  obtain ⟨otherPositive, otherSmall, otherThursday⟩ := thursdayNumber_eq_firstThursday e
  constructor
  · intro same
    -- The mark and the number take a fixed number of places at the end.
    have tails : ('-' :: 'W' :: padded 2 d.weekNumber).length = ('-' :: 'W' :: padded 2 e.weekNumber).length := by
      simp only [List.length_cons]
      rw [length_padded (by omega) (by omega), length_padded (by omega) (by omega)]
    obtain ⟨sameYear, sameWeek⟩ := List.append_inj' (String.ofList_inj.1 same) tails
    have sameNumber := padded_injective (List.tail_eq_of_cons_eq (List.tail_eq_of_cons_eq sameWeek))
    rw [thursday, otherThursday, weekYearDigits_injective sameYear, sameNumber]
  · intro same
    -- The Thursday fixes the year of the week, and with it the number.
    obtain ⟨above, below⟩ := weekYear_mem d
    obtain ⟨otherAbove, otherBelow⟩ := weekYear_mem e
    rw [← same] at otherAbove otherBelow
    have sameYear : e.weekYear = d.weekYear := year_unique above below otherAbove otherBelow
    have sameNumber : e.weekNumber = d.weekNumber := by
      rw [sameYear] at otherThursday
      omega
    unfold weekLabel
    rw [sameYear, sameNumber]

/-- From the label of a week its Monday is read back. -/
theorem ofWeekLabel?_weekLabel {d monday : Date} (first : monday.dayNumber = d.thursdayNumber - 3) :
    ofWeekLabel? d.weekLabel = some monday := by
  obtain ⟨numberPositive, -, thursday⟩ := thursdayNumber_eq_firstThursday d
  obtain ⟨-, below⟩ := weekYear_mem d
  have next := daysBeforeYear_succ d.weekYear
  have week : ofWeek? d.weekYear d.weekNumber = some monday := by
    -- The year has this week, since its Thursday lies in the year.
    unfold ofWeek?
    simp only [← thursday, ← first]
    rw [if_pos ⟨numberPositive, by omega⟩]
    exact ofDayNumber?_dayNumber monday
  unfold ofWeekLabel? weekLabel
  rw [String.toList_ofList, splitWeekMark_append (not_mem_weekYearDigits d.weekYear)]
  simp [readInt?_weekYearDigits, Decimal.readNat?_padded, week]

/-- The bounds of a week are its Monday and the Sunday six days later, as far as the calendar has them. -/
theorem weekBounds_eq {d monday sunday : Date} (first : sinceMonday monday.dayNumber = 0)
    (last : sunday.dayNumber = monday.dayNumber + 6) (above : monday ≤ d) (below : d ≤ sunday) :
    d.weekBounds = .ok (monday, sunday) := by
  -- Both ends are as far from the date as the date is from the Monday.
  rw [le_iff] at above below
  unfold sinceMonday at first
  have passed : d.dayNumber = monday.dayNumber + (sinceMonday d.dayNumber : Nat) := by
    unfold sinceMonday
    omega
  have left : sunday.dayNumber = d.dayNumber + (6 - sinceMonday d.dayNumber : Nat) := by omega
  unfold weekBounds
  simp only [earlier?_of_dayNumber passed, later?_of_dayNumber left]

end Date
end Dashboard.Calendar
