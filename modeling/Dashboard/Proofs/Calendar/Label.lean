import Dashboard.Calendar.Label
import Dashboard.Proofs.Calendar.Date
import Dashboard.Proofs.Number.Decimal

/-! Labels tell days and months apart, whatever their year. -/

namespace Dashboard.Calendar

open Decimal (padded padded_injective padded_ne_cons length_padded)

/-- The digits of a year start with a sign outside the four-digit years, and with a digit inside them. -/
theorem yearDigits_cases (year : Int) :
    (0 ≤ year ∧ year ≤ 9999 ∧ yearDigits year = padded 4 year.toNat) ∨
    (year < 0 ∧ yearDigits year = '-' :: padded 4 year.natAbs) ∨
    (9999 < year ∧ yearDigits year = '+' :: padded 4 year.natAbs) := by
  -- The year is plain, or else its sign is decided by whether it is negative.
  unfold yearDigits
  split
  · rename_i plain
    exact .inl ⟨plain.1, plain.2, rfl⟩
  · rename_i signed
    split
    · rename_i negative
      exact .inr (.inl ⟨negative, rfl⟩)
    · exact .inr (.inr ⟨by omega, rfl⟩)

/-- No two years have the same digits. -/
theorem yearDigits_injective {m n : Int} (same : yearDigits m = yearDigits n) : m = n := by
  -- Years of different kinds differ in the first character, and the numbers settle the rest.
  rcases yearDigits_cases m with ⟨lowM, highM, m_digits⟩ | ⟨signM, m_digits⟩ | ⟨signM, m_digits⟩ <;>
  rcases yearDigits_cases n with ⟨lowN, highN, n_digits⟩ | ⟨signN, n_digits⟩ | ⟨signN, n_digits⟩ <;>
  rw [m_digits, n_digits] at same
  · -- First both years have four digits, then both a plus, and last both a minus; the six mixed cases cannot be.
    have := padded_injective same
    omega
  · exact absurd same (padded_ne_cons (by decide))
  · exact absurd same (padded_ne_cons (by decide))
  · exact absurd same.symm (padded_ne_cons (by decide))
  · have := padded_injective (List.tail_eq_of_cons_eq same)
    omega
  · cases List.head_eq_of_cons_eq same
  · exact absurd same.symm (padded_ne_cons (by decide))
  · cases List.head_eq_of_cons_eq same
  · have := padded_injective (List.tail_eq_of_cons_eq same)
    omega

namespace Date

/-- Months and days have two digits in a label. -/
theorem length_padded_parts (d : Date) : (padded 2 d.month).length = 2 ∧ (padded 2 d.day).length = 2 := by
  -- There are twelve months, none of which has more than 31 days.
  have monthRange := d.month_mem
  have dayRange := d.day_mem
  have longest : daysInMonth d.year d.month ≤ 31 := by
    unfold daysInMonth
    repeat' split
    all_goals omega
  exact ⟨length_padded (by omega) (by omega), length_padded (by omega) (by omega)⟩

/-- Dates have the same digits of a month exactly when they lie in the same month. -/
theorem monthDigits_eq_iff {d e : Date} : d.monthDigits = e.monthDigits ↔ d.year = e.year ∧ d.month = e.month := by
  constructor
  · intro same
    -- The month takes a fixed number of places at the end.
    have tails : ('-' :: padded 2 d.month).length = ('-' :: padded 2 e.month).length := by
      rw [List.length_cons, List.length_cons, (length_padded_parts d).1, (length_padded_parts e).1]
    obtain ⟨sameYear, sameMonth⟩ := List.append_inj' same tails
    exact ⟨yearDigits_injective sameYear, padded_injective (List.tail_eq_of_cons_eq sameMonth)⟩
  · rintro ⟨sameYear, sameMonth⟩
    unfold monthDigits
    rw [sameYear, sameMonth]

/-- Dates have the same label of a month exactly when the same month begins before them. -/
theorem monthLabel_eq_iff {d e : Date} : d.monthLabel = e.monthLabel ↔ d.firstOfMonth = e.firstOfMonth := by
  -- Either says that the dates agree in year and month.
  rw [firstOfMonth_eq_iff, ← monthDigits_eq_iff]
  exact String.ofList_inj

/-- No two dates have the same label. -/
theorem dayLabel_injective {d e : Date} (same : d.dayLabel = e.dayLabel) : d = e := by
  -- The day takes a fixed number of places at the end, behind the digits of the month.
  have tails : ('-' :: padded 2 d.day).length = ('-' :: padded 2 e.day).length := by
    rw [List.length_cons, List.length_cons, (length_padded_parts d).2, (length_padded_parts e).2]
  obtain ⟨sameMonths, sameDays⟩ := List.append_inj' (String.ofList_inj.1 same) tails
  obtain ⟨sameYear, sameMonth⟩ := monthDigits_eq_iff.1 sameMonths
  exact eq_of_fields sameYear sameMonth (padded_injective (List.tail_eq_of_cons_eq sameDays))

end Date
end Dashboard.Calendar
