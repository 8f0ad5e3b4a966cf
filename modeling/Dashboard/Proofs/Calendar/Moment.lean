import Dashboard.Calendar.Moment
import Dashboard.Proofs.Calendar.Date

/-! The order of moments: ranks tell moments apart, and a later moment lies on no earlier date. -/

namespace Dashboard.Calendar.Moment

/-- Moments compare as their ranks do. -/
theorem le_iff {a b : Moment} : a ≤ b ↔ a.rank ≤ b.rank := Iff.rfl

/-- Moments with the same rank are the same. -/
theorem eq_of_rank_eq {a b : Moment} (same : a.rank = b.rank) : a = b := by
  have second := a.second_lt
  have otherSecond := b.second_lt
  have nano := a.nano_lt
  have otherNano := b.nano_lt
  -- Seconds leave room for the day, and so do nanoseconds for the second, a leap second included.
  unfold rank at same
  have days : a.date.dayNumber = b.date.dayNumber := by omega
  have seconds : a.second = b.second := by omega
  have nanos : a.nano = b.nano := by omega
  -- The remaining fields of a moment are proofs.
  have dates := Date.eq_of_dayNumber_eq days
  cases a
  cases b
  simp_all only

/-- The order of moments is linear. -/
instance : Std.IsLinearOrder Moment := .of_le
  ⟨fun _ _ below above => eq_of_rank_eq (Int.le_antisymm below above)⟩
  ⟨fun first second => Int.le_trans (le_iff.1 first) (le_iff.1 second)⟩
  ⟨fun a b => Int.le_total a.rank b.rank⟩

/-- A moment is earlier than another one when the other is not earlier or the same. -/
instance : Std.LawfulOrderLT Moment := ⟨fun _ _ => Int.lt_iff_le_and_not_ge⟩

/-- A moment lies on no later date than a later moment. -/
theorem date_le_of_le {a b : Moment} (order : a ≤ b) : a.date ≤ b.date := by
  -- Seconds and nanoseconds never make up for a whole day.
  have order : a.rank ≤ b.rank := order
  have second := a.second_lt
  have otherSecond := b.second_lt
  have nano := a.nano_lt
  have otherNano := b.nano_lt
  rw [Date.le_iff]
  unfold rank at order
  omega

end Dashboard.Calendar.Moment
