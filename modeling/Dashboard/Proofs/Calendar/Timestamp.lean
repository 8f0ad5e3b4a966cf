import Dashboard.Calendar.Timestamp
import Dashboard.Proofs.Calendar.Scan

/-! Timestamps are read back as the moments they were written for, leap seconds and fractions included. -/

namespace Dashboard.Calendar.Moment

open Decimal (padded)
open Dashboard.Text (skipBlanks)

/-- A number ends before a separator. -/
theorem ended_of_separator {c : Char} (separator : c.isDigit = false) (rest : List Char) :
    ∀ d ∈ (c :: rest).head?, d.isDigit = false := by
  rintro _ ⟨⟩
  exact separator

/-- A separator behind a number is found, and with it what follows. -/
theorem scanChar?_skipBlanks {c : Char} (inked : Text.isBlank c = false) (rest : List Char) :
    scanChar? c (skipBlanks (c :: rest)) = some rest := by
  simp [skipBlanks, inked, scanChar?]

/-- The digits of a date are read back as the date, whatever stands behind them. -/
theorem scanDate?_dayDigits (d : Date) {rest : List Char} (ended : ∀ c ∈ rest.head?, c.isDigit = false) :
    scanDate? (d.dayDigits ++ rest) = some (d, rest) := by
  -- The parts are read from the front, each up to the separator behind it.
  obtain ⟨monthLength, dayLength⟩ := Date.length_padded_parts d
  have year := scanYear?_yearDigits d.year
    (ended_of_separator (c := '-') rfl (padded 2 d.month ++ '-' :: (padded 2 d.day ++ rest)))
  have month := scanPart?_padded monthLength (ended_of_separator (c := '-') rfl (padded 2 d.day ++ rest))
  have day := scanPart?_padded dayLength ended
  have shape : d.dayDigits ++ rest =
      yearDigits d.year ++ '-' :: (padded 2 d.month ++ '-' :: (padded 2 d.day ++ rest)) := by
    simp [Date.dayDigits, Date.monthDigits]
  unfold scanDate?
  simp [shape, year, month, day, scanChar?_skipBlanks (c := '-') rfl, Date.of?_fields]

/-- The places of a fraction that are not written count as zeros. -/
theorem value_take_padded {width n : Nat} (positive : 0 < width) (short : width ≤ 9) (fits : n < 10 ^ width) :
    Decimal.value ((padded width n ++ List.replicate 9 '0').take 9) = n * 10 ^ (9 - width) := by
  -- Filled up with zeros to nine places, the number counts nanoseconds.
  have length := Decimal.length_padded positive fits
  have zeros : Decimal.value (List.replicate (9 - width) '0') = 0 := by
    simp [Decimal.value, Nat.ofDigitChars_replicate_zero]
  rw [List.take_append, List.take_of_length_le (by omega), length, List.take_replicate, Nat.min_eq_left (by omega),
    Decimal.value_append, Decimal.value_padded, List.length_replicate, zeros, Nat.add_zero, Nat.mul_comm]

/-- A written fraction is read in nanoseconds. -/
theorem scanFraction?_padded {width n : Nat} (positive : 0 < width) (short : width ≤ 9) (fits : n < 10 ^ width)
    {rest : List Char} (ended : ∀ c ∈ rest.head?, c.isDigit = false) :
    scanFraction? ('.' :: padded width n ++ rest) = some (n * 10 ^ (9 - width), rest) := by
  -- The digits end where the fraction does, and they are filled up to nanoseconds.
  have spanned : (padded width n ++ rest).span Char.isDigit = (padded width n, rest) :=
    Decimal.span_append (fun _ => Decimal.isDigit_of_mem_padded) ended
  rw [List.cons_append, scanFraction?]
  simp only [spanned, if_neg (Decimal.padded_ne_nil width n), value_take_padded positive short fits]

/-- A fraction is read to the nanosecond, however many zeros are left out behind it. -/
theorem scanFraction?_fractionDigits {nano : Nat} (small : nano < 1000000000) (rest : List Char) :
    scanFraction? (fractionDigits nano ++ 'Z' :: rest) = some (nano, 'Z' :: rest) := by
  have ended := ended_of_separator (c := 'Z') rfl rest
  -- No places are written, or three, six or all nine of them.
  unfold fractionDigits
  split
  · subst nano
    rfl
  · split
    · rw [scanFraction?_padded (by decide) (by decide) (by omega) ended]
      simp only [Option.some.injEq, Prod.mk.injEq, and_true]
      omega
    · split
      · rw [scanFraction?_padded (by decide) (by decide) (by omega) ended]
        simp only [Option.some.injEq, Prod.mk.injEq, and_true]
        omega
      · rw [scanFraction?_padded (by decide) (by decide) (by omega) ended]
        simp

/-- No digit follows the seconds, whether a fraction is written or not. -/
theorem fractionDigits_ended (nano : Nat) (rest : List Char) :
    ∀ c ∈ (fractionDigits nano ++ 'Z' :: rest).head?, c.isDigit = false := by
  -- Either the mark of the zone follows at once, or a decimal point does.
  unfold fractionDigits
  split
  · exact ended_of_separator rfl rest
  · split
    · exact ended_of_separator rfl _
    · split
      · exact ended_of_separator rfl _
      · exact ended_of_separator rfl _

/-- The time of day is read back; second 60 is taken for the leap second that it was written for. -/
theorem scanTime?_secondDigits (m : Moment) (rest : List Char) :
    scanTime? (m.secondDigits ++ (fractionDigits (m.nano % 1000000000) ++ 'Z' :: rest)) =
      some (m.second, m.nano, 'Z' :: rest) := by
  have secondRange := m.second_lt
  have nanoRange := m.nano_lt
  -- Each number is written with a separator behind it, which is where reading it stops.
  have hour := scanPart?_padded (n := m.second / 3600) (Decimal.length_padded (by decide) (by omega))
    (ended_of_separator (c := ':') rfl (padded 2 (m.second / 60 % 60) ++ ':' ::
      (padded 2 (m.second % 60 + m.nano / 1000000000) ++ (fractionDigits (m.nano % 1000000000) ++ 'Z' :: rest))))
  have minute := scanPart?_padded (n := m.second / 60 % 60) (Decimal.length_padded (by decide) (by omega))
    (ended_of_separator (c := ':') rfl
      (padded 2 (m.second % 60 + m.nano / 1000000000) ++ (fractionDigits (m.nano % 1000000000) ++ 'Z' :: rest)))
  have second := scanPart?_padded (n := m.second % 60 + m.nano / 1000000000)
    (Decimal.length_padded (by decide) (by omega)) (fractionDigits_ended (m.nano % 1000000000) rest)
  have fraction := scanFraction?_fractionDigits (Nat.mod_lt m.nano (by decide)) rest
  unfold scanTime? secondDigits minuteDigits
  simp only [List.append_assoc, List.cons_append, hour, minute, second, fraction, scanChar?_skipBlanks (c := ':') rfl,
    Option.bind_eq_bind, Option.bind_some, Option.pure_def]
  rw [if_neg (by omega)]
  -- A leap second is written as second 60, and read as second 59 with more than a billion nanoseconds.
  split
  · simp only [Option.some.injEq, Prod.mk.injEq, and_true]
    omega
  · simp only [Option.some.injEq, Prod.mk.injEq, and_true]
    omega

/-- In universal time the clock shows the moment itself. -/
theorem ofLocal?_universal (m : Moment) : ofLocal? m.date m.second m.nano 0 = some m := by
  have range := m.second_lt
  have second : (((m.second : Int) - 0) % 86400).toNat = m.second := by omega
  have made : of? m.date m.second m.nano = some m := dif_pos ⟨m.second_lt, m.nano_lt⟩
  unfold ofLocal?
  simp only [second]
  -- The second lies on the day itself, neither before nor behind it.
  rw [if_neg (by omega), if_neg (by omega)]
  exact made

/-- A timestamp is read back as its moment. -/
theorem ofTimestamp?_timestamp (m : Moment) : ofTimestamp? m.timestamp = some m := by
  -- The date, the time and the zone are read one after another, and nothing is left behind them.
  have date := scanDate?_dayDigits m.date (ended_of_separator (c := 'T') rfl
    (m.secondDigits ++ (fractionDigits (m.nano % 1000000000) ++ ['Z'])))
  have time := scanTime?_secondDigits m []
  have zone : scanZone? (skipBlanks ['Z']) = some (0, []) := rfl
  have end_ : skipBlanks [] = [] := rfl
  have shape : m.timestamp.toList =
      m.date.dayDigits ++ 'T' :: (m.secondDigits ++ (fractionDigits (m.nano % 1000000000) ++ ['Z'])) := by
    simp [timestamp, timestampDigits]
  unfold ofTimestamp?
  simp only [shape, date, time, zone, end_, ofLocal?_universal, Option.bind_eq_bind, Option.bind_some, if_true]

end Dashboard.Calendar.Moment
