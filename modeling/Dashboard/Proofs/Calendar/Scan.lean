import Dashboard.Proofs.Calendar.Label

/-! Labels of days and months are read back as the dates they were written for. -/

namespace Dashboard.Calendar

open Decimal (padded)
open Dashboard.Text (skipBlanks)

/-- Digits are no blanks. -/
theorem isBlank_of_isDigit {c : Char} (digit : c.isDigit = true) : Text.isBlank c = false := by
  -- The digits lie between the blanks of control characters and those of the Latin alphabet.
  simp only [Char.isDigit, Bool.and_eq_true, decide_eq_true_eq, UInt32.le_iff_toNat_le] at digit
  have low : 48 ≤ c.toNat := digit.1
  have high : c.toNat ≤ 57 := digit.2
  simp [Text.isBlank]
  omega

/-- Digits in front are read up to the first character that is none. -/
theorem scanDigits?_append {limit : Nat} {ds rest : List Char} (digits : ∀ c ∈ ds, c.isDigit = true)
    (nonempty : ds ≠ []) (fits : ds.length ≤ limit) (ended : ∀ c ∈ rest.head?, c.isDigit = false) :
    scanDigits? limit (ds ++ rest) = some (Decimal.value ds, rest) := by
  -- The digits fit into the limit, and what follows them is not taken for more of them.
  have taken : ((ds ++ rest).take limit).takeWhile Char.isDigit = ds := by
    rw [List.take_append, List.take_of_length_le fits, List.takeWhile_append_of_pos digits]
    cases rest with
    | nil => simp
    | cons c cs =>
      have stop := ended c rfl
      cases limit - ds.length <;> simp [stop]
  unfold scanDigits?
  simp only [taken, if_neg nonempty, List.drop_left]

/-- The first of some padded digits is a digit. -/
theorem exists_padded_cons (width n : Nat) : ∃ c cs, padded width n = c :: cs ∧ c.isDigit = true := by
  cases shape : padded width n with
  | nil => exact absurd shape (Decimal.padded_ne_nil width n)
  | cons c cs => exact ⟨c, cs, rfl, Decimal.isDigit_of_mem_padded (shape ▸ List.mem_cons_self)⟩

/-- No blanks are skipped in front of digits. -/
theorem skipBlanks_padded (width n : Nat) (rest : List Char) :
    skipBlanks (padded width n ++ rest) = padded width n ++ rest := by
  obtain ⟨c, cs, shape, digit⟩ := exists_padded_cons width n
  rw [shape, List.cons_append, skipBlanks, List.dropWhile_cons_of_neg (by simp [isBlank_of_isDigit digit])]

/-- Padded digits in front are read as their number. -/
theorem scanDigits?_padded {limit width n : Nat} {rest : List Char} (fits : (padded width n).length ≤ limit)
    (ended : ∀ c ∈ rest.head?, c.isDigit = false) :
    scanDigits? limit (padded width n ++ rest) = some (n, rest) := by
  rw [scanDigits?_append (fun _ => Decimal.isDigit_of_mem_padded) (Decimal.padded_ne_nil width n) fits ended,
    Decimal.value_padded]

/-- A part of two digits is read back as its number. -/
theorem scanPart?_padded {n : Nat} {rest : List Char} (length : (padded 2 n).length = 2)
    (ended : ∀ c ∈ rest.head?, c.isDigit = false) : scanPart? (padded 2 n ++ rest) = some (n, rest) := by
  unfold scanPart?
  rw [skipBlanks_padded, scanDigits?_padded (Nat.le_of_eq length) ended]

/-- A year is read back, whether it carries a sign or not. -/
theorem scanYear?_yearDigits (year : Int) {rest : List Char} (ended : ∀ c ∈ rest.head?, c.isDigit = false) :
    scanYear? (yearDigits year ++ rest) = some (year, rest) := by
  unfold scanYear?
  rcases yearDigits_cases year with ⟨low, high, shape⟩ | ⟨sign, shape⟩ | ⟨sign, shape⟩
  · -- Without a sign there are exactly four digits, and the first of them is no sign.
    have four : (padded 4 year.toNat).length = 4 := Decimal.length_padded (by omega) (by omega)
    obtain ⟨c, cs, head, digit⟩ := exists_padded_cons 4 year.toNat
    rw [shape, skipBlanks_padded]
    -- The first character of the four is a digit, so neither branch for a sign is taken.
    split
    · rename_i tail signed
      rw [head] at signed
      obtain ⟨rfl, -⟩ := List.cons.inj signed
      cases digit
    · rename_i tail signed
      rw [head] at signed
      obtain ⟨rfl, -⟩ := List.cons.inj signed
      cases digit
    · rw [scanDigits?_padded (Nat.le_of_eq four) ended]
      simp only [Option.map_some, Option.some.injEq, Prod.mk.injEq, and_true]
      omega
  · -- With a sign the digits are read behind it, and as many as there are.
    rw [shape]
    show (scanDigits? _ (padded 4 year.natAbs ++ rest)).map _ = _
    rw [scanDigits?_padded (by simp) ended]
    simp only [Option.map_some, Option.some.injEq, Prod.mk.injEq, and_true]
    omega
  · rw [shape]
    show (scanDigits? _ (padded 4 year.natAbs ++ rest)).map _ = _
    rw [scanDigits?_padded (by simp) ended]
    simp only [Option.map_some, Option.some.injEq, Prod.mk.injEq, and_true]
    omega

namespace Date

/-- From the digits of a date the date is read back. -/
theorem ofDigits?_dayDigits (d : Date) : ofDigits? d.dayDigits = some d := by
  -- Each part ends where the next separator stands, or with the text.
  obtain ⟨monthLength, dayLength⟩ := length_padded_parts d
  have separator : ∀ rest : List Char, ∀ c ∈ ('-' :: rest).head?, c.isDigit = false := by
    intro rest c first
    cases first
    rfl
  have year := scanYear?_yearDigits d.year (separator (padded 2 d.month ++ '-' :: padded 2 d.day))
  have month := scanPart?_padded monthLength (separator (padded 2 d.day))
  have day : scanPart? (padded 2 d.day) = some (d.day, []) := by
    have read := @scanPart?_padded d.day [] dayLength (by simp)
    rwa [List.append_nil] at read
  unfold ofDigits? dayDigits monthDigits
  simp [year, month, day, scanChar?, of?_fields]

/-- From the label of a day the date is read back. -/
theorem ofDayLabel?_dayLabel (d : Date) : ofDayLabel? d.dayLabel = some d := by
  unfold ofDayLabel? dayLabel
  rw [String.toList_ofList, ofDigits?_dayDigits]

/-- From the label of a month its first day is read back. -/
theorem ofMonthLabel?_monthLabel (d : Date) : ofMonthLabel? d.monthLabel = some d.firstOfMonth := by
  -- The label and the number of the first day make up the label of that day.
  have first : "-01".toList = '-' :: padded 2 1 := by decide
  have completed : d.monthLabel.toList ++ "-01".toList = d.firstOfMonth.dayDigits := by
    unfold monthLabel
    rw [String.toList_ofList, first]
    rfl
  unfold ofMonthLabel?
  rw [completed, ofDigits?_dayDigits]

end Date
end Dashboard.Calendar
