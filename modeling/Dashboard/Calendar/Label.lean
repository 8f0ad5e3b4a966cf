import Dashboard.Calendar.Scan

/-! Labels of days and months, and the dates that labels of days name. -/

namespace Dashboard.Calendar

/-- A year in four digits; a year that needs a sign or a fifth digit always carries its sign. -/
def yearDigits (year : Int) : List Char :=
  if 0 ≤ year ∧ year ≤ 9999 then Decimal.padded 4 year.toNat
  else (if year < 0 then '-' else '+') :: Decimal.padded 4 year.natAbs

namespace Date

/-- Year and month. -/
def monthDigits (d : Date) : List Char :=
  yearDigits d.year ++ '-' :: Decimal.padded 2 d.month

/-- Year, month and day. -/
def dayDigits (d : Date) : List Char :=
  d.monthDigits ++ '-' :: Decimal.padded 2 d.day

/-- The label of a date's month, such as 2024-02. -/
def monthLabel (d : Date) : String :=
  String.ofList d.monthDigits

/-- The label of a date, such as 2024-02-29. -/
def dayLabel (d : Date) : String :=
  String.ofList d.dayDigits

/-- The date that a label of a day names; blanks may stand in front of each of its numbers. -/
def ofDigits? (cs : List Char) : Option Date := do
  let (year, cs) ← scanYear? cs
  let cs ← scanChar? '-' cs
  let (month, cs) ← scanPart? cs
  let cs ← scanChar? '-' cs
  let (day, cs) ← scanPart? cs
  if cs = [] then of? year month day else none

/-- The date that a label of a day names. -/
def ofDayLabel? (label : String) : Option Date :=
  ofDigits? label.toList

/-- The first day of the month that a label of a month names. -/
def ofMonthLabel? (label : String) : Option Date :=
  ofDigits? (label.toList ++ "-01".toList)

end Date
end Dashboard.Calendar
