import Dashboard.Calendar.Moment

/-! Moments as timestamps in the manner of RFC 3339: written in universal time, read with any offset. -/

namespace Dashboard.Calendar.Moment

open Dashboard.Text (skipBlanks isBlank)

/-- The fraction of a second in as few of three, six or nine digits as hold it, and none when it is zero. -/
def fractionDigits (nano : Nat) : List Char :=
  if nano = 0 then []
  else if nano % 1000000 = 0 then '.' :: Decimal.padded 3 (nano / 1000000)
  else if nano % 1000 = 0 then '.' :: Decimal.padded 6 (nano / 1000)
  else '.' :: Decimal.padded 9 nano

/-- The characters of the timestamp of a moment. -/
def timestampDigits (m : Moment) : List Char :=
  m.date.dayDigits ++ 'T' :: m.secondDigits ++ fractionDigits (m.nano % 1000000000) ++ ['Z']

/-- The timestamp of a moment, such as 2024-02-29T08:30:00Z. -/
def timestamp (m : Moment) : String :=
  String.ofList m.timestampDigits

/-- Reads the date in front of a timestamp, with blanks allowed around its parts. -/
def scanDate? (cs : List Char) : Option (Date × List Char) := do
  let (year, cs) ← scanYear? cs
  let cs ← scanChar? '-' (skipBlanks cs)
  let (month, cs) ← scanPart? cs
  let cs ← scanChar? '-' (skipBlanks cs)
  let (day, cs) ← scanPart? cs
  pure (← Date.of? year month day, cs)

/-- Reads the fraction of a second in nanoseconds; digits behind the ninth are passed over. -/
def scanFraction? : List Char → Option (Nat × List Char)
  | '.' :: cs =>
    let (ds, rest) := cs.span Char.isDigit
    -- Places that are not written count as zeros.
    if ds = [] then none else some (Decimal.value ((ds ++ List.replicate 9 '0').take 9), rest)
  | cs => some (0, cs)

/-- Reads a time of day as its second and nanosecond; second 60 is the leap second behind second 59. -/
def scanTime? (cs : List Char) : Option (Nat × Nat × List Char) := do
  let (hour, cs) ← scanPart? cs
  let cs ← scanChar? ':' (skipBlanks cs)
  let (minute, cs) ← scanPart? cs
  let cs ← scanChar? ':' (skipBlanks cs)
  let (second, cs) ← scanPart? cs
  let (nano, cs) ← scanFraction? cs
  -- Two digits can say more than a clock can show.
  if 23 < hour ∨ 59 < minute ∨ 60 < second then none
  else if second = 60 then pure (hour * 3600 + minute * 60 + 59, nano + 1000000000, cs)
  else pure (hour * 3600 + minute * 60 + second, nano, cs)

/-- Reads exactly two digits. -/
def scanTwoDigits? : List Char → Option (Nat × List Char)
  | tens :: units :: cs =>
    if tens.isDigit ∧ units.isDigit then some (Decimal.value [tens, units], cs) else none
  | _ => none

/-- Reads hours and minutes of an offset from universal time, in seconds; the offset is shorter than a day. -/
def scanOffset? (cs : List Char) : Option (Int × List Char) := do
  let (hours, cs) ← scanTwoDigits? cs
  let (minutes, cs) ← scanTwoDigits? (cs.dropWhile fun c => c == ':' || isBlank c)
  if 59 < minutes ∨ 24 ≤ hours then none else pure (hours * 3600 + minutes * 60, cs)

/-- Reads the zone: universal time by one of its names, or an offset with its sign. -/
def scanZone? (cs : List Char) : Option (Int × List Char) :=
  match cs with
  | u :: t :: c :: rest =>
    if [u, t, c].map Char.toLower = ['u', 't', 'c'] then some (0, rest) else scanSigned cs
  | _ => scanSigned cs
where
  scanSigned : List Char → Option (Int × List Char)
    | 'Z' :: rest | 'z' :: rest => some (0, rest)
    | '+' :: rest => scanOffset? rest
    -- A true minus sign means the same as the hyphen.
    | '-' :: rest | '\u2212' :: rest => (scanOffset? rest).map fun (seconds, rest) => (-seconds, rest)
    | _ => none

/-- The moment in universal time at which a zone with this offset shows the given date and time. -/
def ofLocal? (date : Date) (second nano : Nat) (offset : Int) : Option Moment := do
  -- The offset is shorter than a day, so at most one midnight lies between the two clocks.
  let universal := (second : Int) - offset
  let date ← if universal < 0 then date.prev? else if 86400 ≤ universal then date.next? else some date
  of? date (universal % 86400).toNat nano

/-- Reads a timestamp: a date, the letter T or a blank, a time and a zone. -/
def ofTimestamp? (text : String) : Option Moment := do
  let (date, cs) ← scanDate? text.toList
  let cs ← match cs with
    | 'T' :: rest | 't' :: rest | ' ' :: rest => some rest
    | _ => none
  let (second, nano, cs) ← scanTime? cs
  let (offset, cs) ← scanZone? (skipBlanks cs)
  if skipBlanks cs = [] then ofLocal? date second nano offset else none

end Dashboard.Calendar.Moment
