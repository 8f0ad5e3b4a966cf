import Dashboard.Calendar.Date
import Dashboard.Number.Decimal
import Dashboard.Text.Blank

/-! Reading the numbers of a date from the front of a text. -/

namespace Dashboard.Calendar

open Dashboard.Text (skipBlanks)

/-- Reads the digits in front, at least one and at most `limit`. -/
def scanDigits? (limit : Nat) (cs : List Char) : Option (Nat × List Char) :=
  let ds := (cs.take limit).takeWhile Char.isDigit
  if ds = [] then none else some (Decimal.value ds, cs.drop ds.length)

/-- Reads a number of one or two digits, with blanks allowed in front. -/
def scanPart? (cs : List Char) : Option (Nat × List Char) :=
  scanDigits? 2 (skipBlanks cs)

/-- Reads a year, with blanks allowed in front: up to four digits, or a sign and any number of digits. -/
def scanYear? (cs : List Char) : Option (Int × List Char) :=
  match skipBlanks cs with
  | '-' :: rest => (scanDigits? rest.length rest).map fun (n, rest) => (-(n : Int), rest)
  | '+' :: rest => (scanDigits? rest.length rest).map fun (n, rest) => (n, rest)
  -- Without a sign the year ends after four digits, so that a fifth one is out of place.
  | rest => (scanDigits? 4 rest).map fun (n, rest) => (n, rest)

/-- Reads one given character. -/
def scanChar? (c : Char) : List Char → Option (List Char)
  | d :: rest => if d = c then some rest else none
  | [] => none

end Dashboard.Calendar
