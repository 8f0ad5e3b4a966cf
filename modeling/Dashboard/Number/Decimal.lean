/-! Whole numbers in decimal notation: writing them, padding them, and reading them back. -/

namespace Dashboard.Decimal

/-- The digits of a number, without leading zeros. -/
def digits (n : Nat) : List Char :=
  Nat.toDigits 10 n

/-- The number that a list of digits stands for. -/
def value (ds : List Char) : Nat :=
  Nat.ofDigitChars 10 ds 0

/-- Writing a number and reading its digits gives the number back. -/
@[simp] theorem value_digits (n : Nat) : value (digits n) = n :=
  Nat.ofDigitChars_ten_toDigits

/-- The digits of a number with zeros in front, up to the given width. -/
def padded (width n : Nat) : List Char :=
  List.replicate (width - (digits n).length) '0' ++ digits n

/-- Drops every copy of a character from the end, such as the zeros of a fraction. -/
def dropTrailing (c : Char) (cs : List Char) : List Char :=
  (cs.reverse.dropWhile (· == c)).reverse

/-- The characters of an integer; only a negative one carries a sign. -/
def signedDigits (i : Int) : List Char :=
  if i < 0 then '-' :: digits i.natAbs else digits i.natAbs

/-- A natural number as text. -/
def ofNat (n : Nat) : String :=
  String.ofList (digits n)

/-- An integer as text. -/
def ofInt (i : Int) : String :=
  String.ofList (signedDigits i)

/-- Reads one or more digits and nothing else. -/
def readNat? (cs : List Char) : Option Nat :=
  -- No digits at all would stand for zero.
  if cs ≠ [] ∧ cs.all Char.isDigit then some (value cs) else none

/-- Reads one or more digits behind at most one sign. -/
def readInt? : List Char → Option Int
  | '+' :: cs => (readNat? cs).map Int.ofNat
  | '-' :: cs => (readNat? cs).map fun n => -(n : Int)
  | cs => (readNat? cs).map Int.ofNat

end Dashboard.Decimal
