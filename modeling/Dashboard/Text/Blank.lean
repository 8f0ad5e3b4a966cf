/-! White space, and cutting it off the ends of a text. -/

namespace Dashboard.Text

/-- A character is blank when Unicode gives it the property White_Space. -/
def isBlank (c : Char) : Bool :=
  let code := c.toNat
  -- The Latin blanks come first, then the wide spaces in ascending order.
  (9 ≤ code && code ≤ 13) || code == 0x20 || code == 0x85 || code == 0xA0 ||
    code == 0x1680 || (0x2000 ≤ code && code ≤ 0x200A) || code == 0x2028 || code == 0x2029 ||
    code == 0x202F || code == 0x205F || code == 0x3000

/-- Drops the blanks in front. -/
def skipBlanks (cs : List Char) : List Char :=
  cs.dropWhile isBlank

/-- Drops the blanks at both ends and keeps those inside. -/
def trim (s : String) : String :=
  String.ofList (skipBlanks (skipBlanks s.toList).reverse).reverse

end Dashboard.Text
