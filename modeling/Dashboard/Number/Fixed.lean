import Dashboard.Number.Binary64
import Dashboard.Number.Decimal

/-! Doubles with two decimals, the form in which shares and rates are shown. -/

namespace Dashboard.Binary64

/-- A count of hundredths as a number with two decimals. -/
def hundredthsText (h : Nat) : String :=
  String.ofList (Decimal.digits (h / 100) ++ '.' :: Decimal.padded 2 (h % 100))

/-- Two decimals of the exact value; a tie goes to the even digit, and a negative value keeps its sign down to zero. -/
def twoDecimals : Binary64 → String
  | .notANumber => "NaN"
  | .infinite negative => if negative then "-inf" else "inf"
  | .finite negative magnitude =>
    let text := hundredthsText (Rounding.halfEven (magnitude * 100)).toNat
    if negative then "-" ++ text else text

/-- At most two decimals: trailing zeros go, and then a trailing point. -/
def compactText (x : Binary64) : String :=
  String.ofList (Decimal.dropTrailing '.' (Decimal.dropTrailing '0' x.twoDecimals.toList))

end Dashboard.Binary64
