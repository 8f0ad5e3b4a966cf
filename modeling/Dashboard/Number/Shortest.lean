import Dashboard.Number.Binary64
import Dashboard.Number.Decimal

/-! The shortest decimal notation of a double: the fewest digits that still name it, without an exponent. -/

namespace Dashboard.Binary64

/-- The exponent of the greatest power of ten that is at most a positive number. -/
def floorLog10 (q : Rat) : Int :=
  -- The digit counts of numerator and denominator fix the exponent up to one.
  let guess : Int := (Decimal.digits q.num.natAbs).length - (Decimal.digits q.den).length
  if (10 : Rat) ^ guess ≤ q then guess else guess - 1

/-- The multiple of a power of ten that is nearest to a magnitude among those that round to it; a tie goes up. -/
def decimalOnGrid? (magnitude : Rat) (exponent : Int) : Option Nat :=
  -- If any multiple rounds to the magnitude, then so does one of its two neighbours.
  let step := (10 : Rat) ^ exponent
  let below := (magnitude / step).floor.toNat
  let names (k : Nat) : Bool := Rounding.nearest (k * step) == magnitude
  let lowerIsNearer : Bool := magnitude - below * step < (below + 1 : Nat) * step - magnitude
  match names below, names (below + 1) with
  | true, true => some (if lowerIsNearer then below else below + 1)
  | true, false => some below
  | false, true => some (below + 1)
  | false, false => none

/-- The fewest digits that name a magnitude, and the power of ten they count; seventeen digits always suffice. -/
def shortestDecimal (magnitude : Rat) : Nat × Int :=
  let top := floorLog10 magnitude
  -- Coarse grids come first, so the first hit has the fewest digits.
  let attempts := (List.range 17).findSome? fun (extra : Nat) =>
    (decimalOnGrid? magnitude (top - extra)).map (·, top - extra)
  attempts.getD (0, 0)

/-- A count of a power of ten, written out without an exponent and without zeros at the end of a fraction. -/
def positional (count : Nat) (exponent : Int) : List Char :=
  if 0 ≤ exponent then Decimal.digits count ++ List.replicate exponent.toNat '0'
  else
    let places := exponent.natAbs
    -- Padding keeps one digit in front of the point at least.
    let digits := Decimal.padded (places + 1) count
    let (whole, fraction) := digits.splitAt (digits.length - places)
    let fraction := Decimal.dropTrailing '0' fraction
    whole ++ (if fraction = [] then [] else '.' :: fraction)

/-- The notation of a magnitude; a whole number has no point. -/
def shortestMagnitude (magnitude : Rat) : List Char :=
  if magnitude = 0 then ['0']
  else
    let (count, exponent) := shortestDecimal magnitude
    positional count exponent

/-- The shortest notation that names exactly this double. -/
def shortestText : Binary64 → String
  | .notANumber => "NaN"
  | .infinite negative => if negative then "-inf" else "inf"
  | .finite negative magnitude =>
    let digits := shortestMagnitude magnitude
    String.ofList (if negative then '-' :: digits else digits)

end Dashboard.Binary64
