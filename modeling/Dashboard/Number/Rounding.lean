/-! Rounding rational numbers: to whole numbers, and to the doubles that are nearest to them. -/

namespace Dashboard.Rounding

/-- The nearest whole number; a half goes to the even neighbour. -/
def halfEven (q : Rat) : Int :=
  let below := q.floor
  let excess := q - below
  if excess < 1 / 2 then below
  else if 1 / 2 < excess then below + 1
  -- Of two neighbours at the same distance exactly one is even.
  else if below % 2 = 0 then below else below + 1

/-- The nearest whole number to a number that is not negative; a half goes up. -/
def halfUp (q : Rat) : Int :=
  (q + 1 / 2).floor

/-- The exponent of the greatest power of two that is at most a positive number. -/
def floorLog2 (q : Rat) : Int :=
  -- The bit lengths of numerator and denominator fix the exponent up to one.
  let guess : Int := (q.num.natAbs.log2 : Int) - q.den.log2
  if (2 : Rat) ^ guess ≤ q then guess else guess - 1

/-- The distance between neighbouring doubles around a positive number: 53 significant bits, none below 2⁻¹⁰⁷⁴. -/
def spacing (q : Rat) : Rat :=
  (2 : Rat) ^ max (floorLog2 q - 52) (-1074)

/-- The double nearest to a number that is not negative, before any limit on its size. -/
def nearest (q : Rat) : Rat :=
  -- Zero has no leading bit from which a spacing could be measured.
  if q = 0 then 0 else halfEven (q / spacing q) * spacing q

end Dashboard.Rounding
