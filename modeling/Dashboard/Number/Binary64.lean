import Dashboard.Number.Rounding

/-! Binary64 arithmetic of IEEE 754 on exact values: each operation rounds its exact result to the nearest double. -/

namespace Dashboard

/-- A double; a finite one is a sign and an exact magnitude, so that the two zeros stay apart. -/
inductive Binary64 where
  | notANumber
  | infinite (negative : Bool)
  | finite (negative : Bool) (magnitude : Rat)
deriving DecidableEq

namespace Binary64

/-- The least magnitude that no finite double reaches. -/
def overflow : Rat := (2 : Rat) ^ (1024 : Int)

/-- Whether a double is a number and not infinite. -/
def isFinite : Binary64 → Bool
  | .finite _ _ => true
  | _ => false

/-- Rounds a magnitude; one that reaches the limit becomes infinite. -/
def ofMagnitude (negative : Bool) (q : Rat) : Binary64 :=
  -- A magnitude just below the limit may be rounded up to it, so rounding comes first.
  let rounded := Rounding.nearest q
  if overflow ≤ rounded then .infinite negative else .finite negative rounded

/-- The double nearest to a rational number; zero is positive. -/
def ofRat (q : Rat) : Binary64 :=
  if q < 0 then ofMagnitude true (-q) else ofMagnitude false q

/-- The double nearest to an integer. -/
def ofInt (i : Int) : Binary64 :=
  ofRat i

/-- The exact value of a sign and a magnitude. -/
def signed (negative : Bool) (magnitude : Rat) : Rat :=
  if negative then -magnitude else magnitude

/-- The opposite double. -/
def neg : Binary64 → Binary64
  | .notANumber => .notANumber
  | .infinite negative => .infinite !negative
  | .finite negative magnitude => .finite (!negative) magnitude

/-- The sum; opposite infinities have none, and equal magnitudes that cancel give the positive zero. -/
def add : Binary64 → Binary64 → Binary64
  | .finite m a, .finite n b =>
    let sum := signed m a + signed n b
    -- Of all sums that are zero, only that of two negative zeros is negative.
    if sum = 0 then .finite (m && n) 0 else ofRat sum
  | .infinite m, .infinite n => if m = n then .infinite m else .notANumber
  | .infinite m, .finite _ _ => .infinite m
  | .finite _ _, .infinite n => .infinite n
  | .notANumber, _ => .notANumber
  | _, .notANumber => .notANumber

/-- The difference is the sum with the opposite. -/
def sub (x y : Binary64) : Binary64 :=
  x.add y.neg

/-- The product; zero times an infinity has none. -/
def mul : Binary64 → Binary64 → Binary64
  | .finite m a, .finite n b => ofMagnitude (m != n) (a * b)
  | .infinite m, .infinite n => .infinite (m != n)
  | .infinite m, .finite n b => if b = 0 then .notANumber else .infinite (m != n)
  | .finite m a, .infinite n => if a = 0 then .notANumber else .infinite (m != n)
  | .notANumber, _ => .notANumber
  | _, .notANumber => .notANumber

/-- The quotient; a number over zero is infinite, zero over zero and infinity over infinity are no numbers. -/
def div : Binary64 → Binary64 → Binary64
  | .finite m a, .finite n b =>
    if b = 0 then
      if a = 0 then .notANumber else .infinite (m != n)
    else ofMagnitude (m != n) (a / b)
  | .infinite _, .infinite _ => .notANumber
  | .infinite m, .finite n _ => .infinite (m != n)
  | .finite m _, .infinite n => .finite (m != n) 0
  | .notANumber, _ => .notANumber
  | _, .notANumber => .notANumber

instance : Neg Binary64 := ⟨neg⟩
instance : Add Binary64 := ⟨add⟩
instance : Sub Binary64 := ⟨sub⟩
instance : Mul Binary64 := ⟨mul⟩
instance : Div Binary64 := ⟨div⟩

/-- The nearest whole number; a half goes away from zero, and the sign stays. -/
def round : Binary64 → Binary64
  | .finite negative magnitude => .finite negative (Rounding.halfUp magnitude)
  | other => other

/-- The number itself, or zero when it is negative or no number. -/
def atLeastZero : Binary64 → Binary64
  | .finite false magnitude => .finite false magnitude
  | .infinite false => .infinite false
  | _ => .finite false 0

/-- The sign bit of a double above its other 63 bits. -/
def signBit (negative : Bool) : Nat :=
  if negative then 0x8000000000000000 else 0

/-- The 64 bits of a double: sign, eleven bits of exponent, 52 bits of fraction. -/
def toBits : Binary64 → Nat
  | .notANumber => 0x7FF8000000000000
  | .infinite negative => signBit negative + 0x7FF0000000000000
  | .finite negative magnitude =>
    if magnitude = 0 then signBit negative
    else
      let exponent := max (Rounding.floorLog2 magnitude) (-1022)
      -- A subnormal double has no leading bit to hide, so its exponent field stays zero.
      let significand := (magnitude / (2 : Rat) ^ (exponent - 52)).floor.toNat
      signBit negative + (exponent + 1022).toNat * 0x10000000000000 + significand

end Binary64
end Dashboard
