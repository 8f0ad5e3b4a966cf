import Dashboard.Number.Binary64
import Dashboard.Number.Decimal
import Dashboard.Text.Case

/-! Reading a double from decimal text. -/

namespace Dashboard.Binary64

/-- The magnitude of a digit string counted in a power of ten. -/
def ofDecimal (negative : Bool) (count : Nat) (exponent : Int) : Binary64 :=
  let size := (Decimal.digits count).length + exponent
  -- Powers far outside the range of doubles are settled by the number's size alone.
  if count = 0 ∨ size < -400 then .finite negative 0
  else if 400 < size then .infinite negative
  else ofMagnitude negative (count * (10 : Rat) ^ exponent)

/-- Reads the exponent behind a number: nothing, or the letter e and an integer. -/
def readExponent? : List Char → Option Int
  | [] => some 0
  | c :: cs => if c = 'e' ∨ c = 'E' then Decimal.readInt? cs else none

/-- Reads digits with at most one point among them, at least one digit, and an optional exponent. -/
def readDecimal? (negative : Bool) (cs : List Char) : Option Binary64 := do
  let (whole, rest) := cs.span Char.isDigit
  let (fraction, rest) := match rest with
    | '.' :: more => more.span Char.isDigit
    | _ => ([], rest)
  -- Digits behind the point count like those before it, in a smaller power of ten.
  let digits := whole ++ fraction
  if digits = [] then none
  let exponent ← readExponent? rest
  pure (ofDecimal negative (Decimal.value digits) (exponent - fraction.length))

/-- Reads a number without its sign, or one of the words for infinity and for no number. -/
def readUnsigned? (negative : Bool) (cs : List Char) : Option Binary64 :=
  let word := cs.map Char.toLower
  if word = "inf".toList ∨ word = "infinity".toList then some (.infinite negative)
  else if word = "nan".toList then some .notANumber
  else readDecimal? negative cs

/-- Reads a double with an optional sign. -/
def read? (s : String) : Option Binary64 :=
  match s.toList with
  | '-' :: cs => readUnsigned? true cs
  | '+' :: cs => readUnsigned? false cs
  | cs => readUnsigned? false cs

end Dashboard.Binary64
