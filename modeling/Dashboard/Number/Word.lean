import Dashboard.Number.Decimal

/-! Counters and quantities are 64-bit words: which integers fit one, reading one from text, and adding two. -/

namespace Dashboard.Word

/-- The signed word that holds an integer, when it is in range. -/
def signed? (i : Int) : Option Int64 :=
  if Int64.minValue.toInt ≤ i ∧ i ≤ Int64.maxValue.toInt then some (Int64.ofInt i) else none

/-- The unsigned word that holds an integer, when it is in range. -/
def unsigned? (i : Int) : Option UInt64 :=
  if 0 ≤ i ∧ i < UInt64.size then some (UInt64.ofNat i.toNat) else none

/-- A signed word in decimal notation, with an optional sign. -/
def readSigned? (s : String) : Option Int64 :=
  (Decimal.readInt? s.toList).bind signed?

/-- An unsigned word in decimal notation; a plus sign may stand in front, a minus sign may not. -/
def readUnsigned? (s : String) : Option UInt64 :=
  match s.toList with
  -- Not even minus zero is taken for an unsigned word.
  | '-' :: _ => none
  | cs => (Decimal.readInt? cs).bind unsigned?

/-- The sum of two signed words; a sum beyond the words starts over at their other end. -/
def add (a b : Int) : Int :=
  (Int64.ofInt a + Int64.ofInt b).toInt

end Dashboard.Word
