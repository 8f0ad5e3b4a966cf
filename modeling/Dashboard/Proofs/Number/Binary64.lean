import Dashboard.Number.Binary64
import Dashboard.Proofs.Number.Rounding

/-! Arithmetic of doubles that are neither negative nor too large: each operation gives the rounded exact result. -/

namespace Dashboard.Binary64

open Rounding (nearest)

/-- The greatest power of two among the doubles. -/
def top : Rat := (2 : Rat) ^ (1023 : Int)

/-- No power of two with a smaller exponent is above it. -/
theorem two_zpow_le_top {e : Int} (order : e ≤ 1023) : (2 : Rat) ^ e ≤ top := Rounding.two_zpow_le_iff.2 order

/-- A magnitude up to the greatest power of two among doubles stays finite. -/
theorem ofMagnitude_eq (negative : Bool) {q : Rat} (nonneg : 0 ≤ q) (small : q ≤ top) :
    ofMagnitude negative q = .finite negative (nearest q) := by
  -- Rounding does not pass the power of two, which lies below the limit.
  have rounded := Rounding.nearest_le_two_zpow nonneg (by decide) small
  have limit : top < overflow := Rounding.two_zpow_lt_iff.2 (by decide)
  exact if_neg (not_le.2 (rounded.trans_lt limit))

/-- Every word is finite as a double, whatever its sign. -/
theorem isFinite_ofInt {i : Int} (word : i.natAbs < 2 ^ 64) : (ofInt i).isFinite = true := by
  -- A double has a sign and a magnitude, and the magnitude of a word is far below the limit.
  have finite : ∀ negative (n : Nat), n < 2 ^ 64 → (ofMagnitude negative n).isFinite = true := by
    intro negative n short
    have small : (n : Rat) ≤ top := (Rounding.natCast_lt_two_zpow short).le.trans (two_zpow_le_top (by decide))
    rw [ofMagnitude_eq negative (Nat.cast_nonneg n) small]
    rfl
  -- The magnitude of an integer is its opposite where it is negative, and itself elsewhere.
  unfold ofInt ofRat
  split
  · rename_i below
    have magnitude : -(i : Rat) = i.natAbs := by
      rw [Nat.cast_natAbs, abs_of_neg (by exact_mod_cast below)]
      push_cast
      rfl
    rw [magnitude]
    exact finite true i.natAbs word
  · rename_i above
    have magnitude : (i : Rat) = i.natAbs := by
      rw [Nat.cast_natAbs, abs_of_nonneg (by exact_mod_cast not_lt.1 above)]
    rw [magnitude]
    exact finite false i.natAbs word

/-- An integer that is not negative becomes its nearest double. -/
theorem ofInt_eq {i : Int} (nonneg : 0 ≤ i) (small : (i : Rat) ≤ top) :
    ofInt i = .finite false (nearest i) := by
  -- It is converted as the rational number that it is.
  have unsigned : (0 : Rat) ≤ i := by exact_mod_cast nonneg
  unfold ofInt ofRat
  rw [if_neg (not_lt.2 unsigned)]
  exact ofMagnitude_eq false unsigned small

/-- A whole number of 53 bits becomes itself. -/
theorem ofInt_natCast {n : Nat} (short : n < 2 ^ 53) : ofInt n = .finite false n := by
  -- So short a number is far below the greatest double.
  have small : ((n : Int) : Rat) ≤ top := by
    rw [Int.cast_natCast]
    exact (Rounding.natCast_lt_two_zpow short).le.trans (two_zpow_le_top (by decide))
  rw [ofInt_eq (Int.natCast_nonneg n) small, Int.cast_natCast, Rounding.nearest_natCast short]

/-- The product of magnitudes is rounded. -/
theorem finite_mul {a b : Rat} (nonneg : 0 ≤ a * b) (small : a * b ≤ top) :
    Binary64.finite false a * .finite false b = .finite false (nearest (a * b)) :=
  ofMagnitude_eq false nonneg small

/-- The quotient of magnitudes is rounded. -/
theorem finite_div {a b : Rat} (divisor : b ≠ 0) (nonneg : 0 ≤ a / b) (small : a / b ≤ top) :
    Binary64.finite false a / .finite false b = .finite false (nearest (a / b)) :=
  (if_neg divisor).trans (ofMagnitude_eq false nonneg small)

/-- The sum of two magnitudes is rounded. -/
theorem finite_add {a b : Rat} (nonneg : 0 ≤ a + b) (small : a + b ≤ top) :
    Binary64.finite false a + .finite false b = .finite false (nearest (a + b)) := by
  -- Where the two cancel the sum is zero, which rounding leaves as it is.
  have exact : Binary64.finite false a + .finite false b =
      if a + b = 0 then .finite false 0 else ofRat (a + b) := rfl
  rw [exact]
  by_cases zero : a + b = 0
  · rw [if_pos zero, zero, Rounding.nearest_zero]
  · rw [if_neg zero, ofRat, if_neg (not_lt.2 nonneg)]
    exact ofMagnitude_eq false nonneg small

/-- The difference of two magnitudes is a sum with the opposite, in which nothing or something remains. -/
theorem finite_sub_eq (a b : Rat) : Binary64.finite false a - .finite false b =
    if a - b = 0 then .finite false 0 else ofRat (a - b) := by
  have exact : signed false a + signed (!false) b = a - b := (sub_eq_add_neg a b).symm
  rw [← exact]
  rfl

/-- The difference of a magnitude and one that is not greater is rounded; it is the positive zero where they cancel. -/
theorem finite_sub {a b : Rat} (nonneg : 0 ≤ b) (order : b ≤ a) (small : a ≤ top) :
    Binary64.finite false a - .finite false b = .finite false (nearest (a - b)) := by
  -- Where the two cancel, the difference is the positive zero.
  rw [finite_sub_eq]
  by_cases cancel : a - b = 0
  · rw [if_pos cancel, cancel, Rounding.nearest_zero]
  · have rest : 0 ≤ a - b := sub_nonneg.2 order
    rw [if_neg cancel, ofRat, if_neg (not_lt.2 rest)]
    exact ofMagnitude_eq false rest (by linarith)

/-- The difference of a magnitude and a greater one is rounded as well, and keeps the sign. -/
theorem finite_sub_of_lt {a b : Rat} (nonneg : 0 ≤ a) (order : a < b) (small : b ≤ top) :
    Binary64.finite false a - .finite false b = .finite true (nearest (b - a)) := by
  rw [finite_sub_eq, if_neg (sub_ne_zero.2 order.ne), ofRat, if_pos (sub_neg.2 order), neg_sub]
  exact ofMagnitude_eq true (sub_nonneg.2 order.le) (by linarith)

/-- Rounding a magnitude to a whole number. -/
theorem finite_round (a : Rat) : (Binary64.finite false a).round = .finite false (Rounding.halfUp a) := rfl

end Dashboard.Binary64
