import Dashboard.Number.Rounding
import Mathlib.Algebra.Order.Field.Basic
import Mathlib.Algebra.Order.Field.Rat
import Mathlib.Data.Rat.Floor
import Mathlib.Tactic.Linarith
import Mathlib.Tactic.NormNum
import Mathlib.Tactic.Ring

/-! Laws of rounding: how far it moves a number, which numbers it leaves alone, and that it keeps their order. -/

namespace Dashboard.Rounding

/-- Rounding to a whole number moves by a half at most. -/
theorem abs_halfEven_sub_le (q : Rat) : |(halfEven q : Rat) - q| ≤ 1 / 2 := by
  -- The two neighbours of a number are one apart.
  have below := Rat.floor_le q
  have above := Rat.lt_floor_add_one q
  push_cast at above
  rw [abs_le]
  unfold halfEven
  simp only
  -- The lower neighbour is nearest below the middle, the upper one above it, and in the middle either will do.
  split
  · constructor <;> linarith
  · split
    · push_cast
      constructor <;> linarith
    · split
      · constructor <;> linarith
      · push_cast
        constructor <;> linarith

/-- Rounding to whole numbers keeps the order. -/
theorem halfEven_mono {p q : Rat} (order : p ≤ q) : halfEven p ≤ halfEven q := by
  -- Results in the wrong order would be a whole apart, which only two halves can make up for.
  by_contra wrong
  have apart : (halfEven q : Rat) + 1 ≤ halfEven p := by exact_mod_cast not_le.1 wrong
  have upper := (abs_le.1 (abs_halfEven_sub_le p)).2
  have lower := (abs_le.1 (abs_halfEven_sub_le q)).1
  have same : p = q := by linarith
  exact wrong (le_of_eq (congrArg halfEven same))

/-- A number is rounded to the whole number from which it is less than a half away. -/
theorem halfEven_eq_of_near {q : Rat} {n : Int} (near : |q - n| < 1 / 2) : halfEven q = n := by
  -- The result is less than a whole away from the number, too.
  obtain ⟨left, right⟩ := abs_lt.1 near
  obtain ⟨low, high⟩ := abs_le.1 (abs_halfEven_sub_le q)
  have upper : halfEven q < n + 1 := by
    have distance : (halfEven q : Rat) < n + 1 := by linarith
    exact_mod_cast distance
  have lower : n < halfEven q + 1 := by
    have distance : (n : Rat) < halfEven q + 1 := by linarith
    exact_mod_cast distance
  omega

/-- A whole number stays as it is. -/
@[simp] theorem halfEven_intCast (n : Int) : halfEven n = n := by
  refine halfEven_eq_of_near ?_
  rw [sub_self, abs_zero]
  norm_num

/-- Rounding halves up also moves by a half at most. -/
theorem abs_halfUp_sub_le (q : Rat) : |(halfUp q : Rat) - q| ≤ 1 / 2 := by
  -- Cutting off moves down by less than one, of which the half added before makes up its part.
  have below := Rat.floor_le (q + 1 / 2)
  have above := Rat.lt_floor_add_one (q + 1 / 2)
  push_cast at above
  rw [abs_le]
  unfold halfUp
  constructor <;> linarith

/-- Rounding halves up stays below whole numbers. -/
theorem halfUp_le_of_le {q : Rat} {n : Int} (bound : q ≤ n) : halfUp q ≤ n := by
  -- To come out at the next whole number would take more than a half.
  have above := (abs_le.1 (abs_halfUp_sub_le q)).2
  have distance : (halfUp q : Rat) < n + 1 := by linarith
  exact Int.lt_add_one_iff.1 (by exact_mod_cast distance)

/-- Rounding halves up stays above zero. -/
theorem halfUp_nonneg {q : Rat} (nonneg : 0 ≤ q) : 0 ≤ halfUp q := by
  -- Rounding moves a number by less than one, so that what was not negative stays above minus one.
  have below := (abs_le.1 (abs_halfUp_sub_le q)).1
  have distance : (-1 : Rat) < halfUp q := by linarith
  have whole : (-1 : Int) < halfUp q := by exact_mod_cast distance
  omega

/-- The powers of two grow with their exponents. -/
theorem two_zpow_le_iff {e f : Int} : (2 : Rat) ^ e ≤ 2 ^ f ↔ e ≤ f :=
  zpow_le_zpow_iff_right₀ (by norm_num)

/-- The powers of two grow strictly with their exponents. -/
theorem two_zpow_lt_iff {e f : Int} : (2 : Rat) ^ e < 2 ^ f ↔ e < f :=
  zpow_lt_zpow_iff_right₀ (by norm_num)

/-- The powers of two are positive. -/
theorem two_zpow_pos (e : Int) : (0 : Rat) < 2 ^ e :=
  zpow_pos (by norm_num) e

/-- A power of two with a sum as its exponent. -/
theorem two_zpow_add (e f : Int) : (2 : Rat) ^ (e + f) = 2 ^ e * 2 ^ f :=
  zpow_add₀ (by norm_num) e f

/-- A whole number of some bits lies below the power of two with as many. -/
theorem natCast_lt_two_zpow {n bits : Nat} (short : n < 2 ^ bits) : (n : Rat) < 2 ^ (bits : Int) := by
  rw [zpow_natCast]
  exact_mod_cast short

/-- A positive whole number lies between two powers of two given by its bit length. -/
theorem log2_bounds {n : Nat} (positive : n ≠ 0) :
    (2 : Rat) ^ (n.log2 : Int) ≤ n ∧ (n : Rat) < 2 ^ (n.log2 + 1 : Int) := by
  -- The bit length of a number is one more than its logarithm.
  constructor
  · have below := Nat.log2_self_le positive
    rw [zpow_natCast]
    exact_mod_cast below
  · exact natCast_lt_two_zpow Nat.lt_log2_self

/-- The bit lengths of two whole numbers fix their quotient up to a factor of two on either side. -/
theorem quotient_bounds {m n : Nat} (someNum : m ≠ 0) (someDen : n ≠ 0) {q : Rat} (shape : q * n = m) :
    (2 : Rat) ^ ((m.log2 : Int) - n.log2 - 1) < q ∧ q < 2 ^ ((m.log2 : Int) - n.log2 + 1) := by
  -- Numerator and denominator each lie within a factor of two above their power.
  obtain ⟨numLow, numHigh⟩ := log2_bounds someNum
  obtain ⟨denLow, denHigh⟩ := log2_bounds someDen
  have positive : (0 : Rat) < n := by exact_mod_cast Nat.pos_of_ne_zero someDen
  constructor
  · -- Times the power above the denominator, the lower bound is the power below the numerator.
    have product : (2 : Rat) ^ ((m.log2 : Int) - n.log2 - 1) * 2 ^ (n.log2 + 1 : Int) = 2 ^ (m.log2 : Int) := by
      rw [← two_zpow_add]
      congr 1
      omega
    refine lt_of_mul_lt_mul_right ?_ positive.le
    calc (2 : Rat) ^ ((m.log2 : Int) - n.log2 - 1) * n
        < 2 ^ ((m.log2 : Int) - n.log2 - 1) * 2 ^ (n.log2 + 1 : Int) :=
          mul_lt_mul_of_pos_left denHigh (two_zpow_pos _)
      _ = 2 ^ (m.log2 : Int) := product
      _ ≤ m := numLow
      _ = q * n := shape.symm
  · have product : (2 : Rat) ^ ((m.log2 : Int) - n.log2 + 1) * 2 ^ (n.log2 : Int) = 2 ^ (m.log2 + 1 : Int) := by
      rw [← two_zpow_add]
      congr 1
      omega
    refine lt_of_mul_lt_mul_right ?_ positive.le
    calc q * n = m := shape
      _ < 2 ^ (m.log2 + 1 : Int) := numHigh
      _ = 2 ^ ((m.log2 : Int) - n.log2 + 1) * 2 ^ (n.log2 : Int) := product.symm
      _ ≤ 2 ^ ((m.log2 : Int) - n.log2 + 1) * n := mul_le_mul_of_nonneg_left denLow (two_zpow_pos _).le

/-- A positive number lies between the power of two found for it and the next one. -/
theorem floorLog2_bounds {q : Rat} (positive : 0 < q) :
    (2 : Rat) ^ floorLog2 q ≤ q ∧ q < 2 ^ (floorLog2 q + 1) := by
  -- A positive number in lowest terms has a positive numerator, so that both bit lengths mean something.
  have unsigned : (q.num.natAbs : Int) = q.num := Int.natAbs_of_nonneg (Rat.num_nonneg.2 positive.le)
  have shape : q * q.den = q.num.natAbs := by
    rw [Rat.mul_den_eq_num, ← unsigned]
    rfl
  have someNum : q.num.natAbs ≠ 0 := Int.natAbs_ne_zero.2 (Rat.num_pos.2 positive).ne'
  obtain ⟨low, high⟩ := quotient_bounds someNum q.den_ne_zero shape
  -- The comparison chooses one of two candidates.
  unfold floorLog2
  simp only
  split
  · rename_i reached
    exact ⟨reached, high⟩
  · rename_i missed
    refine ⟨low.le, ?_⟩
    rw [sub_add_cancel]
    exact not_le.1 missed

/-- The power of two found for a positive number is the greatest one that is at most the number. -/
theorem le_floorLog2_iff {q : Rat} (positive : 0 < q) {e : Int} : e ≤ floorLog2 q ↔ (2 : Rat) ^ e ≤ q := by
  -- The number lies below the next power of two.
  obtain ⟨low, high⟩ := floorLog2_bounds positive
  constructor
  · intro order
    exact (two_zpow_le_iff.2 order).trans low
  · intro reached
    exact Int.lt_add_one_iff.1 (two_zpow_lt_iff.1 (reached.trans_lt high))

/-- The power of two found for a positive number lies below every power that is greater than the number. -/
theorem floorLog2_lt_iff {q : Rat} (positive : 0 < q) {e : Int} : floorLog2 q < e ↔ q < (2 : Rat) ^ e := by
  rw [← not_le, le_floorLog2_iff positive, not_le]

/-- The exponents found for positive numbers are in the order of the numbers. -/
theorem floorLog2_mono {p q : Rat} (positive : 0 < p) (order : p ≤ q) : floorLog2 p ≤ floorLog2 q :=
  (le_floorLog2_iff (positive.trans_le order)).2 ((floorLog2_bounds positive).1.trans order)

/-- The exponent of the spacing of doubles around a number. -/
def spacingExponent (q : Rat) : Int :=
  max (floorLog2 q - 52) (-1074)

/-- The spacing is the power of two with its exponent. -/
theorem spacing_eq (q : Rat) : spacing q = 2 ^ spacingExponent q := rfl

/-- Doubles are some distance apart. -/
theorem spacing_pos (q : Rat) : 0 < spacing q := two_zpow_pos _

/-- A positive number below a power of two has the spacing of that power's doubles at most. -/
theorem spacingExponent_le {q : Rat} (positive : 0 < q) {e : Int} (below : q < 2 ^ (e + 53)) (range : -1074 ≤ e) :
    spacingExponent q ≤ e := by
  -- The leading bit lies 53 places above the last one at most.
  have exponent := (floorLog2_lt_iff positive).2 below
  unfold spacingExponent
  omega

/-- A whole multiple of a power of two that is no finer than the spacing is a whole multiple of the spacing. -/
theorem exists_multiple {q : Rat} {e : Int} (coarse : spacingExponent q ≤ e) (m : Int) :
    ∃ k : Int, (m : Rat) * 2 ^ e = k * spacing q := by
  -- The finer power of two divides the coarser one.
  refine ⟨m * 2 ^ (e - spacingExponent q).toNat, ?_⟩
  have whole : ((e - spacingExponent q).toNat : Int) = e - spacingExponent q := by omega
  have split : (2 : Rat) ^ e = 2 ^ (e - spacingExponent q).toNat * 2 ^ spacingExponent q := by
    rw [← zpow_natCast, whole, ← two_zpow_add, sub_add_cancel]
  rw [split, spacing_eq]
  push_cast
  ring

/-- Zero is a double. -/
@[simp] theorem nearest_zero : nearest 0 = 0 := if_pos rfl

/-- A number other than zero is rounded to a whole multiple of its spacing. -/
theorem nearest_of_ne_zero {q : Rat} (nonzero : q ≠ 0) : nearest q = halfEven (q / spacing q) * spacing q :=
  if_neg nonzero

/-- Rounding moves by half the spacing at most. -/
theorem abs_nearest_sub_le (q : Rat) : |nearest q - q| ≤ spacing q / 2 := by
  -- In units of the spacing it is the rounding to a whole number that moves by a half.
  by_cases zero : q = 0
  · rw [zero, nearest_zero, sub_zero, abs_zero]
    exact (half_pos (spacing_pos 0)).le
  · have positive := spacing_pos q
    have factor : nearest q - q = (halfEven (q / spacing q) - q / spacing q) * spacing q := by
      rw [nearest_of_ne_zero zero, sub_mul, div_mul_cancel₀ _ positive.ne']
    rw [factor, abs_mul, abs_of_pos positive]
    calc |(halfEven (q / spacing q) : Rat) - q / spacing q| * spacing q
        ≤ 1 / 2 * spacing q := mul_le_mul_of_nonneg_right (abs_halfEven_sub_le _) positive.le
      _ = spacing q / 2 := by ring

/-- From one on, rounding moves by a tiny part of the number at most. -/
theorem abs_nearest_sub_le_mul {q : Rat} (least : 1 ≤ q) : |nearest q - q| ≤ q * 2 ^ (-53 : Int) := by
  -- The spacing is that of the number's leading bit, 52 places below it.
  have positive : 0 < q := by linarith
  have leading : 0 ≤ floorLog2 q := (le_floorLog2_iff positive).2 (by rwa [zpow_zero])
  have exponent : spacingExponent q = floorLog2 q + 1 + -53 := by
    unfold spacingExponent
    omega
  calc |nearest q - q| ≤ spacing q / 2 := abs_nearest_sub_le q
    _ = 2 ^ floorLog2 q * 2 ^ (-53 : Int) := by
      rw [spacing_eq, exponent, two_zpow_add, two_zpow_add, zpow_one]
      ring
    _ ≤ q * 2 ^ (-53 : Int) := mul_le_mul_of_nonneg_right (floorLog2_bounds positive).1 (two_zpow_pos _).le

/-- A whole number that is not negative moves by a tiny part of itself at most. -/
theorem abs_nearest_intCast_sub_le {i : Int} (nonneg : 0 ≤ i) : |nearest i - i| ≤ i * 2 ^ (-53 : Int) := by
  rcases nonneg.eq_or_lt with zero | positive
  · rw [← zero, Int.cast_zero, nearest_zero, sub_zero, abs_zero, zero_mul]
  · exact abs_nearest_sub_le_mul (by exact_mod_cast positive)

/-- A number below a power of two moves by an amount that is 54 powers smaller at most. -/
theorem abs_nearest_sub_le_of_lt {q : Rat} (nonneg : 0 ≤ q) {e : Int} (below : q < 2 ^ (e + 53))
    (range : -1074 ≤ e) : |nearest q - q| ≤ 2 ^ e / 2 := by
  -- Below the power of two the spacing is no coarser than its own last place.
  rcases nonneg.eq_or_lt with zero | positive
  · rw [← zero, nearest_zero, sub_zero, abs_zero]
    exact (half_pos (two_zpow_pos e)).le
  · have fine : spacing q ≤ 2 ^ e := two_zpow_le_iff.2 (spacingExponent_le positive below range)
    have moved := abs_nearest_sub_le q
    linarith

/-- Rounding does not pass a whole multiple of the spacing upwards. -/
theorem nearest_le_multiple {q : Rat} {k : Int} (below : q ≤ k * spacing q) : nearest q ≤ k * spacing q := by
  -- In units of the spacing the multiple is a whole number, which rounding leaves alone.
  by_cases zero : q = 0
  · rw [zero] at below ⊢
    rwa [nearest_zero]
  · have positive := spacing_pos q
    have rounded : halfEven (q / spacing q) ≤ k := by
      have order := halfEven_mono ((div_le_iff₀ positive).2 below)
      rwa [halfEven_intCast] at order
    rw [nearest_of_ne_zero zero]
    exact mul_le_mul_of_nonneg_right (by exact_mod_cast rounded) positive.le

/-- Rounding does not pass a whole multiple of the spacing downwards. -/
theorem multiple_le_nearest {q : Rat} {k : Int} (above : k * spacing q ≤ q) : k * spacing q ≤ nearest q := by
  -- As for the other direction.
  by_cases zero : q = 0
  · rw [zero] at above ⊢
    rwa [nearest_zero]
  · have positive := spacing_pos q
    have rounded : k ≤ halfEven (q / spacing q) := by
      have order := halfEven_mono ((le_div_iff₀ positive).2 above)
      rwa [halfEven_intCast] at order
    rw [nearest_of_ne_zero zero]
    exact mul_le_mul_of_nonneg_right (by exact_mod_cast rounded) positive.le

/-- A whole multiple of the spacing is a double. -/
theorem nearest_of_multiple {q : Rat} {k : Int} (shape : q = k * spacing q) : nearest q = q :=
  le_antisymm ((nearest_le_multiple shape.le).trans_eq shape.symm) (shape.trans_le (multiple_le_nearest shape.ge))

/-- Rounding keeps numbers from falling below zero. -/
theorem nearest_nonneg {q : Rat} (nonneg : 0 ≤ q) : 0 ≤ nearest q := by
  -- Zero is a multiple of every spacing.
  have above := @multiple_le_nearest q 0 (by rwa [Int.cast_zero, zero_mul])
  rwa [Int.cast_zero, zero_mul] at above

/-- Rounding keeps the order. -/
theorem nearest_mono {p q : Rat} (nonneg : 0 ≤ p) (order : p ≤ q) : nearest p ≤ nearest q := by
  rcases nonneg.eq_or_lt with zero | positive
  · rw [← zero, nearest_zero]
    exact nearest_nonneg (nonneg.trans order)
  have positive' := positive.trans_le order
  have exponents := floorLog2_mono positive order
  by_cases same : spacingExponent p = spacingExponent q
  · -- With one spacing it is the rounding to whole numbers that keeps the order.
    have spacings : spacing p = spacing q := by rw [spacing_eq, spacing_eq, same]
    rw [nearest_of_ne_zero positive.ne', nearest_of_ne_zero positive'.ne', spacings]
    have scaled := halfEven_mono (div_le_div_of_nonneg_right order (spacing_pos q).le)
    exact mul_le_mul_of_nonneg_right (by exact_mod_cast scaled) (spacing_pos q).le
  · -- Else a power of two lies between the numbers, which rounding passes in neither direction.
    unfold spacingExponent at same
    have between : floorLog2 p < floorLog2 q := by omega
    obtain ⟨i, left⟩ := @exists_multiple p (floorLog2 q) (by unfold spacingExponent; omega) 1
    obtain ⟨j, right⟩ := @exists_multiple q (floorLog2 q) (by unfold spacingExponent; omega) 1
    rw [Int.cast_one, one_mul] at left right
    have below : nearest p ≤ 2 ^ floorLog2 q := by
      rw [left]
      refine nearest_le_multiple ?_
      rw [← left]
      exact ((floorLog2_lt_iff positive).1 between).le
    have above : (2 : Rat) ^ floorLog2 q ≤ nearest q := by
      rw [right]
      refine multiple_le_nearest ?_
      rw [← right]
      exact (floorLog2_bounds positive').1
    exact below.trans above

/-- A number of 53 bits times a power of two in range is a double. -/
theorem nearest_mul_two_zpow {m : Nat} {e : Int} (short : m < 2 ^ 53) (range : -1074 ≤ e) :
    nearest (m * 2 ^ e) = m * 2 ^ e := by
  -- The last of the 53 places is no finer than the spacing.
  by_cases zero : m = 0
  · rw [zero, Nat.cast_zero, zero_mul, nearest_zero]
  · have positive : (0 : Rat) < m * 2 ^ e :=
      mul_pos (by exact_mod_cast Nat.pos_of_ne_zero zero) (two_zpow_pos e)
    have below : (m : Rat) * 2 ^ e < 2 ^ (e + 53) := by
      rw [add_comm e, two_zpow_add]
      exact mul_lt_mul_of_pos_right (natCast_lt_two_zpow short) (two_zpow_pos e)
    obtain ⟨k, shape⟩ := exists_multiple (spacingExponent_le positive below range) m
    exact nearest_of_multiple (by exact_mod_cast shape)

/-- A whole number of 53 bits is a double. -/
theorem nearest_natCast {n : Nat} (short : n < 2 ^ 53) : nearest n = n := by
  have double := @nearest_mul_two_zpow n 0 short (by decide)
  rwa [zpow_zero, mul_one] at double

/-- Rounding does not pass a whole number of 53 bits upwards. -/
theorem nearest_le_natCast {q : Rat} (nonneg : 0 ≤ q) {n : Nat} (short : n < 2 ^ 53) (below : q ≤ n) :
    nearest q ≤ n :=
  (nearest_mono nonneg below).trans_eq (nearest_natCast short)

/-- Rounding does not pass a power of two upwards. -/
theorem nearest_le_two_zpow {q : Rat} (nonneg : 0 ≤ q) {e : Int} (range : -1074 ≤ e) (below : q ≤ 2 ^ e) :
    nearest q ≤ 2 ^ e := by
  -- A power of two is a double of one bit.
  have double := @nearest_mul_two_zpow 1 e (by decide) range
  rw [Nat.cast_one, one_mul] at double
  exact (nearest_mono nonneg below).trans_eq double

end Dashboard.Rounding
