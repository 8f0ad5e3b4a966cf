import Dashboard.Proofs.Number.Binary64
import Dashboard.Proofs.Number.Fixed
import Dashboard.Proofs.Statistics.Partition
import Dashboard.Statistics.Share

/-! Shares in percent: through all roundings they stay in range, and the two of an investigation make a hundred. -/

namespace Dashboard.Share

open Binary64 (top hundredthsText readHundredths?)
open Rounding (nearest)

/-- A hundred is a double. -/
theorem hundred_eq : Binary64.ofInt 100 = .finite false 100 :=
  @Binary64.ofInt_natCast 100 (by decide)

/-- Ten thousand is a small number. -/
theorem small_of_le {q : Rat} (bound : q ≤ 10000) : q ≤ 2 ^ (40 : Int) := by
  have power : (10000 : Rat) ≤ 2 ^ (40 : Int) := by norm_num
  exact bound.trans power

/-- Small numbers are not too large for doubles. -/
theorem le_top_of_le {q : Rat} (bound : q ≤ 10000) : q ≤ top :=
  (small_of_le bound).trans (Binary64.two_zpow_le_top (by decide))

/-- Signed words are not too large for doubles. -/
theorem le_top_of_word {i : Int} (bound : i ≤ Int64.maxValue.toInt) : (i : Rat) ≤ top := by
  -- A word is less than two to its number of bits.
  have below : Int64.maxValue.toInt ≤ 2 ^ 63 := by decide
  have small : (i : Rat) ≤ 2 ^ (63 : Int) := by
    rw [show (63 : Int) = (63 : Nat) from rfl, zpow_natCast]
    exact_mod_cast bound.trans below
  exact small.trans (Binary64.two_zpow_le_top (by decide))

/-- A number up to ten thousand is moved by a tiny amount at most. -/
theorem abs_nearest_sub_le_of_le {q : Rat} (nonneg : 0 ≤ q) (bound : q ≤ 10000) :
    |nearest q - q| ≤ 2 ^ (-40 : Int) := by
  -- Below two to the fourteenth the doubles lie no further apart than two to the minus thirty-ninth.
  have below : q < 2 ^ (-39 + 53 : Int) := bound.trans_lt (by norm_num)
  have moved := Rounding.abs_nearest_sub_le_of_lt nonneg below (by decide)
  have half : (2 : Rat) ^ (-39 : Int) / 2 = 2 ^ (-40 : Int) := by norm_num
  rwa [half] at moved

/-- The quotient of a rounded part and a rounded whole is close to the exact ratio. -/
theorem abs_div_nearest_sub_le {part whole : Int} (nonneg : 0 ≤ part) (within : part ≤ whole) (positive : 0 < whole) :
    |nearest part / nearest whole - (part : Rat) / whole| ≤ 2 ^ (-51 : Int) := by
  have partNonneg : (0 : Rat) ≤ part := by exact_mod_cast nonneg
  have order : (part : Rat) ≤ whole := by exact_mod_cast within
  have wholePositive : (0 : Rat) < whole := by exact_mod_cast positive
  -- Each rounding moves its number by a tiny part of the whole.
  have tiny : (2 : Rat) ^ (-53 : Int) = 2 ^ (-51 : Int) / 4 := by norm_num
  have small : (2 : Rat) ^ (-51 : Int) ≤ 1 := by norm_num
  have wholeMoved := Rounding.abs_nearest_intCast_sub_le positive.le
  have wholeStep : |nearest whole - whole| ≤ whole * (2 ^ (-51 : Int) / 4) := tiny ▸ wholeMoved
  have partStep : |nearest part - part| ≤ whole * (2 ^ (-51 : Int) / 4) := by
    refine (Rounding.abs_nearest_intCast_sub_le nonneg).trans ?_
    rw [tiny]
    exact mul_le_mul_of_nonneg_right order (by positivity)
  -- The rounded whole is still more than half of the whole.
  have half : whole / 2 ≤ nearest whole := by
    have low := (abs_le.1 wholeStep).1
    have step : whole * ((2 : Rat) ^ (-51 : Int) / 4) ≤ whole * (1 / 4) :=
      mul_le_mul_of_nonneg_left (by linarith) wholePositive.le
    linarith
  have roundedPositive : 0 < nearest whole := by linarith
  rw [div_sub_div _ _ roundedPositive.ne' wholePositive.ne', abs_div,
    abs_of_pos (mul_pos roundedPositive wholePositive), div_le_iff₀ (mul_pos roundedPositive wholePositive)]
  calc |nearest part * whole - nearest whole * part|
      = |(nearest part - part) * whole - (nearest whole - whole) * part| := by ring_nf
    _ ≤ |(nearest part - part) * whole| + |(nearest whole - whole) * part| := abs_sub _ _
    _ = |nearest part - part| * whole + |nearest whole - whole| * part := by
      rw [abs_mul, abs_mul, abs_of_pos wholePositive, abs_of_nonneg partNonneg]
    _ ≤ whole * (2 ^ (-51 : Int) / 4) * whole + whole * (2 ^ (-51 : Int) / 4) * whole := by gcongr
    _ = 2 ^ (-51 : Int) * (whole / 2 * whole) := by ring
    _ ≤ 2 ^ (-51 : Int) * (nearest whole * whole) := by gcongr

/-- The ratio of a part to a whole that holds it lies between zero and one, close to the exact ratio. -/
theorem ratio_eq {part whole : Int} (nonneg : 0 ≤ part) (within : part ≤ whole) (positive : 0 < whole)
    (fits : (whole : Rat) ≤ top) : ∃ m : Rat,
      Binary64.ofInt part / Binary64.ofInt whole = .finite false m ∧ 0 ≤ m ∧ m ≤ (1 : Nat) ∧
      |m - part / whole| ≤ 2 ^ (-39 : Int) := by
  have partNonneg : (0 : Rat) ≤ part := by exact_mod_cast nonneg
  have order : (part : Rat) ≤ whole := by exact_mod_cast within
  -- Rounding keeps the order of the part and the whole, and the whole away from zero.
  have roundedOrder : nearest part ≤ nearest whole := Rounding.nearest_mono partNonneg order
  have roundedPart : 0 ≤ nearest part := Rounding.nearest_nonneg partNonneg
  have roundedWhole : 0 < nearest whole := by
    have one : nearest ((1 : Nat) : Rat) = (1 : Nat) := Rounding.nearest_natCast (by decide)
    have least : ((1 : Nat) : Rat) ≤ whole := by exact_mod_cast positive
    have kept := Rounding.nearest_mono (Nat.cast_nonneg 1) least
    rw [one, Nat.cast_one] at kept
    linarith
  have quotientNonneg : 0 ≤ nearest part / nearest whole := div_nonneg roundedPart roundedWhole.le
  have quotientBound : nearest part / nearest whole ≤ 1 := (div_le_one roundedWhole).2 roundedOrder
  refine ⟨nearest (nearest part / nearest whole), ?_, Rounding.nearest_nonneg quotientNonneg,
    Rounding.nearest_le_natCast quotientNonneg (by decide) (by exact_mod_cast quotientBound), ?_⟩
  · rw [Binary64.ofInt_eq nonneg (order.trans fits), Binary64.ofInt_eq positive.le fits]
    exact Binary64.finite_div roundedWhole.ne' quotientNonneg (le_top_of_le (by linarith))
  · -- The quotient of the rounded numbers is rounded once more.
    have rounded := abs_nearest_sub_le_of_le quotientNonneg (by linarith)
    have close := abs_div_nearest_sub_le nonneg within positive
    have sum : (2 : Rat) ^ (-40 : Int) + 2 ^ (-51 : Int) ≤ 2 ^ (-39 : Int) := by norm_num
    exact ((abs_sub_le _ _ _).trans (add_le_add rounded close)).trans sum

/-- A hundred times a number up to a hundred stays up to a hundred times the bound, close to the exact product. -/
theorem mul_hundred_eq {m : Rat} {bound : Nat} (nonneg : 0 ≤ m) (below : m ≤ bound) (small : bound ≤ 100) :
    ∃ p : Rat, Binary64.finite false m * Binary64.ofInt 100 = .finite false p ∧ 0 ≤ p ∧ p ≤ (bound * 100 : Nat) ∧
      |p - m * 100| ≤ 2 ^ (-40 : Int) := by
  -- A hundred times the bound is a whole number, which rounding does not pass.
  have product : 0 ≤ m * 100 := mul_nonneg nonneg (by norm_num)
  have scaled : m * 100 ≤ (bound * 100 : Nat) := by
    push_cast
    linarith
  have limit : ((bound * 100 : Nat) : Rat) ≤ 10000 := by
    have whole : bound * 100 ≤ 10000 := by omega
    exact_mod_cast whole
  refine ⟨nearest (m * 100), ?_, Rounding.nearest_nonneg product, Rounding.nearest_le_natCast product (by omega) scaled,
    abs_nearest_sub_le_of_le product (scaled.trans limit)⟩
  rw [hundred_eq]
  exact Binary64.finite_mul product (le_top_of_le (scaled.trans limit))

/-- A part in percent of a whole that holds it lies between zero and a hundred, close to the exact percentage. -/
theorem percent_eq {part whole : Int} (nonneg : 0 ≤ part) (within : part ≤ whole) (positive : 0 < whole)
    (fits : (whole : Rat) ≤ top) : ∃ m : Rat, percent part whole = .finite false m ∧ 0 ≤ m ∧ m ≤ (100 : Nat) ∧
      |m - part / whole * 100| ≤ 2 ^ (-32 : Int) := by
  -- The ratio stays up to one, and its hundredfold up to a hundred.
  obtain ⟨ratio, quotient, ratioNonneg, ratioBound, ratioNear⟩ := ratio_eq nonneg within positive fits
  obtain ⟨m, product, mNonneg, mBound, mNear⟩ := mul_hundred_eq ratioNonneg ratioBound (by decide)
  refine ⟨m, by rw [percent, quotient, product], mNonneg, mBound, (abs_sub_le m (ratio * 100) _).trans ?_⟩
  have scaled : |ratio * 100 - part / whole * 100| ≤ 2 ^ (-39 : Int) * 100 := by
    rw [← sub_mul, abs_mul, abs_of_pos (by norm_num : (0 : Rat) < 100)]
    exact mul_le_mul_of_nonneg_right ratioNear (by norm_num)
  have sum : (2 : Rat) ^ (-40 : Int) + 2 ^ (-39 : Int) * 100 ≤ 2 ^ (-32 : Int) := by norm_num
  exact (add_le_add mNear scaled).trans sum

/-- The double that stands for a count of hundredths. -/
def hundredths (h : Nat) : Binary64 :=
  .finite false (nearest (h / 100))

/-- Up to a hundred, rounding to two decimals leaves the double of the nearest count of hundredths. -/
theorem roundTwo_eq {m : Rat} (nonneg : 0 ≤ m) (below : m ≤ (100 : Nat)) :
    ∃ h : Nat, h ≤ 10000 ∧ roundTwo (.finite false m) = hundredths h ∧ |h - m * 100| ≤ 1 / 2 + 2 ^ (-40 : Int) := by
  -- The hundredfold stays up to ten thousand, and so does the whole number nearest to it.
  obtain ⟨p, product, pNonneg, pBound, pNear⟩ := mul_hundred_eq nonneg below (by decide)
  obtain ⟨h, shape⟩ := Int.eq_ofNat_of_zero_le (Rounding.halfUp_nonneg pNonneg)
  have bound : h ≤ 10000 := by
    have rounded : Rounding.halfUp p ≤ (10000 : Nat) := Rounding.halfUp_le_of_le (by exact_mod_cast pBound)
    rw [shape] at rounded
    exact_mod_cast rounded
  -- Divided by a hundred again, the whole number is the double of its count of hundredths.
  have hBound : (h : Rat) ≤ 10000 := by exact_mod_cast bound
  have quotientNonneg : (0 : Rat) ≤ h / 100 := div_nonneg (Nat.cast_nonneg h) (by norm_num)
  refine ⟨h, bound, ?_, ?_⟩
  · rw [roundTwo, product, Binary64.finite_round, shape, hundred_eq, Int.cast_natCast]
    exact Binary64.finite_div (by norm_num) quotientNonneg (le_top_of_le (by linarith))
  · have rounded := Rounding.abs_halfUp_sub_le p
    rw [shape, Int.cast_natCast] at rounded
    exact (abs_sub_le _ _ _).trans (add_le_add rounded pNear)

/-- The share of a part in a whole that holds it is the double of a count of hundredths, by hardly more than a half away
from the exact number of hundredths. -/
theorem exists_hundredths {part whole : Int} (nonneg : 0 ≤ part) (within : part ≤ whole) (positive : 0 < whole)
    (fits : (whole : Rat) ≤ top) : ∃ h : Nat, h ≤ 10000 ∧ roundTwo (percent part whole) = hundredths h ∧
      |(h : Rat) - part / whole * 10000| ≤ 1 / 2 + 1 / 64 := by
  -- First the percentage is close to the exact one, and then its hundredth is rounded to a whole number.
  obtain ⟨m, percentage, mNonneg, mBound, mNear⟩ := percent_eq nonneg within positive fits
  obtain ⟨h, bound, rounded, near⟩ := roundTwo_eq mNonneg mBound
  refine ⟨h, bound, percentage ▸ rounded, (abs_sub_le _ (m * 100) _).trans ?_⟩
  have scaled : |m * 100 - part / whole * 10000| ≤ 2 ^ (-32 : Int) * 100 := by
    rw [show (part / whole * 10000 : Rat) = part / whole * 100 * 100 by ring, ← sub_mul, abs_mul,
      abs_of_pos (by norm_num : (0 : Rat) < 100)]
    exact mul_le_mul_of_nonneg_right mNear (by norm_num)
  have sum : (1 : Rat) / 2 + 2 ^ (-40 : Int) + 2 ^ (-32 : Int) * 100 ≤ 1 / 2 + 1 / 64 := by norm_num
  exact (add_le_add near scaled).trans sum

/-- The double of a count of hundredths is close to it. -/
theorem near_hundredths {h : Nat} (bound : h ≤ 10000) : |nearest ((h : Rat) / 100) * 100 - h| ≤ 1 / 64 := by
  -- The exact quotient is no distance away, and is rounded once.
  have hBound : (h : Rat) ≤ 10000 := by exact_mod_cast bound
  have nonneg : (0 : Rat) ≤ h / 100 := div_nonneg (Nat.cast_nonneg h) (by norm_num)
  have exact : |(h : Rat) / 100 * 100 - h| ≤ 0 := by
    rw [div_mul_cancel₀ _ (by norm_num), sub_self, abs_zero]
  have near := Binary64.near_nearest nonneg (small_of_le (by linarith)) exact
  rwa [zero_add] at near

/-- The double of a count of hundredths is shown as that count. -/
theorem twoDecimals_hundredths {h : Nat} (bound : h ≤ 10000) : (hundredths h).twoDecimals = hundredthsText h :=
  Binary64.twoDecimals_of_near ((near_hundredths bound).trans_lt (by norm_num))

/-- What a count of hundredths leaves of a hundred is close to the rest of the count. -/
theorem sub_hundredths_eq {h : Nat} (bound : h ≤ 10000) : ∃ d : Rat,
    Binary64.ofInt 100 - hundredths h = .finite false d ∧ 0 ≤ d ∧ d ≤ 100 ∧
    |d * 100 - (10000 - h : Nat)| ≤ 1 / 64 + 1 / 64 := by
  have hBound : (h : Rat) ≤ 10000 := by exact_mod_cast bound
  have nonneg : (0 : Rat) ≤ h / 100 := div_nonneg (Nat.cast_nonneg h) (by norm_num)
  have within : nearest ((h : Rat) / 100) ≤ (100 : Nat) :=
    Rounding.nearest_le_natCast nonneg (by decide) (by push_cast; linarith)
  -- The rest is as close to its count as the share is to its own, and is rounded once more.
  have rest : |(100 - nearest ((h : Rat) / 100)) * 100 - (10000 - h : Nat)| ≤ 1 / 64 := by
    have near := near_hundredths bound
    rw [abs_sub_comm] at near
    rw [Nat.cast_sub bound]
    push_cast
    have same : (100 - nearest ((h : Rat) / 100)) * 100 - (10000 - h) = h - nearest ((h : Rat) / 100) * 100 := by ring
    rwa [same]
  -- The share lies between zero and a hundred, and so does the rest.
  have shareNonneg := Rounding.nearest_nonneg nonneg
  have restNonneg : 0 ≤ 100 - nearest ((h : Rat) / 100) := by
    push_cast at within
    linarith
  have restBound : 100 - nearest ((h : Rat) / 100) ≤ (100 : Nat) := by
    push_cast
    linarith
  refine ⟨nearest (100 - nearest ((h : Rat) / 100)), ?_, Rounding.nearest_nonneg restNonneg, ?_, ?_⟩
  · rw [hundred_eq, hundredths]
    exact Binary64.finite_sub shareNonneg (by exact_mod_cast within) (le_top_of_le (by norm_num))
  · exact_mod_cast Rounding.nearest_le_natCast restNonneg (by decide) restBound
  · exact Binary64.near_nearest restNonneg (small_of_le (restBound.trans (by norm_num))) rest

namespace Investigation

/-- The failures that may be defects, looked into or not. -/
def relevant (count : String → Int) : Int :=
  count Field.productBug + count Field.systemIssue + count Field.automationBug + count Field.toInvestigate

end Investigation
end Dashboard.Share
