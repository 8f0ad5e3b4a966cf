import Dashboard.Number.Fixed
import Dashboard.Proofs.Number.Decimal
import Dashboard.Proofs.Number.Rounding

/-! Numbers with two decimals: which hundredths a double is shown as, and reading them back. -/

namespace Dashboard.Binary64

open Rounding (nearest)

/-- Reads an unsigned number with exactly two decimals as a count of hundredths. -/
def readHundredths? (text : String) : Option Nat :=
  match text.toList.span Char.isDigit with
  | (whole, ['.', tens, ones]) => if whole = [] then none else Decimal.readNat? (whole ++ [tens, ones])
  | _ => none

/-- A written count of hundredths is read back. -/
theorem readHundredths?_hundredthsText (h : Nat) : readHundredths? (hundredthsText h) = some h := by
  -- The two characters behind the point are digits, so all of them together make the number.
  have fits : h % 100 < 10 ^ 2 := Nat.mod_lt h (by decide)
  obtain ⟨tens, ones, fraction⟩ := List.length_eq_two.1 (Decimal.length_padded (by decide) fits)
  have written : (hundredthsText h).toList = Decimal.digits (h / 100) ++ '.' :: [tens, ones] := by
    rw [hundredthsText, String.toList_ofList, fraction]
  have digit : ∀ c ∈ Decimal.digits (h / 100), c.isDigit = true := fun c => Decimal.isDigit_of_mem_digits
  have parts : (hundredthsText h).toList.span Char.isDigit = (Decimal.digits (h / 100), '.' :: [tens, ones]) := by
    -- The point ends the digits in front.
    rw [written, List.span_eq_takeWhile_dropWhile, List.takeWhile_append_of_pos digit,
      List.dropWhile_append_of_pos digit]
    simp [show Char.isDigit '.' = false by decide]
  unfold readHundredths?
  rw [parts]
  show (if Decimal.digits (h / 100) = [] then none else
    Decimal.readNat? (Decimal.digits (h / 100) ++ [tens, ones])) = some h
  rw [if_neg (Decimal.digits_ne_nil _), ← fraction, Decimal.readNat?, if_pos, Decimal.value_append,
    Decimal.value_digits, Decimal.value_padded, Decimal.length_padded (by decide) fits]
  · exact congrArg some (Nat.div_add_mod h 100)
  · refine ⟨List.append_ne_nil_of_left_ne_nil (Decimal.digits_ne_nil _) _, List.all_eq_true.2 fun c member => ?_⟩
    rcases List.mem_append.1 member with front | back
    · exact digit c front
    · exact Decimal.isDigit_of_mem_padded back

/-- A magnitude that is close to a count of hundredths is shown as that count. -/
theorem twoDecimals_of_near {m : Rat} {h : Nat} (near : |m * 100 - h| < 1 / 2) :
    (Binary64.finite false m).twoDecimals = hundredthsText h := by
  -- The count is the whole number nearest to the hundredfold.
  have rounded : Rounding.halfEven (m * 100) = h := Rounding.halfEven_eq_of_near (by exact_mod_cast near)
  show hundredthsText (Rounding.halfEven (m * 100)).toNat = hundredthsText h
  rw [rounded, Int.toNat_natCast]

/-- Rounding a magnitude to a double moves it away from a count of hundredths by a small part of one at most. -/
theorem near_nearest {m h distance : Rat} (nonneg : 0 ≤ m) (small : m ≤ 2 ^ (40 : Int))
    (near : |m * 100 - h| ≤ distance) : |nearest m * 100 - h| ≤ distance + 1 / 64 := by
  -- Doubles of this size are so close to each other that a hundredfold step is still small.
  have moved := Rounding.abs_nearest_sub_le_of_lt nonneg
    (small.trans_lt (Rounding.two_zpow_lt_iff.2 (show (40 : Int) < -12 + 53 by decide))) (by decide)
  have step : (2 : Rat) ^ (-12 : Int) / 2 = 1 / 8192 := by norm_num
  rw [step, abs_le] at moved
  rw [abs_le] at near ⊢
  constructor <;> linarith

end Dashboard.Binary64
