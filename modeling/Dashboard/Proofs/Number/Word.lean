import Dashboard.Number.Word

/-! Sums of signed words: the exact sum, brought back into the range of the words, and the exact sum itself where it is a
word. -/

namespace Dashboard.Word

/-- Whether an integer is a signed word. -/
def Fits (i : Int) : Prop :=
  Int64.minValue.toInt ≤ i ∧ i ≤ Int64.maxValue.toInt

instance (i : Int) : Decidable (Fits i) := inferInstanceAs (Decidable (_ ∧ _))

/-- An integer that is not negative fits when it is no greater than the greatest word. -/
theorem fits_of_nonneg {i : Int} (nonneg : 0 ≤ i) (below : i ≤ Int64.maxValue.toInt) : Fits i :=
  ⟨Int.le_trans (by decide) nonneg, below⟩

/-- The word that an integer becomes when all bits beyond the words are dropped. -/
def wrap (i : Int) : Int :=
  (Int64.ofInt i).toInt

/-- A word is what it is. -/
theorem wrap_of_fits {i : Int} (fits : Fits i) : wrap i = i := by
  -- Between the least and the greatest word no bits are dropped.
  have least : Int64.minValue.toInt = -2 ^ 63 := by decide
  have greatest : Int64.maxValue.toInt = 2 ^ 63 - 1 := by decide
  obtain ⟨above, below⟩ := fits
  exact Int64.toInt_ofInt_of_le (by omega) (by omega)

/-- Zero is a word. -/
@[simp] theorem wrap_zero : wrap 0 = 0 := by decide

/-- The sum of two words is their exact sum, wrapped. -/
theorem add_eq_wrap (a b : Int) : add a b = wrap (a + b) := by
  rw [add, wrap, Int64.ofInt_add]

/-- Wrapping a part of a sum before adding the rest makes no difference. -/
theorem wrap_wrap_add (a b : Int) : wrap (wrap a + b) = wrap (a + b) := by
  -- Dropping bits commutes with the addition of words.
  rw [wrap, wrap, wrap, Int64.ofInt_add, Int64.ofInt_toInt, Int64.ofInt_add]

/-- The same for the second part. -/
theorem wrap_add_wrap (a b : Int) : wrap (a + wrap b) = wrap (a + b) := by
  rw [Int.add_comm a, wrap_wrap_add, Int.add_comm]

end Dashboard.Word
