import Dashboard.Number.Decimal
import Mathlib

/-! Laws of decimal notation: what padding changes and keeps, that written integers read back, and which texts are
read at all. -/

namespace Dashboard.Decimal

/-- A number has at least one digit. -/
theorem digits_ne_nil (n : Nat) : digits n ≠ [] := Nat.toDigits_ne_nil

/-- A number is written in digits. -/
theorem isDigit_of_mem_digits {n : Nat} {c : Char} (member : c ∈ digits n) : c.isDigit = true :=
  Nat.isDigit_of_mem_toDigits (by decide) (by decide) member

/-- A padded number is written in digits. -/
theorem isDigit_of_mem_padded {width n : Nat} {c : Char} (member : c ∈ padded width n) : c.isDigit = true := by
  -- The padding consists of zeros.
  rcases List.mem_append.1 member with zero | digit
  · rw [List.eq_of_mem_replicate zero]
    decide
  · exact isDigit_of_mem_digits digit

/-- Zeros in front do not change the number. -/
@[simp] theorem value_padded (width n : Nat) : value (padded width n) = n := by
  unfold value padded
  rw [Nat.ofDigitChars_append, Nat.ofDigitChars_replicate_zero]
  exact value_digits n

/-- The number that two digit strings make together. -/
theorem value_append (front back : List Char) :
    value (front ++ back) = 10 ^ back.length * value front + value back := by
  -- Each digit behind the front multiplies its number by ten.
  unfold value
  rw [Nat.ofDigitChars_append, Nat.ofDigitChars_eq_ofDigitChars_zero]

/-- Numbers that fit are padded to exactly the width. -/
theorem length_padded {width n : Nat} (positive : 0 < width) (fits : n < 10 ^ width) :
    (padded width n).length = width := by
  -- The digits alone are no longer than the width, and zeros make up the rest.
  have short := (Nat.length_toDigits_le_iff (by decide) positive).2 fits
  unfold padded digits
  rw [List.length_append, List.length_replicate]
  omega

/-- Padding keeps numbers apart. -/
theorem padded_injective {width m n : Nat} (same : padded width m = padded width n) : m = n := by
  -- Both digit strings stand for their number.
  rw [← value_padded width m, same, value_padded]

/-- A padded number does not start with a sign. -/
theorem padded_ne_cons {width n : Nat} {sign : Char} {cs : List Char} (notDigit : sign.isDigit = false) :
    padded width n ≠ sign :: cs := by
  -- Its first character is a digit like all others.
  intro same
  have digit := isDigit_of_mem_padded (same ▸ List.mem_cons_self)
  rw [notDigit] at digit
  cases digit

/-- Digits in front end at the first character that is none. -/
theorem span_append {ds rest : List Char} (digits : ∀ c ∈ ds, c.isDigit = true)
    (ended : ∀ c ∈ rest.head?, c.isDigit = false) : (ds ++ rest).span Char.isDigit = (ds, rest) := by
  -- The digits are taken as long as there are some, and what follows begins with none.
  rw [List.span_eq_takeWhile_dropWhile, List.takeWhile_append_of_pos digits, List.dropWhile_append_of_pos digits]
  cases rest with
  | nil => simp
  | cons c cs => simp [ended c rfl]

/-- Written digits are read as their number. -/
theorem readNat?_digits (n : Nat) : readNat? (digits n) = some n := by
  -- They are digits and nothing else, and there are some.
  unfold readNat?
  rw [if_pos ⟨digits_ne_nil n, List.all_eq_true.2 fun _ => isDigit_of_mem_digits⟩, value_digits]

/-- A padded number has at least one digit. -/
theorem padded_ne_nil (width n : Nat) : padded width n ≠ [] := by
  simp [padded, digits_ne_nil]

/-- Padded digits are read as their number. -/
theorem readNat?_padded (width n : Nat) : readNat? (padded width n) = some n := by
  unfold readNat?
  rw [if_pos ⟨padded_ne_nil width n, List.all_eq_true.2 fun _ => isDigit_of_mem_padded⟩, value_padded]

/-- Without a sign in front an integer is read as a natural number. -/
theorem readInt?_of_isDigit {c : Char} {cs : List Char} (digit : c.isDigit = true) :
    readInt? (c :: cs) = (readNat? (c :: cs)).map Int.ofNat := by
  -- Neither sign is a digit.
  unfold readInt?
  split
  · rename_i shape
    cases shape
    cases digit
  · rename_i shape
    cases shape
    cases digit
  · rfl

/-- Written integers are read back. -/
theorem readInt?_signedDigits (i : Int) : readInt? (signedDigits i) = some i := by
  unfold signedDigits
  split
  · -- Behind the sign stand the digits of the opposite number.
    rw [readInt?, readNat?_digits]
    show some (-(i.natAbs : Int)) = some i
    congr 1
    omega
  · -- The first digit keeps the text from being read as one with a sign.
    cases shape : digits i.natAbs with
    | nil => exact absurd shape (digits_ne_nil _)
    | cons c cs =>
      rw [readInt?_of_isDigit (isDigit_of_mem_digits (shape ▸ List.mem_cons_self)), ← shape, readNat?_digits]
      simp only [Option.map_some, Option.some.injEq, Int.ofNat_eq_natCast]
      omega

/-- A natural number is written as the integer that it is. -/
theorem ofInt_natCast (n : Nat) : ofInt n = ofNat n := by
  unfold ofInt signedDigits
  rw [if_neg (by omega), Int.natAbs_natCast]
  rfl

/-- A text spells an integer in decimal notation: in digits, which a sign may precede. -/
inductive Spells : List Char → Int → Prop where
  | plain {ds : List Char} : ds ≠ [] → (∀ c ∈ ds, c.isDigit = true) → Spells ds (value ds)
  | plus {ds : List Char} : ds ≠ [] → (∀ c ∈ ds, c.isDigit = true) → Spells ('+' :: ds) (value ds)
  | minus {ds : List Char} : ds ≠ [] → (∀ c ∈ ds, c.isDigit = true) → Spells ('-' :: ds) (-value ds)

/-- A natural number is read exactly from digits, of which there must be some. -/
theorem readNat?_eq_some_iff {cs : List Char} {n : Nat} :
    readNat? cs = some n ↔ cs ≠ [] ∧ (∀ c ∈ cs, c.isDigit = true) ∧ value cs = n := by
  unfold readNat?
  rw [Option.ite_none_right_eq_some, List.all_eq_true, Option.some.injEq, and_assoc]

/-- An integer is read exactly where it is spelled. -/
theorem readInt?_eq_some_iff {cs : List Char} {i : Int} : readInt? cs = some i ↔ Spells cs i := by
  constructor
  · intro read
    -- What stands behind a sign, or without one from the start, is a natural number.
    unfold readInt? at read
    split at read <;> rename_i ds
    · obtain ⟨n, isNat, rfl⟩ := Option.map_eq_some_iff.1 read
      obtain ⟨nonempty, digits, rfl⟩ := readNat?_eq_some_iff.1 isNat
      exact .plus nonempty digits
    · cases isNat : readNat? ds with
      | none => simp [isNat] at read
      | some n =>
        obtain ⟨nonempty, digits, rfl⟩ := readNat?_eq_some_iff.1 isNat
        rw [isNat] at read
        obtain rfl : -(value ds : Int) = i := Option.some.inj read
        exact .minus nonempty digits
    · obtain ⟨n, isNat, rfl⟩ := Option.map_eq_some_iff.1 read
      obtain ⟨nonempty, digits, rfl⟩ := readNat?_eq_some_iff.1 isNat
      exact .plain nonempty digits
  · rintro (⟨nonempty, digits⟩ | ⟨nonempty, digits⟩ | ⟨nonempty, digits⟩)
    · -- The first digit is not taken for a sign.
      cases cs with
      | nil => exact absurd rfl nonempty
      | cons c rest =>
        rw [readInt?_of_isDigit (digits c List.mem_cons_self), readNat?_eq_some_iff.2 ⟨nonempty, digits, rfl⟩]
        rfl
    · rw [readInt?, readNat?_eq_some_iff.2 ⟨nonempty, digits, rfl⟩]
      rfl
    · rw [readInt?, readNat?_eq_some_iff.2 ⟨nonempty, digits, rfl⟩]
      rfl

end Dashboard.Decimal
