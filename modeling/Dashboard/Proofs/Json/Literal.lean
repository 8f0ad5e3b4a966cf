import Dashboard.Json.Reader
import Dashboard.Json.Writer
import Dashboard.Proofs.Number.Decimal

/-! Texts and integers are read back from a document as they were written into it. -/

namespace Dashboard.Json

/-- Puts a code in front of a literal that was read. -/
def consCode (code : Nat) (read : List Nat × List Char) : List Nat × List Char :=
  (code :: read.1, read.2)

/-- Each of the sixteen digits is read as its own number. -/
theorem hexValue?_hexDigit {n : Nat} (small : n < 16) : hexValue? (hexDigit n) = some n := by
  -- Sixteen cases, and one that the bound excludes.
  rcases n with _ | _ | _ | _ | _ | _ | _ | _ | _ | _ | _ | _ | _ | _ | _ | _ | n
  all_goals first | rfl | omega

/-- A letter behind a backslash is read as the character that it stands for. -/
theorem scanLiteral_short {c plain : Char} (named : shortEscape? c = some plain) (rest : List Char) :
    scanLiteral ('\\' :: c :: rest) = (scanLiteral rest).map (consCode plain.toNat) := by
  -- The letter that announces a number stands for no character.
  have unnumbered : c ≠ 'u' := by
    rintro rfl
    cases named
  rw [scanLiteral.eq_4 c rest fun _ _ _ _ _ numbered => absurd numbered unnumbered, named]
  cases scanLiteral rest <;> rfl

/-- A numbered control character is read as its number. -/
theorem scanLiteral_numbered {code : Nat} (small : code < 0x20) (rest : List Char) :
    scanLiteral ('\\' :: 'u' :: '0' :: '0' :: hexDigit (code / 16) :: hexDigit (code % 16) :: rest) =
      (scanLiteral rest).map (consCode code) := by
  -- The first two of the four digits are zeros, and the others make the number.
  have read : hexCode? '0' '0' (hexDigit (code / 16)) (hexDigit (code % 16)) = some code := by
    have zero : hexValue? '0' = some 0 := rfl
    simp only [hexCode?, zero, hexValue?_hexDigit (show code / 16 < 16 by omega),
      hexValue?_hexDigit (show code % 16 < 16 by omega), Option.pure_def, Option.bind_eq_bind, Option.bind_some,
      Option.some.injEq]
    omega
  rw [scanLiteral.eq_3, read]
  cases scanLiteral rest <;> rfl

/-- A printed character that is neither a quote nor a backslash is read as itself. -/
theorem scanLiteral_plain {c : Char} (unquoted : c ≠ '"') (unescaped : c ≠ '\\') (printed : ¬c.toNat < 0x20)
    (rest : List Char) : scanLiteral (c :: rest) = (scanLiteral rest).map (consCode c.toNat) := by
  rw [scanLiteral.eq_5 c rest unquoted (fun _ _ _ _ _ escaped => absurd escaped unescaped)
    fun _ _ escaped => absurd escaped unescaped, if_neg (not_or.2 ⟨unescaped, printed⟩)]
  cases scanLiteral rest <;> rfl

/-- A character is read as its own code, however it is written. -/
theorem scanLiteral_escapeChar (c : Char) (rest : List Char) :
    scanLiteral (escapeChar c ++ rest) = (scanLiteral rest).map (consCode c.toNat) := by
  unfold escapeChar
  -- A letter behind the backslash stands for one of seven characters; the other control characters are numbered.
  by_cases lettered : c ∈ ['"', '\\', '\x08', '\x0c', '\n', '\r', '\t']
  · simp only [List.mem_cons, List.not_mem_nil, or_false] at lettered
    rcases lettered with rfl | rfl | rfl | rfl | rfl | rfl | rfl <;> exact scanLiteral_short rfl rest
  · simp only [List.mem_cons, List.not_mem_nil, or_false, not_or] at lettered
    obtain ⟨quote, backslash, backspace, formFeed, lineFeed, carriageReturn, tab⟩ := lettered
    rw [if_neg quote, if_neg backslash, if_neg backspace, if_neg formFeed, if_neg lineFeed, if_neg carriageReturn,
      if_neg tab]
    -- What is no control character is written as itself.
    by_cases control : c.toNat < 0x20
    · rw [if_pos control]
      exact scanLiteral_numbered control rest
    · rw [if_neg control]
      exact scanLiteral_plain quote backslash control rest

/-- A literal is read up to its closing quote. -/
theorem scanLiteral_escaped (cs rest : List Char) :
    scanLiteral (cs.flatMap escapeChar ++ '"' :: rest) = some (cs.map Char.toNat, rest) := by
  -- Characters are read one by one, each however it was escaped.
  induction cs with
  | nil => exact scanLiteral.eq_2 rest
  | cons c cs ih =>
    rw [List.flatMap_cons, List.append_assoc, scanLiteral_escapeChar, ih]
    rfl

/-- No character is half a character, so that its code stands for it. -/
theorem ofCodes_toNat (cs : List Char) : ofCodes (cs.map Char.toNat) = some cs := by
  -- None of the codes belongs to a pair, so each makes a character of its own.
  induction cs with
  | nil => rfl
  | cons c cs ih =>
    -- The codes of halves are kept free for them.
    have whole : c.toNat < 0xD800 ∨ 0xDFFF < c.toNat := by
      rcases c.valid with below | above
      · exact .inl below
      · exact .inr above.1
    have notHigh : isHighHalf c.toNat = false := by
      unfold isHighHalf
      simp only [Bool.and_eq_false_iff, decide_eq_false_iff_not]
      omega
    have notLow : isLowHalf c.toNat = false := by
      unfold isLowHalf
      simp only [Bool.and_eq_false_iff, decide_eq_false_iff_not]
      omega
    rw [List.map_cons, ofCodes.eq_def]
    simp [notHigh, notLow, ih]

/-- The codes of a text make the text. -/
theorem textOfCodes?_toNat (s : String) : textOfCodes? (s.toList.map Char.toNat) = some s := by
  unfold textOfCodes?
  rw [ofCodes_toNat, Option.map_some, String.ofList_toList]

/-- Nothing follows that a number in front of it could go on with. -/
def Ends (rest : List Char) : Prop :=
  ∀ c ∈ rest.head?, c.isDigit = false ∧ c ≠ '.' ∧ c ≠ 'e' ∧ c ≠ 'E'

/-- The digits of a number start with a zero only where they are this zero. -/
theorem digits_eq_zero_cons {n : Nat} {cs : List Char} (zero : Decimal.digits n = '0' :: cs) : n = 0 ∧ cs = [] := by
  -- The last digit is taken off until there is only one.
  induction n using Nat.strongRecOn generalizing cs with
  | ind n ih =>
    by_cases single : n < 10
    · rw [Decimal.digits, Nat.toDigits_of_lt_base single] at zero
      obtain ⟨first, rfl⟩ := List.cons.inj zero
      have : ∀ d < 10, Nat.digitChar d = '0' → d = 0 := by decide
      exact ⟨this n single first, rfl⟩
    · -- A number of several digits begins as its tenth does, which is not zero.
      have split := Nat.toDigits_of_base_le (b := 10) (by decide) (Nat.not_lt.1 single)
      rw [Decimal.digits, split] at zero
      obtain ⟨c, front, shape⟩ := List.exists_cons_of_ne_nil (Decimal.digits_ne_nil (n / 10))
      rw [show Nat.toDigits 10 (n / 10) = _ from shape, List.cons_append] at zero
      obtain ⟨rfl, -⟩ := List.cons.inj zero
      obtain ⟨small, -⟩ := ih (n / 10) (by omega) shape
      omega

/-- The digits of a number are read up to the first character that is none. -/
theorem scanWhole_digits (n : Nat) {rest : List Char} (ended : Ends rest) :
    scanWhole (Decimal.digits n ++ rest) = some (Decimal.digits n, rest) := by
  by_cases zero : ∃ cs, Decimal.digits n = '0' :: cs
  · obtain ⟨cs, shape⟩ := zero
    obtain ⟨rfl, rfl⟩ := digits_eq_zero_cons shape
    rfl
  · -- Digits without a zero in front are taken as far as they go.
    have spanned := Decimal.span_append (fun _ => Decimal.isDigit_of_mem_digits (n := n)) fun c first => (ended c first).1
    rw [scanWhole.eq_2, spanned]
    · simp [Decimal.digits_ne_nil]
    · -- The only other way to read the digits is a zero in front, which was excluded.
      intro tail shape
      cases digits : Decimal.digits n with
      | nil => exact Decimal.digits_ne_nil n digits
      | cons c cs =>
        rw [digits] at shape
        cases shape
        exact zero ⟨cs, digits⟩

/-- Where a number ends there is no fraction. -/
theorem scanFraction_of_ends {rest : List Char} (ended : Ends rest) : scanFraction rest = some ([], rest) := by
  -- What ends a number is no decimal point.
  unfold scanFraction
  split
  · rename_i point
    exact absurd rfl (ended '.' rfl).2.1
  · rfl

/-- Where a number ends there is no exponent. -/
theorem scanExponent_of_ends {rest : List Char} (ended : Ends rest) : scanExponent rest = some ([], rest) := by
  -- What ends a number is neither the small nor the capital letter of an exponent.
  cases rest with
  | nil => rfl
  | cons c cs =>
    obtain ⟨-, -, small, capital⟩ := ended c rfl
    exact if_neg (not_or.2 ⟨small, capital⟩)

/-- The digits of a number are read as an integer, with the sign in front of them. -/
theorem scanNumber_digits {negative : Bool} {n : Nat} (signed : negative = true → n ≠ 0) {rest : List Char}
    (ended : Ends rest) : scanNumber negative (Decimal.digits n ++ rest) =
      some (integer (if negative then -(n : Int) else n), rest) := by
  unfold scanNumber
  simp only [scanWhole_digits n ended, scanFraction_of_ends ended, scanExponent_of_ends ended, Decimal.value_digits,
    Option.bind_eq_bind, Option.bind_some, Option.pure_def]
  -- Minus zero is a number of the other kind, but no integer is written so.
  rw [if_pos ⟨trivial, trivial, fun minusZero => signed minusZero.1 minusZero.2⟩]

end Dashboard.Json
