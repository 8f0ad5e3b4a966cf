import Dashboard.Proofs.Record.Field
import Mathlib.Computability.Language

/-! The grammar of names: a regular language of segments with single separators between them, and the only way to read
a name of this language as segments. -/

namespace Dashboard.Field

open scoped Computability

/-- The texts of one character that has a property. -/
def oneOf (property : Char → Bool) : Language Char :=
  {text | ∃ c, property c = true ∧ text = [c]}

/-- The texts of one character of a range. -/
def range (first last : Char) : Language Char :=
  oneOf fun c => first ≤ c ∧ c ≤ last

/-- The texts of one character that a segment may start with. -/
def initial : Language Char :=
  range 'A' 'Z' + range 'a' 'z' + oneOf (· == '_')

/-- Segments: `[A-Za-z_][A-Za-z0-9_]*`. -/
def segment : Language Char :=
  initial * (initial + range '0' '9')∗

/-- Names: segments with `[.$]` between each two of them. -/
def pattern : Language Char :=
  segment * ((oneOf (· == '.') + oneOf (· == '$')) * segment)∗

section

variable {property other : Char → Bool} {language : Language Char}

/-- A character of one kind or of another one has one of two properties. -/
theorem oneOf_add : oneOf property + oneOf other = oneOf fun c => property c || other c := by
  ext text
  -- A text of one character has one of the properties when its character does.
  rw [Language.mem_add]
  constructor
  · intro member
    obtain ⟨c, holds, shape⟩ | ⟨c, holds, shape⟩ := member
    · exact ⟨c, by simp [holds], shape⟩
    · exact ⟨c, by simp [holds], shape⟩
  · intro member
    obtain ⟨c, either, shape⟩ := member
    rcases Bool.or_eq_true_iff.1 either with holds | holds
    · exact .inl ⟨c, holds, shape⟩
    · exact .inr ⟨c, holds, shape⟩

/-- A text starts with a character of some kind when its first character is of this kind and the rest goes on. -/
theorem mem_oneOf_mul {text : List Char} :
    text ∈ oneOf property * language ↔ ∃ c rest, text = c :: rest ∧ property c = true ∧ rest ∈ language := by
  -- The first part of the product is the text of the first character.
  rw [Language.mem_mul]
  constructor
  · rintro ⟨_, ⟨c, holds, rfl⟩, rest, member, rfl⟩
    exact ⟨c, rest, rfl, holds, member⟩
  · rintro ⟨c, rest, rfl, holds, member⟩
    exact ⟨[c], ⟨c, holds, rfl⟩, rest, member, rfl⟩

/-- Repeating a character of some kind gives the texts of characters of this kind. -/
theorem mem_kstar_oneOf {text : List Char} : text ∈ (oneOf property)∗ ↔ ∀ c ∈ text, property c = true := by
  rw [Language.mem_kstar]
  constructor
  · rintro ⟨parts, rfl, each⟩ c member
    obtain ⟨part, listed, inside⟩ := List.mem_flatten.1 member
    obtain ⟨d, holds, rfl⟩ := each part listed
    rwa [List.mem_singleton.1 inside]
  · intro each
    -- Each character is a part of its own.
    refine ⟨text.map fun c => [c], ?_, fun part listed => ?_⟩
    · rw [← List.flatMap_def, List.flatMap_singleton']
    · obtain ⟨c, member, rfl⟩ := List.mem_map.1 listed
      exact ⟨c, each c member, rfl⟩

end

/-- A segment starts with a letter or an underscore. -/
theorem initial_eq : initial = oneOf fun c => c.isAlpha || c == '_' := by
  -- The ranges are the library's own tests for characters.
  have upper (c : Char) : decide ('A' ≤ c ∧ c ≤ 'Z') = c.isUpper := rfl
  have lower (c : Char) : decide ('a' ≤ c ∧ c ≤ 'z') = c.isLower := Bool.decide_and _ _
  have alpha (c : Char) : (c.isUpper || c.isLower) = c.isAlpha := rfl
  simp only [initial, range, oneOf_add, upper, lower, alpha]

/-- Behind its start a segment goes on with letters, digits and underscores. -/
theorem initial_add_digit : initial + range '0' '9' = oneOf fun c => c.isAlphanum || c == '_' := by
  have digit (c : Char) : decide ('0' ≤ c ∧ c ≤ '9') = c.isDigit := Bool.decide_and _ _
  have alphanum (c : Char) : (c.isAlpha || c.isDigit) = c.isAlphanum := rfl
  simp only [initial_eq, range, oneOf_add, digit, Bool.or_right_comm, alphanum]

/-- The test for segments recognizes their language. -/
theorem mem_segment {text : List Char} : text ∈ segment ↔ isSegment text = true := by
  rw [segment, initial_add_digit, initial_eq, mem_oneOf_mul]
  -- A segment has a first character, and what follows repeats one kind of them.
  cases text with
  | nil => simp [isSegment]
  | cons c cs => simp [isSegment, mem_kstar_oneOf]

/-- No character of a segment separates segments. -/
theorem unseparated_of_mem_segment {text : List Char} (whole : text ∈ segment) : Unseparated text := by
  rw [mem_segment] at whole
  intro c member
  -- A separator is neither a letter nor a digit nor an underscore.
  have other : (c.isAlphanum || c == '_') = true := by
    cases text with
    | nil => cases member
    | cons first rest =>
      -- The first character of a segment is a letter or an underscore, and all others may be digits as well.
      simp only [isSegment, Bool.and_eq_true, List.all_eq_true] at whole
      rcases List.mem_cons.1 member with rfl | later
      · simp only [Char.isAlphanum, Bool.or_eq_true] at whole ⊢
        tauto
      · exact whole.2 c later
  cases separates : isSeparator c with
  | false => rfl
  | true =>
    simp only [isSeparator, Bool.or_eq_true, beq_iff_eq] at separates
    rcases separates with rfl | rfl
    · cases other
    · cases other

/-- Names are the texts that are made of segments. -/
theorem mem_pattern {text : List Char} : text ∈ pattern ↔ ∃ parts, Joined (· ∈ segment) text parts := by
  have separators : oneOf (· == '.') + oneOf (· == '$') = oneOf isSeparator := oneOf_add
  rw [pattern, separators, Language.mem_mul]
  constructor
  · -- Induction on the repetitions: the first of them goes between the first segment and the next one.
    rintro ⟨first, whole, _, ⟨repeated, rfl, each⟩, rfl⟩
    induction repeated generalizing first with
    | nil => exact ⟨[first], by simpa using Joined.single whole⟩
    | cons part others ih =>
      obtain ⟨partEach, othersEach⟩ := List.forall_mem_cons.1 each
      obtain ⟨separator, next, rfl, separates, nextWhole⟩ := mem_oneOf_mul.1 partEach
      obtain ⟨parts, joined⟩ := ih next nextWhole othersEach
      exact ⟨first :: parts, by simpa using Joined.cons whole separates joined⟩
  · -- Induction on the segments: a separator and the next one make one repetition more.
    rintro ⟨parts, joined⟩
    induction joined with
    | @single first whole => exact ⟨first, whole, [], Language.nil_mem_kstar _, List.append_nil first⟩
    | @cons first _ _ separator whole separates _ ih =>
      obtain ⟨next, nextWhole, _, ⟨repeated, rfl, each⟩, rfl⟩ := ih
      refine ⟨first, whole, separator :: (next ++ repeated.flatten), ⟨(separator :: next) :: repeated, rfl, ?_⟩, rfl⟩
      exact List.forall_mem_cons.2 ⟨mem_oneOf_mul.2 ⟨separator, next, rfl, separates, nextWhole⟩, each⟩

/-- A text is made of segments of a name in one way only, and is one when the test for names accepts it. -/
theorem joined_segment_iff {name : String} {parts : List (List Char)} :
    Joined (· ∈ segment) name.toList parts ↔ isValid name = true ∧ parts = segments name.toList := by
  constructor
  · -- Segments have no separators in them, so that the parts are found by looking for separators.
    intro joined
    have each := joined.forall_mem
    have unseparated := joined.of_forall_mem fun piece listed => unseparated_of_mem_segment (each piece listed)
    obtain rfl := unseparated.eq_segments
    exact ⟨List.all_eq_true.2 fun piece listed => mem_segment.1 (each piece listed), rfl⟩
  · rintro ⟨valid, rfl⟩
    exact (joined_segments _).of_forall_mem fun piece listed => mem_segment.2 (List.all_eq_true.1 valid piece listed)

end Dashboard.Field
