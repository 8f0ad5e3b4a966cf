import Dashboard.Text.CaseTable

/-! Upper and lower case of texts, letter by letter, and comparison that ignores the case of ASCII letters. -/

namespace Dashboard.Text

/-- The code point that a run maps `code` to, when the run holds it. -/
def CaseRun.image? (run : CaseRun) (code : Nat) : Option Nat :=
  -- Where capitals and small letters alternate, only every second code point belongs to the run.
  if run.first ≤ code ∧ code ≤ run.last ∧ (code - run.first) % run.stride = 0 then
    some (code + run.shift).toNat
  else none

/-- A character that no run holds is its own image. -/
def caseImage (runs : List CaseRun) (c : Char) : Char :=
  ((runs.findSome? (·.image? c.toNat)).map Char.ofNat).getD c

/-- The lower-case form of one character; only a capital I with a dot above needs two characters. -/
def lowerChar (c : Char) : List Char :=
  if c = '\u0130' then ['i', '\u0307'] else [caseImage lowerRuns c]

/-- The upper-case form of one character, which may be up to three characters long. -/
def upperChar (c : Char) : List Char :=
  match upperExpansions.find? (·.1 == c.toNat) with
  | some (_, codes) => codes.map Char.ofNat
  | none => [caseImage upperRuns c]

/-- Every character in its lower-case form. -/
def lower (s : String) : String :=
  String.ofList (s.toList.flatMap lowerChar)

/-- Every character in its upper-case form. -/
def upper (s : String) : String :=
  String.ofList (s.toList.flatMap upperChar)

/-- Two texts agree up to case when they differ at most in the case of ASCII letters. -/
def sameUpToCase (a b : String) : Bool :=
  -- This lower case changes the letters from A to Z and nothing else.
  a.toList.map Char.toLower == b.toList.map Char.toLower

end Dashboard.Text
