import Dashboard.Json.Basic
import Dashboard.Number.Decimal

/-! Scanning JSON documents, strictly as RFC 8259 has them. -/

namespace Dashboard.Json

/-- The blanks that may stand between the parts of a document. -/
def isSpace (c : Char) : Bool :=
  c == ' ' || c == '\n' || c == '\t' || c == '\r'

/-- Drops the blanks in front. -/
def skipSpace (cs : List Char) : List Char :=
  cs.dropWhile isSpace

/-- The number that a hexadecimal digit stands for. -/
def hexValue? (c : Char) : Option Nat :=
  if c.isDigit then some (c.toNat - '0'.toNat)
  else if 'a' ≤ c ∧ c ≤ 'f' then some (c.toNat - 'a'.toNat + 10)
  else if 'A' ≤ c ∧ c ≤ 'F' then some (c.toNat - 'A'.toNat + 10)
  else none

/-- The number that four hexadecimal digits stand for. -/
def hexCode? (a b c d : Char) : Option Nat := do
  pure ((((← hexValue? a) * 16 + (← hexValue? b)) * 16 + (← hexValue? c)) * 16 + (← hexValue? d))

/-- Whether a code is the first half of a character beyond the sixteen-bit codes. -/
def isHighHalf (code : Nat) : Bool := 0xD800 ≤ code && code ≤ 0xDBFF

/-- Whether a code is the second half of a character beyond the sixteen-bit codes. -/
def isLowHalf (code : Nat) : Bool := 0xDC00 ≤ code && code ≤ 0xDFFF

/-- The characters that a list of codes stands for: two halves make one character, and half a character makes none. -/
def ofCodes : List Nat → Option (List Char)
  | [] => some []
  | code :: rest =>
    -- The first half of a character needs the second half right behind it.
    if isHighHalf code then
      match rest with
      | low :: more =>
        if isLowHalf low then
          (ofCodes more).map (Char.ofNat (0x10000 + (code - 0xD800) * 0x400 + (low - 0xDC00)) :: ·)
        else none
      | [] => none
    else if isLowHalf code then none
    else (ofCodes rest).map (Char.ofNat code :: ·)

/-- The character behind a backslash, when it stands for one by itself. -/
def shortEscape? (c : Char) : Option Char :=
  if c = '"' ∨ c = '\\' ∨ c = '/' then some c
  else if c = 'b' then some '\x08'
  else if c = 'f' then some '\x0c'
  else if c = 'n' then some '\n'
  else if c = 'r' then some '\r'
  else if c = 't' then some '\t'
  else none

/-- Reads a text literal behind its opening quote, as the codes in it and the rest behind it. -/
def scanLiteral : List Char → Option (List Nat × List Char)
  | [] => none
  | '"' :: rest => some ([], rest)
  | '\\' :: 'u' :: a :: b :: c :: d :: rest => do
    let code ← hexCode? a b c d
    let (codes, rest) ← scanLiteral rest
    pure (code :: codes, rest)
  | '\\' :: c :: rest => do
    let plain ← shortEscape? c
    let (codes, rest) ← scanLiteral rest
    pure (plain.toNat :: codes, rest)
  | c :: rest =>
    if c = '\\' ∨ c.toNat < 0x20 then none
    else do
      let (codes, rest) ← scanLiteral rest
      pure (c.toNat :: codes, rest)

/-- Reads the whole part of a number: a zero alone, or digits that do not start with zero. -/
def scanWhole : List Char → Option (List Char × List Char)
  | '0' :: rest => some (['0'], rest)
  | cs =>
    let (ds, rest) := cs.span Char.isDigit
    if ds = [] then none else some (ds, rest)

/-- Reads the digits that must follow a point or the mark of an exponent. -/
def scanSomeDigits (cs : List Char) : Option (List Char × List Char) :=
  let (ds, rest) := cs.span Char.isDigit
  if ds = [] then none else some (ds, rest)

/-- Reads the fraction of a number, if there is one. -/
def scanFraction : List Char → Option (List Char × List Char)
  | '.' :: rest => (scanSomeDigits rest).map fun (ds, rest) => ('.' :: ds, rest)
  | rest => some ([], rest)

/-- Reads the exponent of a number, if there is one. -/
def scanExponent : List Char → Option (List Char × List Char)
  | c :: rest =>
    if c = 'e' ∨ c = 'E' then
      match rest with
      | '+' :: more => (scanSomeDigits more).map fun (ds, rest) => (c :: '+' :: ds, rest)
      | '-' :: more => (scanSomeDigits more).map fun (ds, rest) => (c :: '-' :: ds, rest)
      | more => (scanSomeDigits more).map fun (ds, rest) => (c :: ds, rest)
    else some ([], c :: rest)
  | [] => some ([], [])

/-- Reads a number behind its sign; minus zero is not an integer. -/
def scanNumber (negative : Bool) (cs : List Char) : Option (Json × List Char) := do
  let (whole, rest) ← scanWhole cs
  let (fraction, rest) ← scanFraction rest
  let (exponent, rest) ← scanExponent rest
  let n := Decimal.value whole
  -- Integers are exact at any size; every other number keeps its written form.
  if fraction = [] ∧ exponent = [] ∧ ¬(negative ∧ n = 0) then
    pure (integer (if negative then -(n : Int) else n), rest)
  else
    let sign := if negative then ['-'] else []
    pure (decimal (String.ofList (sign ++ whole ++ fraction ++ exponent)), rest)

/-- Reads a fixed word. -/
def scanWord (word : List Char) (value : Json) (cs : List Char) : Option (Json × List Char) :=
  if word.isPrefixOf cs then some (value, cs.drop word.length) else none

/-- The text that a literal's codes stand for. -/
def textOfCodes? (codes : List Nat) : Option String :=
  (ofCodes codes).map String.ofList

/-- The value that a literal's codes stand for. -/
def ofLiteral (codes : List Nat) : Json :=
  match textOfCodes? codes with
  | some s => text s
  | none => unreadable

/-- An object of members whose keys may be unreadable. -/
def ofMembers (members : List (Option String × Json)) : Json :=
  match members.mapM fun (key, value) => key.map (·, value) with
  | some members => object members
  | none => unreadable

mutual

/-- Reads the value in front. -/
def scanValue : Nat → List Char → Option (Json × List Char)
  | 0, _ => none
  | fuel + 1, cs =>
    match skipSpace cs with
    | '[' :: rest =>
      match skipSpace rest with
      | ']' :: rest => some (array [], rest)
      | rest => (scanItems fuel rest).map fun (items, rest) => (array items, rest)
    | '\x7b' :: rest =>
      match skipSpace rest with
      | '\x7d' :: rest => some (object [], rest)
      | rest => (scanMembers fuel rest).map fun (members, rest) => (ofMembers members, rest)
    | '"' :: rest => (scanLiteral rest).map fun (codes, rest) => (ofLiteral codes, rest)
    | 'n' :: rest => scanWord "ull".toList null rest
    | 't' :: rest => scanWord "rue".toList (bool true) rest
    | 'f' :: rest => scanWord "alse".toList (bool false) rest
    | '-' :: rest => scanNumber true rest
    | rest => scanNumber false rest

/-- Reads the items up to the closing bracket. -/
def scanItems : Nat → List Char → Option (List Json × List Char)
  | 0, _ => none
  | fuel + 1, cs =>
    match scanValue fuel cs with
    | none => none
    | some (item, rest) =>
      match skipSpace rest with
      | ',' :: rest => (scanItems fuel rest).map fun (items, rest) => (item :: items, rest)
      | ']' :: rest => some ([item], rest)
      | _ => none

/-- Reads the members up to the closing brace. -/
def scanMembers : Nat → List Char → Option (List (Option String × Json) × List Char)
  | 0, _ => none
  | fuel + 1, cs =>
    match skipSpace cs with
    | '"' :: rest =>
      match scanLiteral rest with
      | none => none
      | some (key, rest) =>
        match skipSpace rest with
        | ':' :: rest =>
          match scanValue fuel rest with
          | none => none
          | some (value, rest) =>
            let member := (textOfCodes? key, value)
            match skipSpace rest with
            | ',' :: rest => (scanMembers fuel rest).map fun (members, rest) => (member :: members, rest)
            | '\x7d' :: rest => some ([member], rest)
            | _ => none
        | _ => none
    | _ => none

end

/-- Scans a document: one value, with nothing but blanks around it. What is in it may be too much to be held. -/
def scan? (document : String) : Option Json :=
  let cs := document.toList
  -- Every other step of the reader consumes a character.
  match scanValue (2 * cs.length + 2) cs with
  | some (value, rest) => if skipSpace rest = [] then some value else none
  | none => none

end Dashboard.Json
