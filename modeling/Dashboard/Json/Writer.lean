import Dashboard.Json.Basic
import Dashboard.Number.Decimal

/-! Writing JSON values, either on one line or with one item a line. -/

namespace Dashboard.Json

/-- The digit of a number below sixteen, with small letters. -/
def hexDigit (n : Nat) : Char :=
  Nat.digitChar n

/-- Quotes, backslashes and control characters are escaped, all else stands for itself. -/
def escapeChar (c : Char) : List Char :=
  if c = '"' then ['\\', '"']
  else if c = '\\' then ['\\', '\\']
  else if c = '\x08' then ['\\', 'b']
  else if c = '\x0c' then ['\\', 'f']
  else if c = '\n' then ['\\', 'n']
  else if c = '\r' then ['\\', 'r']
  else if c = '\t' then ['\\', 't']
  -- Control characters without a letter of their own are numbered.
  else if c.toNat < 0x20 then ['\\', 'u', '0', '0', hexDigit (c.toNat / 16), hexDigit (c.toNat % 16)]
  else [c]

/-- A text between quotes. -/
def quoted (s : String) : List Char :=
  '"' :: s.toList.flatMap escapeChar ++ ['"']

mutual

/-- A value on one line, without blanks. -/
def compactChars : Json → List Char
  | null => "null".toList
  | bool value => (if value then "true" else "false").toList
  | integer value => Decimal.signedDigits value
  | decimal lexeme => lexeme.toList
  | text value => quoted value
  | unreadable => "null".toList
  | array items => '[' :: compactItems true items
  | object members => '\x7b' :: compactMembers true members

/-- The items from here on and the closing bracket; a comma stands before all but the first. -/
def compactItems : Bool → List Json → List Char
  | _, [] => [']']
  | first, item :: rest => (if first then [] else [',']) ++ compactChars item ++ compactItems false rest

/-- The members from here on and the closing brace; a comma stands before all but the first. -/
def compactMembers : Bool → List (String × Json) → List Char
  | _, [] => ['\x7d']
  | first, (key, value) :: rest =>
    (if first then [] else [',']) ++ quoted key ++ ':' :: compactChars value ++ compactMembers false rest

end

/-- A new line, indented by two blanks for each level. -/
def newLine (level : Nat) : List Char :=
  '\n' :: List.replicate (2 * level) ' '

mutual

/-- A value with one item or member a line, indented from the given level on. -/
def prettyChars (level : Nat) : Json → List Char
  | array [] => "[]".toList
  | object [] => "\x7b\x7d".toList
  | array (item :: rest) =>
    '[' :: newLine (level + 1) ++ prettyChars (level + 1) item ++ prettyItems level rest
  | object ((key, value) :: rest) =>
    '\x7b' :: newLine (level + 1) ++ quoted key ++ ':' :: ' ' :: prettyChars (level + 1) value ++
      prettyMembers level rest
  | null => compactChars null
  | bool value => compactChars (bool value)
  | integer value => compactChars (integer value)
  | decimal lexeme => compactChars (decimal lexeme)
  | text value => compactChars (text value)
  | unreadable => compactChars unreadable

/-- The items behind the first, each on a line of its own, and the closing bracket. -/
def prettyItems (level : Nat) : List Json → List Char
  | [] => newLine level ++ [']']
  | item :: rest => ',' :: newLine (level + 1) ++ prettyChars (level + 1) item ++ prettyItems level rest

/-- The members behind the first, each on a line of its own, and the closing brace. -/
def prettyMembers (level : Nat) : List (String × Json) → List Char
  | [] => newLine level ++ ['\x7d']
  | (key, value) :: rest =>
    ',' :: newLine (level + 1) ++ quoted key ++ ':' :: ' ' :: prettyChars (level + 1) value ++
      prettyMembers level rest

end

/-- A value on one line. -/
def compact (value : Json) : String :=
  String.ofList value.compactChars

/-- A value with one item a line. -/
def pretty (value : Json) : String :=
  String.ofList (value.prettyChars 0)

end Dashboard.Json
