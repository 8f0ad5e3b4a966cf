import Dashboard.Content.Basic
import Dashboard.Number.Reader
import Dashboard.Number.Shortest

/-! Checks of the shape of a content. -/

namespace Dashboard.Sample

open Calendar (Date)

/-- What a check finds wrong. -/
inductive Fault where
  | notADay (key : String)
  | notFollowing (date before : Date)
  | notANumber (text : String)
  | notAHundred (a b : String) (sum : Binary64)
  | missingGroup (key : String)
  | wrongLength (key : String) (expected found : Nat)
deriving DecidableEq

/-- The text shown for a fault. -/
def Fault.message : Fault → String
  | notADay key => "Group key '" ++ key ++ "' is not a day"
  | notFollowing date before => "Expected " ++ date.dayLabel ++ " to follow " ++ before.dayLabel
  | notANumber text => "'" ++ text ++ "' is not a number"
  | notAHundred a b sum => "Expected " ++ a ++ " + " ++ b ++ " to be 100, got " ++ sum.shortestText
  | missingGroup key => "Missing group '" ++ key ++ "'"
  | wrongLength key expected found =>
    "Expected " ++ Decimal.ofNat expected ++ " objects under '" ++ key ++ "', got " ++ Decimal.ofNat found

/-- Checks that each date is the day after the one before it. -/
def checkFollowing : List Date → Except Fault Unit
  | before :: date :: rest =>
    if before.next? = some date then checkFollowing (date :: rest) else .error (.notFollowing date before)
  | _ => .ok ()

/-- Checks that the group keys are days without a gap. -/
def checkContiguousDays (content : Content) : Except Fault Unit := do
  let dates ← content.keys.mapM fun key =>
    match Date.ofDayLabel? key with
    | some date => .ok date
    | none => .error (.notADay key)
  checkFollowing dates

/-- Reads a number that must be one. -/
def readNumber (text : String) : Except Fault Binary64 :=
  match Binary64.read? text with
  | some number => .ok number
  | none => .error (.notANumber text)

/-- Whether a difference is as good as none. -/
def isTiny : Binary64 → Bool
  | .finite _ magnitude => magnitude < Rounding.nearest (1 / 1000000000)
  | _ => false

/-- Checks that two numbers add up to a hundred. -/
def checkSumsToHundred (a b : String) : Except Fault Unit := do
  -- Doubles seldom hold decimals exactly, so the sum may miss a hundred by a little.
  let sum := (← readNumber a) + (← readNumber b)
  if isTiny (sum - .ofInt 100) then pure () else throw (.notAHundred a b sum)

/-- Checks the number of points under a group key. -/
def checkLength (content : Content) (key : String) (expected : Nat) : Except Fault Unit :=
  match content.get? key with
  | none => .error (.missingGroup key)
  | some series => if series.length = expected then .ok () else .error (.wrongLength key expected series.length)

end Dashboard.Sample
