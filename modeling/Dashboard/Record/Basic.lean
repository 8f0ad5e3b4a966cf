import Dashboard.Calendar.Moment
import Dashboard.Record.Field
import Dashboard.Table
import Dashboard.Text.Case

/-! Records of test runs and test items, and what is read off a single record. -/

namespace Dashboard

open Calendar (Moment)

/-- One entry in the history of a test item: the status a run reported, and when that run started. -/
structure StatusEntry where
  status : String
  time : Moment
deriving DecidableEq

/-- An attribute of a record; a plain tag has no key. -/
structure Attribute where
  key : Option String
  value : String
deriving DecidableEq

/-- A snapshot of a launch or of a test item. -/
structure Record where
  id : String
  name : String
  /-- The number of the run, which launches have. -/
  number : Option UInt64 := none
  start : Moment
  /-- The end, which a run in progress has not reached. -/
  finish : Option Moment := none
  counters : Table Int64 := .empty
  /-- The final status. -/
  status : Option String := none
  /-- The statuses of earlier runs, oldest first. -/
  history : List StatusEntry := []
  attributes : List Attribute := []
  /-- The type of a test item, which launches lack. -/
  itemType : Option String := none
deriving DecidableEq

/-- A launch that a ranking is labelled with. -/
structure LaunchRef where
  name : String
  number : Option UInt64 := none
  id : Option String := none
deriving DecidableEq

/-- The status of a failed run or item. -/
def failedStatus : String := "FAILED"

/-- Whether an entry records a failure. -/
def StatusEntry.isFailed (entry : StatusEntry) : Bool :=
  Text.sameUpToCase entry.status failedStatus

/-- The label of a launch that is known only by its name. -/
def LaunchRef.named (name : String) : LaunchRef :=
  { name }

namespace Record

/-- The label of a recorded launch. -/
def launchRef (r : Record) : LaunchRef :=
  { name := r.name, number := r.number, id := some r.id }

/-- Stores a counter under the library's spelling of its name. -/
def withCounter (r : Record) (field : String) (value : Int64) : Record :=
  { r with counters := r.counters.insert (Field.internal field) value }

/-- Adds an entry at the end of the history. -/
def withHistoryEntry (r : Record) (status : String) (time : Moment) : Record :=
  { r with history := r.history ++ [{ status, time }] }

/-- Adds an attribute behind the others. -/
def withAttribute (r : Record) (key : Option String) (value : String) : Record :=
  { r with attributes := r.attributes ++ [{ key, value }] }

/-- Whether a record is a test step, or a method around one where those count too; a record without a type is a step. -/
def isStep (r : Record) (includeMethods : Bool) : Bool :=
  match r.itemType with
  | none => true
  | some itemType =>
    Text.sameUpToCase itemType "STEP" ||
      includeMethods && ["BEFORE_METHOD", "AFTER_METHOD"].any (Text.sameUpToCase itemType)

/-- The milliseconds from start to end of a run that has ended. -/
def duration? (r : Record) : Option Nat :=
  r.finish.map r.start.millisUntil

/-- The value of the first attribute with a key. -/
def attribute? (r : Record) (key : String) : Option String :=
  (r.attributes.find? (·.key == some key)).map (·.value)

end Record
end Dashboard
