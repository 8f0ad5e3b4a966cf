import Dashboard.Json.Decode
import Dashboard.Request.Sort
import Dashboard.Statistics.Period

/-! The settings of the engine. -/

namespace Dashboard

/-- The settings of the engine, with the values they have where nothing else is said. -/
structure Config where
  /-- The number of items that rankings keep. -/
  historyTopN : UInt64 := 20
  /-- The number of newest launches that are compared with each other. -/
  comparisonQuantity : UInt64 := 2
  /-- The field whose ascending order is the order of presentation. -/
  sortField : String := startTimeField
  /-- The timeline of trends that name none themselves. -/
  defaultTimeline : Option String := none
deriving DecidableEq

namespace Config

/-- Why a default timeline cannot be used, if it cannot. -/
def timelineProblem? (timeline : String) : Option String :=
  match Period.parse timeline with
  | .ok (.span _) => none
  | .ok .name => some "must be day, week or month"
  | .error failure => some failure.message

/-- The first setting that cannot be used, with the reason. -/
def problem? (c : Config) : Option (String × String) :=
  if c.historyTopN = 0 then some ("historyTopN", "must be greater than 0")
  else if c.comparisonQuantity = 0 then some ("comparisonQuantity", "must be greater than 0")
  else if Text.trim c.sortField = "" then some ("sortField", "must not be empty")
  else (c.defaultTimeline.bind timelineProblem?).map ("defaultTimeline", ·)

/-- Accepts settings that can all be used. -/
def validate (c : Config) : Except Failure Config :=
  match c.problem? with
  | some (field, reason) => .error (.invalidSetting field reason)
  | none => .ok c

/-- Settings as an object. -/
def toJson (c : Config) : Json :=
  .object [
    ("historyTopN", .natural c.historyTopN.toNat),
    ("comparisonQuantity", .natural c.comparisonQuantity.toNat),
    ("sortField", .text c.sortField),
    ("defaultTimeline", .ofOption .text c.defaultTimeline)]

/-- Reads settings, each of which may be absent; only the default timeline may be null. -/
def ofJson? (value : Json) : Option Config := do
  let absent : Config := {}
  let fields ← value.fields? ["historyTopN", "comparisonQuantity", "sortField", "defaultTimeline"]
  pure {
    historyTopN := ← fields.withDefault "historyTopN" Json.unsigned? absent.historyTopN
    comparisonQuantity := ← fields.withDefault "comparisonQuantity" Json.unsigned? absent.comparisonQuantity
    sortField := ← fields.withDefault "sortField" Json.text? absent.sortField
    defaultTimeline := ← fields.optional "defaultTimeline" Json.text? }

end Config
end Dashboard
