import Dashboard.Content.Chart
import Dashboard.Statistics.Share

/-! How often test items failed, and their ranking by it. -/

namespace Dashboard

open Calendar (Moment)

/-- The statuses that a counter may name for a ranking. -/
def knownStatuses : List String :=
  ["PASSED", "FAILED", "SKIPPED", "INTERRUPTED", "STOPPED", "CANCELLED", "IN_PROGRESS", "INFO", "WARN"]

/-- The status that a counter names by its last segment; without one it is the status of failures. -/
def criterion (field? : Option String) : String :=
  match field?.bind fun field => (Field.segments field.toList).getLast? with
  -- A name that ends in a separator has an empty last segment, which names nothing.
  | some (c :: cs) => Text.upper (String.ofList (c :: cs))
  | _ => failedStatus

/-- The known statuses that some counters name. -/
def criteria (fields : List String) : List String :=
  (fields.map fun field => criterion (some field)).filter knownStatuses.contains

/-- The failures of a test item in brief. -/
structure FailingItem where
  id : String
  name : String
  /-- For each entry of the history, whether it is a failure. -/
  flags : List Bool
  /-- The time of the last failure. -/
  lastFailure : Option Moment
deriving DecidableEq

namespace FailingItem

/-- The failures of an item under a status, unless it has none. -/
def ofRecord? (status : String) (r : Record) : Option FailingItem :=
  let failures := r.history.filter fun entry => Text.sameUpToCase entry.status status
  if failures = [] then none
  else some {
    id := r.id
    name := r.name
    flags := r.history.map fun entry => Text.sameUpToCase entry.status status
    lastFailure := failures.getLast?.map (·.time) }

/-- The length of the history. -/
def total (item : FailingItem) : Nat :=
  item.flags.length

/-- The number of failures. -/
def failures (item : FailingItem) : Nat :=
  item.flags.count true

/-- The failures in percent of the length of the history. -/
def percent (item : FailingItem) : String :=
  (Share.percent item.failures item.total).twoDecimals

/-- An item as a point. -/
def toChart (item : FailingItem) : Chart :=
  let point := { name := some item.name, id := some item.id : Chart }.setAll [
    ("total", Decimal.ofNat item.total),
    ("failedCount", Decimal.ofNat item.failures),
    ("percentage", item.percent),
    ("isFailed", ", ".intercalate (item.flags.map fun failed => if failed then "true" else "false"))]
  match item.lastFailure with
  | some time => point.setInt "lastTime" time.millis
  | none => point

/-- An item ranks before another with fewer failures, and among equals by its name. -/
def ranksBefore (a b : FailingItem) : Bool :=
  b.failures < a.failures || (a.failures = b.failures && a.name ≤ b.name)

/-- The items with failures, most failures first, up to a limit. -/
def rank (records : List Record) (status : String) (limit : Nat) : List FailingItem :=
  ((records.filterMap (ofRecord? status)).mergeSort ranksBefore).take limit

end FailingItem
end Dashboard
