import Dashboard.Content.Chart

/-! How long test items took, and their ranking by it. -/

namespace Dashboard

/-- A finished test item and the milliseconds it took. -/
structure TimedItem where
  record : Record
  duration : Nat
deriving DecidableEq

namespace TimedItem

/-- Whether an item has one of the statuses asked for; where none is asked for, every item will do. -/
def hasStatus (statuses : List String) (r : Record) : Bool :=
  statuses.isEmpty || r.status.any fun status => statuses.any (Text.sameUpToCase · status)

/-- An item as a point. -/
def toChart (item : TimedItem) : Chart :=
  let r := item.record
  let point := { Chart.ofRecord r with number := none }.set "duration" (Decimal.ofNat item.duration)
  match r.status with
  | some status => point.set "status" status
  | none => point

/-- An item ranks before a shorter one, and among equals by its name. -/
def ranksBefore (a b : TimedItem) : Bool :=
  b.duration < a.duration || (a.duration = b.duration && a.record.name ≤ b.record.name)

/-- The finished steps of the right status, longest first, up to a limit. -/
def rank (records : List Record) (statuses : List String) (includeMethods : Bool) (limit : Nat) : List TimedItem :=
  let steps := records.filter fun r => r.isStep includeMethods && hasStatus statuses r
  let items := steps.filterMap fun r => r.duration?.map fun duration => { record := r, duration }
  (items.mergeSort ranksBefore).take limit

end TimedItem
end Dashboard
