import Dashboard.Request.Sort
import Dashboard.Record.Basic

/-! Picking records out of a batch: by name, in order of time, and up to a limit. -/

namespace Dashboard

/-- Which records to fetch, and in what order. -/
structure Query where
  name : Option String := none
  sort : SortOrder := {}
  limit : Option UInt64 := none
deriving DecidableEq

namespace Record

/-- Records by the time of their start, oldest first; records of one moment stay in their order. -/
def oldestFirst (records : List Record) : List Record :=
  records.mergeSort fun a b => a.start ≤ b.start

/-- Records by the time of their start, newest first; records of one moment stay in their order. -/
def newestFirst (records : List Record) : List Record :=
  records.mergeSort fun a b => b.start ≤ a.start

/-- Records in an order by time; an order by any other field leaves them as they are stored. -/
def sortBy (order : SortOrder) (records : List Record) : List Record :=
  if order.isBy startTimeField then
    match order.direction with
    | .ascending => oldestFirst records
    | .descending => newestFirst records
  else records

end Record

namespace Query

/-- Whether a record has the name that is asked for. -/
def admits (q : Query) (r : Record) : Bool :=
  match q.name with
  | some name => r.name == name
  | none => true

/-- The records of a batch that a query asks for. -/
def apply (q : Query) (records : List Record) : List Record :=
  let batch := Record.sortBy q.sort (records.filter q.admits)
  match q.limit with
  | some limit => batch.take limit.toNat
  | none => batch

end Query
end Dashboard
