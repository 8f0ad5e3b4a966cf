import Dashboard.Failure
import Dashboard.Request.Query

/-! A source of records in memory that counts how often it is asked. -/

namespace Dashboard.Sample

/-- Records in memory, or the failure that every fetch ends in. -/
structure Source where
  records : List Record := []
  failure : Option String := none
  /-- The number of fetches so far. -/
  fetches : Nat := 0
deriving DecidableEq

/-- Fetches the records that a query asks for, and counts the fetch. -/
def Source.fetch (source : Source) (query : Query) : Except Failure (List Record) × Source :=
  let answer := match source.failure with
    | some message => .error (.other message)
    | none => .ok (query.apply source.records)
  (answer, { source with fetches := source.fetches + 1 })

end Dashboard.Sample
