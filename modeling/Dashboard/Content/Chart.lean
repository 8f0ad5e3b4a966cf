import Dashboard.Record.Json

/-! Chart objects: the points of a widget's series. -/

namespace Dashboard

/-- A point of a chart: whom it describes, as far as that is one record, and its values as texts. -/
structure Chart where
  name : Option String := none
  /-- The start in milliseconds since the start of 1970. -/
  startTime : Option Int64 := none
  number : Option UInt64 := none
  id : Option String := none
  values : Table String := .empty
deriving DecidableEq

namespace Chart

/-- The point that describes a record, without values. -/
def ofRecord (r : Record) : Chart :=
  { name := some r.name, startTime := some (Int64.ofInt r.start.millis), number := r.number, id := some r.id }

/-- The point that describes a launch by its label, without values. -/
def ofLaunch (launch : LaunchRef) : Chart :=
  { name := some launch.name, number := launch.number, id := launch.id }

/-- The point with one more value. -/
def set (c : Chart) (key value : String) : Chart :=
  { c with values := c.values.insert key value }

/-- The point with one more value that is a number. -/
def setInt (c : Chart) (key : String) (value : Int) : Chart :=
  c.set key (Decimal.ofInt value)

/-- The point with several more values. -/
def setAll (c : Chart) (values : List (String × String)) : Chart :=
  values.foldl (fun c (key, value) => c.set key value) c

/-- A value of the point. -/
def value? (c : Chart) (key : String) : Option String :=
  c.values.get? key

/-- A value of the point as a number, zero when there is none. -/
def intValue (c : Chart) (key : String) : Int :=
  match (c.value? key).bind Word.readSigned? with
  | some value => value.toInt
  | none => 0

/-- A point as an object; what it does not know is left out, but its values are always there. -/
def toJson (c : Chart) : Json :=
  let known : List (Option (String × Json)) := [
    c.name.map ("name", .text ·),
    c.startTime.map ("startTime", .ofSigned ·),
    c.number.map ("number", .ofUnsigned ·),
    c.id.map ("id", .text ·),
    some ("values", .ofTable .text c.values)]
  .object (known.flatMap Option.toList)

/-- Reads a point, in which nothing needs to be known. -/
def ofJson? (value : Json) : Option Chart := do
  let fields ← value.fields? ["name", "startTime", "number", "id", "values"]
  pure {
    name := ← fields.optional "name" Json.text?
    startTime := ← fields.optional "startTime" Json.signed?
    number := ← fields.optional "number" Json.unsigned?
    id := ← fields.optional "id" Json.text?
    values := ← fields.withDefault "values" (Json.table? Json.text?) .empty }

end Chart
end Dashboard
