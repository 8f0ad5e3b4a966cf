import Dashboard.Calendar.Timestamp
import Dashboard.Json.Decode
import Dashboard.Record.Basic

/-! Records as JSON values. -/

namespace Dashboard

open Calendar (Moment)

/-- A moment as its timestamp. -/
def Json.ofMoment (m : Moment) : Json :=
  .text m.timestamp

/-- The moment that a timestamp names. -/
def Json.moment? (value : Json) : Option Moment :=
  value.text?.bind Moment.ofTimestamp?

/-- A signed word as an integer. -/
def Json.ofSigned (value : Int64) : Json :=
  .integer value.toInt

/-- An unsigned word as an integer. -/
def Json.ofUnsigned (value : UInt64) : Json :=
  .natural value.toNat

/-- A history entry as an object. -/
def StatusEntry.toJson (entry : StatusEntry) : Json :=
  .object [("status", .text entry.status), ("time", .ofMoment entry.time)]

/-- Reads a history entry, whose two fields must both be there. -/
def StatusEntry.ofJson? (value : Json) : Option StatusEntry := do
  let fields ← value.fields? ["status", "time"]
  pure {
    status := ← fields.required "status" Json.text?
    time := ← fields.required "time" Json.moment? }

/-- An attribute as an object. -/
def Attribute.toJson (tag : Attribute) : Json :=
  .object [("key", .ofOption .text tag.key), ("value", .text tag.value)]

/-- Reads an attribute, which must have a value. -/
def Attribute.ofJson? (value : Json) : Option Attribute := do
  let fields ← value.fields? ["key", "value"]
  pure {
    key := ← fields.optional "key" Json.text?
    value := ← fields.required "value" Json.text? }

/-- The label of a launch as an object. -/
def LaunchRef.toJson (launch : LaunchRef) : Json :=
  .object [
    ("name", .text launch.name),
    ("number", .ofOption .ofUnsigned launch.number),
    ("id", .ofOption .text launch.id)]

/-- Reads the label of a launch, which must have a name. -/
def LaunchRef.ofJson? (value : Json) : Option LaunchRef := do
  let fields ← value.fields? ["name", "number", "id"]
  pure {
    name := ← fields.required "name" Json.text?
    number := ← fields.optional "number" Json.unsigned?
    id := ← fields.optional "id" Json.text? }

namespace Record

/-- The names of a record's fields, in order. -/
def fieldNames : List String :=
  ["id", "name", "number", "startTime", "endTime", "counters", "status", "statusHistory", "attributes", "type"]

/-- A record as an object of all its fields. -/
def toJson (r : Record) : Json :=
  .object [
    ("id", .text r.id),
    ("name", .text r.name),
    ("number", .ofOption .ofUnsigned r.number),
    ("startTime", .ofMoment r.start),
    ("endTime", .ofOption .ofMoment r.finish),
    ("counters", .ofTable .ofSigned r.counters),
    ("status", .ofOption .text r.status),
    ("statusHistory", .array (r.history.map StatusEntry.toJson)),
    ("attributes", .array (r.attributes.map Attribute.toJson)),
    ("type", .ofOption .text r.itemType)]

/-- Reads a record, which must have an id, a name and a start. -/
def ofJson? (value : Json) : Option Record := do
  let fields ← value.fields? fieldNames
  pure {
    id := ← fields.required "id" Json.text?
    name := ← fields.required "name" Json.text?
    number := ← fields.optional "number" Json.unsigned?
    start := ← fields.required "startTime" Json.moment?
    finish := ← fields.optional "endTime" Json.moment?
    counters := ← fields.withDefault "counters" (Json.table? Json.signed?) .empty
    status := ← fields.optional "status" Json.text?
    history := ← fields.withDefault "statusHistory" (Json.list? StatusEntry.ofJson?) []
    attributes := ← fields.withDefault "attributes" (Json.list? Attribute.ofJson?) []
    itemType := ← fields.optional "type" Json.text? }

end Record
end Dashboard
