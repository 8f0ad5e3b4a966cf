import Dashboard.Record.Json
import Dashboard.Request.Sort

/-! Requests for the content of a widget. -/

namespace Dashboard

/-- A request: the widget, the records it is built from, and what the caller wants to see of them. -/
structure Request where
  widget : String
  records : List Record := []
  /-- The greatest number of records to consider. -/
  quantity : Option UInt64 := none
  /-- The counters that the caller wants, each in the caller's spelling. -/
  contentFields : List String := []
  metadataFields : List String := []
  /-- The order in which the records were fetched. -/
  sort : SortOrder := {}
  options : Table (List String) := .empty
  /-- The launch that rankings are labelled with. -/
  referenceLaunch : Option LaunchRef := none
deriving DecidableEq

namespace Request

/-- Adds a value behind the other values of an option. -/
def withOption (r : Request) (key value : String) : Request :=
  { r with options := r.options.insert key ((r.options.get? key).getD [] ++ [value]) }

/-- The first value of an option. -/
def option? (r : Request) (key : String) : Option String :=
  (r.options.get? key).bind List.head?

/-- The first records, as many as the quantity allows. -/
def limitedRecords (r : Request) : List Record :=
  match r.quantity with
  | some quantity => r.records.take quantity.toNat
  | none => r.records

/-- The names of a request's fields, in order. -/
def fieldNames : List String :=
  ["widgetType", "records", "quantity", "contentFields", "metadataFields", "sort", "options", "referenceLaunch"]

/-- A request as an object of all its fields. -/
def toJson (r : Request) : Json :=
  .object [
    ("widgetType", .text r.widget),
    ("records", .array (r.records.map Record.toJson)),
    ("quantity", .ofOption .ofUnsigned r.quantity),
    ("contentFields", .texts r.contentFields),
    ("metadataFields", .texts r.metadataFields),
    ("sort", r.sort.toJson),
    ("options", .ofTable .texts r.options),
    ("referenceLaunch", .ofOption LaunchRef.toJson r.referenceLaunch)]

/-- Reads a request, which must name a widget. -/
def ofJson? (value : Json) : Option Request := do
  let fields ← value.fields? fieldNames
  pure {
    widget := ← fields.required "widgetType" Json.text?
    records := ← fields.withDefault "records" (Json.list? Record.ofJson?) []
    quantity := ← fields.optional "quantity" Json.unsigned?
    contentFields := ← fields.withDefault "contentFields" (Json.list? Json.text?) []
    metadataFields := ← fields.withDefault "metadataFields" (Json.list? Json.text?) []
    sort := ← fields.withDefault "sort" SortOrder.ofJson? {}
    options := ← fields.withDefault "options" (Json.table? (Json.list? Json.text?)) .empty
    referenceLaunch := ← fields.optional "referenceLaunch" LaunchRef.ofJson? }

end Request
end Dashboard
