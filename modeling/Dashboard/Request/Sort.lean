import Dashboard.Failure
import Dashboard.Json.Decode
import Dashboard.Text.Case

/-! The order in which a batch of records was fetched. -/

namespace Dashboard

/-- The direction of a sort. -/
inductive SortDirection where
  | ascending
  | descending
deriving DecidableEq

namespace SortDirection

/-- The word for a direction. -/
def name : SortDirection → String
  | ascending => "asc"
  | descending => "desc"

/-- The direction that has this word. -/
def ofName? (name : String) : Option SortDirection :=
  if name = "asc" then some ascending else if name = "desc" then some descending else none

/-- Reads a direction in any case, short or in full. -/
def parse (text : String) : Except Failure SortDirection :=
  let word := Text.lower text
  if word = "asc" ∨ word = "ascending" then .ok ascending
  else if word = "desc" ∨ word = "descending" then .ok descending
  else .error (.invalidDirection text)

end SortDirection

/-- The field by which launches are in the order of time. -/
def startTimeField : String := "startTime"

/-- The order of a batch: a field and a direction. -/
structure SortOrder where
  field : String := startTimeField
  direction : SortDirection := .descending
deriving DecidableEq

namespace SortOrder

/-- A field name without underscores and without differences of case. -/
def normalField (field : String) : List Char :=
  (field.toList.filter (· != '_')).flatMap Text.lowerChar

/-- Whether the order goes by a field, in whatever spelling. -/
def isBy (order : SortOrder) (field : String) : Bool :=
  normalField order.field == normalField field

/-- Whether the order goes up by a field. -/
def isAscendingBy (order : SortOrder) (field : String) : Bool :=
  order.direction = .ascending && order.isBy field

/-- An order as an object. -/
def toJson (order : SortOrder) : Json :=
  .object [("field", .text order.field), ("direction", .text order.direction.name)]

/-- Reads an order, which must have a field; without a direction it goes down. -/
def ofJson? (value : Json) : Option SortOrder := do
  let fields ← value.fields? ["field", "direction"]
  pure {
    field := ← fields.required "field" Json.text?
    direction := ← fields.withDefault "direction" (Json.word? SortDirection.ofName?) .descending }

end SortOrder
end Dashboard
