import Dashboard.Json.Basic
import Dashboard.Number.Word
import Dashboard.Table

/-! Reading values of the domain out of JSON values: structures, lists, tables, words and texts. -/

namespace Dashboard.Json

/-- The members of a structure by name. -/
abbrev Fields := List (String × Json)

/--
The members of a structure with the given field names.

A structure is an object, in which no field may occur twice, or an array of its fields in order.
Members that name no field are passed over.
-/
def fields? (names : List String) : Json → Option Fields
  | object members =>
    -- A repeated member does no harm where nobody reads it.
    let known := members.filter fun (key, _) => names.contains key
    if (known.map (·.1)).Nodup then some known else none
  | array items => if items.length ≤ names.length then some (names.zip items) else none
  | _ => none

/-- A field that must be there. -/
def Fields.required {α : Type} (fields : Fields) (name : String) (decode : Json → Option α) : Option α :=
  (fields.lookup name).bind decode

/-- A field with a value of its own where it is absent. -/
def Fields.withDefault {α : Type} (fields : Fields) (name : String) (decode : Json → Option α)
    (absent : α) : Option α :=
  match fields.lookup name with
  | some value => decode value
  | none => some absent

/-- A value that may be null. -/
def nullable? {α : Type} (decode : Json → Option α) : Json → Option (Option α)
  | null => some none
  | value => (decode value).map some

/-- A field that may be absent or null. -/
def Fields.optional {α : Type} (fields : Fields) (name : String) (decode : Json → Option α) :
    Option (Option α) :=
  fields.withDefault name (nullable? decode) none

/-- A text. -/
def text? : Json → Option String
  | text value => some value
  | _ => none

/-- A truth value. -/
def bool? : Json → Option Bool
  | bool value => some value
  | _ => none

/-- An integer that fits a signed word. -/
def signed? : Json → Option Int64
  | integer value => Word.signed? value
  | _ => none

/-- An integer that fits an unsigned word. -/
def unsigned? : Json → Option UInt64
  | integer value => Word.unsigned? value
  | _ => none

/-- An array of values of one kind. -/
def list? {α : Type} (decode : Json → Option α) : Json → Option (List α)
  | array items => items.mapM decode
  | _ => none

/-- An object of values of one kind; the last value under a key counts. -/
def table? {α : Type} (decode : Json → Option α) : Json → Option (Table α)
  | object members => do
    let entries ← members.mapM fun member => (decode member.2).map (member.1, ·)
    pure (Table.ofList entries)
  | _ => none

/-- One of a list of words, given as a text or as an object with the word as its only key and null under it. -/
def word? {α : Type} (ofWord? : String → Option α) : Json → Option α
  | text word => ofWord? word
  | object [(word, null)] => ofWord? word
  | _ => none

/-- An optional value, null when there is none. -/
def ofOption {α : Type} (encode : α → Json) : Option α → Json
  | some value => encode value
  | none => null

/-- A list of texts. -/
def texts (items : List String) : Json :=
  array (items.map text)

/-- A natural number. -/
def natural (n : Nat) : Json :=
  integer n

/-- An object of the entries of a table. -/
def ofTable {α : Type} (encode : α → Json) (t : Table α) : Json :=
  object (t.entries.map fun (key, value) => (key, encode value))

end Dashboard.Json
