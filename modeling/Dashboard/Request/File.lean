import Dashboard.File
import Dashboard.Json.Document
import Dashboard.Request.Basic
import Dashboard.Request.Query

/-! Files that hold a request, or only the records for one. -/

namespace Dashboard

/-- What a file holds: records alone, or a request with its records. -/
inductive RequestFile where
  | batch (records : List Record)
  | whole (request : Request)

namespace RequestFile

/-- Reads a value as records when each of its items is one, and else as a request. -/
def ofJson? (value : Json) : Option RequestFile :=
  -- A request may be an array as well, so the records are tried first.
  match value.list? Record.ofJson? with
  | some records => some (.batch records)
  | none => (Request.ofJson? value).map .whole

/-- Reads a file, all of which must be held before it is known what it is. -/
def parse (path : String) (file : File) : Except Failure RequestFile :=
  match file.content? with
  | none => .error (.unreadableFile path)
  | some document =>
    match (Json.read? document).bind ofJson? with
    | some held => .ok held
    | none => .error (.malformedFile path)

/-- All records of a file. -/
def allRecords : RequestFile → List Record
  | batch records => records
  | whole request => request.records

/-- The records of a file that a query asks for. -/
def fetch (path : String) (file : File) (query : Query) : Except Failure (List Record) := do
  pure (query.apply (← parse path file).allRecords)

/-- The request of a file; a file of records makes one for the given widget. -/
def toRequest (path : String) (widget? : Option String) : RequestFile → Except Failure Request
  | whole request => .ok request
  | batch records =>
    match widget? with
    | some widget => .ok { widget, records }
    | none => .error (.missingWidget path)

/-- Loads the request of a file, with its records in the order and the number that it asks for itself. -/
def load (path : String) (file : File) (widget? : Option String) : Except Failure Request := do
  let request ← (← parse path file).toRequest path widget?
  let query : Query := { sort := request.sort, limit := request.quantity }
  pure { request with records := query.apply request.records }

end RequestFile
end Dashboard
