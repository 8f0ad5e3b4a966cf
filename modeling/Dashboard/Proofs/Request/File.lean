import Dashboard.Proofs.Record.Json
import Dashboard.Proofs.Request.Query

/-! Files of requests and files of records are loaded as what was written into them. -/

namespace Dashboard

open Json (Fields Plain plain_map plain_ofOption plain_ofTable plain_ofUnsigned plain_texts)

/-- A direction is read back from its name. -/
theorem SortDirection.ofName?_name (direction : SortDirection) : ofName? direction.name = some direction := by
  cases direction <;> rfl

/-- An order is read back from its object. -/
theorem SortOrder.ofJson?_toJson (order : SortOrder) : ofJson? order.toJson = some order := by
  unfold ofJson? toJson
  refine (Json.bind_fields?_object (by rfl) (by decide) _).trans ?_
  simp [Fields.required, Fields.withDefault, List.lookup, Json.text?, Json.word?, SortDirection.ofName?_name]

/-- An order is a plain value of one level. -/
theorem SortOrder.plain_toJson {levels : Nat} (order : SortOrder) : Plain (levels + 1) order.toJson :=
  .object (by simp [Plain.text])

namespace Request

/-- A request is read back from its object. -/
theorem ofJson?_toJson (r : Request) : ofJson? r.toJson = some r := by
  -- The reference to a launch is an object, which is never taken for none.
  have launch := Json.nullable?_ofOption LaunchRef.ofJson?_toJson (by simp [LaunchRef.toJson]) r.referenceLaunch
  unfold ofJson? toJson
  refine (Json.bind_fields?_object (by rfl) (by decide) _).trans ?_
  simp [Fields.required, Fields.optional, Fields.withDefault, List.lookup, Json.text?, Json.list?_texts,
    Json.nullable?_ofOption_unsigned, Json.list?_map Record.ofJson?_toJson, SortOrder.ofJson?_toJson,
    Json.table?_ofTable Json.list?_texts, launch]

/-- A request is a plain value of five levels, two above those of its records. -/
theorem plain_toJson {levels : Nat} (r : Request) : Plain (levels + 5) r.toJson :=
  .object (by simp [Plain.text, plain_ofUnsigned, plain_ofOption, plain_ofTable, plain_map, plain_texts,
    SortOrder.plain_toJson, Record.plain_toJson, LaunchRef.plain_toJson])

/-- A request that says nothing but its widget and its records. -/
theorem ofJson?_widget (widget : String) (records : List Record) :
    ofJson? (.object [("widgetType", .text widget), ("records", .array (records.map Record.toJson))]) =
      some { widget, records } := by
  -- Neither key comes twice, and all other fields have their defaults.
  unfold ofJson?
  refine (@Json.bind_fields?_of_known _ _ ["widgetType", "records"] _ rfl (by decide) (by decide) _).trans ?_
  simp [Fields.required, Fields.optional, Fields.withDefault, List.lookup, Json.text?,
    Json.list?_map Record.ofJson?_toJson]

end Request

namespace RequestFile

/-- What was written is what a file holds. -/
theorem parse_write {value : Json} (plain : Plain Json.maxNesting value) {held : RequestFile}
    (decoded : ofJson? value = some held) (layout : Json.Layout) (path : String) :
    parse path (.text (layout.write value)) = .ok held := by
  simp only [parse, File.content?, layout.read?_write plain, Option.bind_some, decoded]

/-- An array of records is held as these records. -/
theorem ofJson?_records (records : List Record) :
    ofJson? (.array (records.map Record.toJson)) = some (.batch records) := by
  simp [ofJson?, Json.list?_map Record.ofJson?_toJson]

/-- An object is no array of records, so that it is held as the request that it is. -/
theorem ofJson?_object {members : List (String × Json)} {r : Request}
    (decoded : Request.ofJson? (.object members) = some r) : ofJson? (.object members) = some (.whole r) := by
  simp [ofJson?, Json.list?, decoded]

/-- Request files round-trip. A request that is written into a file is loaded with all its fields, and with its records
in the order of time or as they are stored, cut to its quantity; records that are written alone are loaded with a widget
as the request that names this widget and these records. -/
theorem load_write (r : Request) (path : String) (layout otherLayout : Json.Layout) :
    (∀ widget?, ∃ batch, Record.Fetched r.sort r.records batch ∧
      load path (.text (layout.write r.toJson)) widget? = .ok { r with records := Record.limit r.quantity batch }) ∧
    ∀ widget widget?, ∃ loaded,
      load path (.text (layout.write (.array (r.records.map Record.toJson)))) (some widget) = .ok loaded ∧
      load path (.text (otherLayout.write (.object [("widgetType", .text widget),
        ("records", .array (r.records.map Record.toJson))]))) widget? = .ok loaded := by
  constructor
  · intro widget?
    -- A request names its widget, so that the one on the command line does not matter.
    have readable := parse_write r.plain_toJson (ofJson?_object r.ofJson?_toJson) layout path
    exact ⟨_, Record.fetched_sortBy r.sort r.records, load_eq_ok readable rfl⟩
  · intro widget widget?
    have plainRecords {levels : Nat} : Plain (levels + 4) (.array (r.records.map Record.toJson)) :=
      plain_map Record.plain_toJson r.records
    have plain : Plain Json.maxNesting
        (.object [("widgetType", .text widget), ("records", .array (r.records.map Record.toJson))]) :=
      .object (by simp [Plain.text, plainRecords])
    -- Both files make the same request before its records are put in order.
    have batch := parse_write plainRecords (ofJson?_records r.records) layout path
    have whole := parse_write plain (ofJson?_object (Request.ofJson?_widget widget r.records)) otherLayout path
    exact ⟨_, load_eq_ok batch rfl, load_eq_ok whole rfl⟩

end RequestFile
end Dashboard
