import Dashboard.Grouped
import Dashboard.Statistics.Bucket

/-! Groups of records by calendar interval, by name and by attribute; a group keeps its records. -/

namespace Dashboard

open Calendar (Span)

/-- Records under group keys. -/
abbrev RecordGroups := Grouped Record

namespace RecordGroups

/-- Records by their names, in the order of first mention. -/
def byName (records : List Record) : RecordGroups :=
  Grouped.groupBy (fun r => some r.name) records

/-- Records by the values of an attribute, in the order of first mention; records without it are left out. -/
def byAttribute (records : List Record) (key : String) : RecordGroups :=
  Grouped.groupBy (·.attribute? key) records

/-- Records by calendar interval, from the earliest to the latest and with empty groups between them. -/
def byInterval (records : List Record) (span : Span) : Except Failure RecordGroups :=
  match dateRange? records with
  | none => .ok .empty
  | some (earliest, latest) =>
    match span.intervals earliest latest with
    | .error missing => .error (.cutWeek missing)
    | .ok labels =>
      -- The empty groups come first, and each record goes into the one that has the label of its date.
      let groups := Indexed.ofKeys labels fun label => (label, [])
      .ok ⟨(records.foldl (fun groups r =>
        groups.change (span.intervalLabel r.date) fun (label, group) => (label, group ++ [r])) groups).items⟩

/-- Records by a period: by the calendar's intervals, or by name. -/
def byPeriod (records : List Record) : Period → Except Failure RecordGroups
  | .span span => byInterval records span
  | .name => .ok (byName records)

end RecordGroups
end Dashboard
