import Dashboard.Content.Basic
import Dashboard.Failure
import Dashboard.Json.Writer

/-! Reports of a widget's content: as JSON for dashboards, and as Markdown tables for people. -/

namespace Dashboard

open Calendar (Moment)

/-- The form of a report. -/
inductive ReportFormat where
  | json
  | markdown
deriving DecidableEq

namespace ReportFormat

/-- The word for a format. -/
def name : ReportFormat → String
  | json => "json"
  | markdown => "markdown"

/-- The ending of the names of files in a format. -/
def extension : ReportFormat → String
  | json => "json"
  | markdown => "md"

/-- Reads a format in any case. -/
def parse (text : String) : Except Failure ReportFormat :=
  let word := Text.lower text
  if word = "json" then .ok json
  else if word = "markdown" ∨ word = "md" then .ok markdown
  else .error (.invalidFormat text)

end ReportFormat

/-- The names of all values in a series, each once and in ascending order. -/
def valueKeys (series : List Chart) : List String :=
  (Table.ofList (series.flatMap fun c => c.values.keys.map (·, ()))).keys

/-- The start of a point to the minute, empty when it is unknown or outside the calendar. -/
def Chart.startLabel (c : Chart) : String :=
  (((c.startTime.map Int64.toInt).bind Moment.ofMillis?).map Moment.minuteLabel).getD ""

/-- The cells of a point's row, one for each column. -/
def Chart.cells (keys : List String) (c : Chart) : List String :=
  -- What a point does not know leaves its cell empty.
  [c.name.getD "", (c.number.map fun n => Decimal.ofNat n.toNat).getD "", c.startLabel] ++
    keys.map fun key => (c.value? key).getD ""

/-- A row of a table. -/
def tableRow (cells : List String) : String :=
  "| " ++ " | ".intercalate cells ++ " |\n"

/-- The line between the heading of a table and its rows. -/
def tableRule (columns : Nat) : String :=
  "|" ++ String.join (List.replicate columns "---|") ++ "\n"

/-- A series as a table with a row for each point. -/
def seriesTable (series : List Chart) : String :=
  let keys := valueKeys series
  let heading := ["name", "number", "startTime"] ++ keys
  tableRow heading ++ tableRule heading.length ++ String.join (series.map fun c => tableRow (c.cells keys))

/-- The content of a widget, ready to be written down. -/
structure Report where
  widget : String
  content : Content
  generatedAt : Moment
deriving DecidableEq

namespace Report

/-- The content as JSON. -/
def toJsonText (report : Report) : String :=
  report.content.toJson.pretty

/-- The part of a Markdown report about one group. -/
def groupSection (key : String) (series : List Chart) : String :=
  "## " ++ key ++ "\n\n" ++ seriesTable series ++ "\n"

/-- The content as Markdown, one table a group, with the time at the end. -/
def toMarkdown (report : Report) : String :=
  let content := report.content
  "# Widget Report: " ++ report.widget ++ "\n\n" ++
    (if content.isEmpty then "*No content.*\n\n" else "") ++
    String.join (content.entries.map fun (key, series) => groupSection key series) ++
    "---\n\n*Generated at " ++ report.generatedAt.secondLabel ++ "*\n"

/-- The report in a format. -/
def render (report : Report) : ReportFormat → String
  | .json => report.toJsonText
  | .markdown => report.toMarkdown

end Report
end Dashboard
