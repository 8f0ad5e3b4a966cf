import Dashboard.Content.Chart
import Dashboard.Grouped

/-! The content of a widget: series of chart points under group keys, in the order of presentation. -/

namespace Dashboard

/-- Series of points under keys, such as dates or names. -/
abbrev Content := Grouped Chart

namespace Content

/-- The key of a widget's only series. -/
def resultKey : String := "result"

/-- The content with a single series. -/
def result (series : List Chart) : Content :=
  Grouped.empty.insert resultKey series

/-- The content with one point under each of a list of keys. -/
def ofPoints (points : List (String × Chart)) : Content :=
  points.foldl (fun content (key, point) => content.push key point) .empty

/-- A content as an object of arrays. -/
def toJson (content : Content) : Json :=
  .object (content.entries.map fun (key, series) => (key, .array (series.map Chart.toJson)))

end Content
end Dashboard
