import Dashboard.Content.Chart
import Dashboard.Request.Sort

/-! Changes of a total from point to point of a series. -/

namespace Dashboard.Delta

/-- The name under which a point carries its change. -/
def key : String := "delta"

/-- Each total less the one behind it, found from the front on; the last one has no change. -/
def forward (totals : List Int) : List Int :=
  List.zipWith (· - ·) totals totals.tail ++ (if totals = [] then [] else [0])

/-- One step of the scan from the back: the changes so far, and the total they start with. -/
def backwardStep (total : Int) (state : List Int × Option Int) : List Int × Option Int :=
  ((match state.2 with
    | some next => total - next
    | none => 0) :: state.1, some total)

/-- Each total less the one behind it, found from the back on; the last one has no change. -/
def backward (totals : List Int) : List Int :=
  (totals.foldr backwardStep ([], none)).1

/-- The changes of a series in the order in which it was fetched. -/
def deltas (totals : List Int) : SortDirection → List Int
  | .ascending => backward totals
  | .descending => forward totals

/-- The changes along a timeline: for a descending request each point is compared with the one before it. -/
def timelineDeltas (totals : List Int) : SortDirection → List Int
  -- A timeline runs from old to new, whichever way its launches were fetched.
  | .ascending => deltas totals .ascending
  | .descending =>
    (if totals = [] then [] else [0]) ++ List.zipWith (fun before total => total - before) totals totals.tail

/-- Writes each change into its point. -/
def write (series : List Chart) (changes : List Int) : List Chart :=
  List.zipWith (fun point change => point.setInt key change) series changes

/-- Notes the changes of a total in a series in the order in which it was fetched. -/
def annotate (series : List Chart) (totalKey : String) (direction : SortDirection) : List Chart :=
  write series (deltas (series.map (·.intValue totalKey)) direction)

/-- Notes the changes of a total along a timeline. -/
def annotateTimeline (series : List Chart) (totalKey : String) (direction : SortDirection) : List Chart :=
  write series (timelineDeltas (series.map (·.intValue totalKey)) direction)

end Dashboard.Delta
