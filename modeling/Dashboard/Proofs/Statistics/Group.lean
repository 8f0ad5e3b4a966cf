import Dashboard.Proofs.Calendar.Cut
import Dashboard.Proofs.Grouped
import Dashboard.Proofs.Statistics.Bucket
import Dashboard.Statistics.Group

/-! Groups of records by calendar interval and by attribute: which records stand under which label or value, and that
none of them is lost. -/

namespace Dashboard.RecordGroups

open Calendar (Date Span Stride firstYear lastYear)

/-- Records between two dates are put under the labels of the intervals between them. -/
theorem byInterval_eq_ok {records : List Record} {span : Span} {earliest latest : Date} {labels : List String}
    (range : dateRange? records = some (earliest, latest)) (labelled : span.intervals earliest latest = .ok labels) :
    byInterval records span =
      .ok ⟨labels.map fun label => (label, records.filter (span.intervalLabel ·.date = label))⟩ := by
  -- The groups start empty, one for each label, and each record goes to the group of its own label.
  unfold byInterval
  simp only [range, labelled, Indexed.foldl_change_ofKeys (Date.nodup_intervals labelled) (span.intervalLabel ·.date)
    (fun (group : String × List Record) r => (group.1, group.2 ++ [r]))]
  -- Records are put behind each other in the group of their label.
  have gathered (label : String) (others : List Record) (group : List Record) :
      others.foldl (fun (group : String × List Record) r => (group.1, group.2 ++ [r])) (label, group) =
        (label, group ++ others) := by
    induction others generalizing group with
    | nil => simp
    | cons r rest ih => rw [List.foldl_cons, ih, List.append_assoc, List.singleton_append]
  simp only [Indexed.ofKeys, gathered, List.nil_append]

/-- By day and by month records are grouped as they are along a timeline. -/
theorem byInterval_eq_of_ne_week {records : List Record} (nonempty : records ≠ []) {span : Span}
    (unweekly : span ≠ .week) : byInterval records span = .ok ⟨((Period.span span).keys records).map fun key =>
      (key, records.filter ((Period.span span).keyOf · = key))⟩ := by
  obtain ⟨earliest, latest, range, -, -, -⟩ := exists_dateRange? nonempty
  rw [Period.keys_span span range]
  -- The labels of intervals are those of points, and so are the steps between them.
  cases span with
  | day => exact byInterval_eq_ok range rfl
  | week => exact absurd rfl unweekly
  | month => exact byInterval_eq_ok range rfl

/-- The number of records that are dated inside an interval. -/
def dated (records : List Record) (interval : Date × Date) : Nat :=
  records.countP fun r => interval.1 ≤ r.date ∧ r.date ≤ interval.2

/-- The records dated inside an interval are those that have its label. -/
theorem dated_eq {span : Span} {interval : Date × Date} (isInterval : span.IsInterval interval.1 interval.2)
    (records : List Record) : dated records interval =
      (records.filter (span.intervalLabel ·.date = span.intervalLabel interval.1)).length := by
  -- Inside an interval dates have its label, and outside they have another one.
  unfold dated
  rw [List.countP_eq_length_filter]
  simp only [Span.intervalLabel_eq_iff_between isInterval]

/-- Intervals hold records when they tile the calendar from the earliest to the latest of their dates, so that each
record is dated inside exactly one of them. -/
structure Held (span : Span) (records : List Record) (intervals : List (Date × Date)) : Prop where
  tiles : ∃ earliest ∈ records, ∃ latest ∈ records,
    (∀ r ∈ records, earliest.date ≤ r.date ∧ r.date ≤ latest.date) ∧ span.Tiles earliest.date latest.date intervals
  complete : (intervals.map (dated records)).sum = records.length

/-- Records from the calendar's second to its last year but one are grouped by intervals that hold them. -/
theorem exists_byInterval {records : List Record} (nonempty : records ≠ []) (span : Span)
    (inside : ∀ r ∈ records, firstYear < r.date.year ∧ r.date.year < lastYear) :
    ∃ groups intervals, byInterval records span = .ok groups ∧ Held span records intervals ∧
      (intervals.map (span.intervalLabel ·.1)).Nodup ∧ (∀ interval ∈ intervals, interval.1.year < lastYear) ∧
      groups.entries = intervals.map fun interval => (span.intervalLabel interval.1,
        records.filter (span.intervalLabel ·.date = span.intervalLabel interval.1)) := by
  -- The interval of the earliest record is whole, and from it on the calendar is tiled.
  obtain ⟨_, _, range, ⟨earliest, isFirst, rfl⟩, ⟨latest, isLast, rfl⟩, within⟩ := exists_dateRange? nonempty
  obtain ⟨preceded, earliestFollowed⟩ := inside earliest isFirst
  have followed := (inside latest isLast).2
  obtain ⟨first, last, interval, above, below⟩ := span.exists_interval preceded earliestFollowed
  have labelled : span.intervals earliest.date latest.date =
      .ok ((span.intervalsFrom first latest.date).map (span.intervalLabel ·.1)) := by
    unfold Span.intervals
    rw [Span.intervalStart_eq interval above below, Span.map_intervalLabel_intervalsFrom]
    rfl
  have tiles := Span.tiles_intervalsFrom interval followed preceded above below (within earliest isFirst).2
  have distinct := Date.nodup_intervals labelled
  refine ⟨_, span.intervalsFrom first latest.date, byInterval_eq_ok range labelled, ⟨?_, ?_⟩, distinct, ?_, ?_⟩
  · exact ⟨earliest, isFirst, latest, isLast, within, tiles⟩
  · -- Each record has the label of the interval that holds its date, and of no other one.
    have covered : ∀ r ∈ records, span.intervalLabel r.date ∈
        (span.intervalsFrom first latest.date).map (span.intervalLabel ·.1) := by
      intro r member
      obtain ⟨rAbove, rBelow⟩ := within r member
      exact Span.intervalLabel_mem interval followed preceded above rAbove rBelow
    have sizes := sum_map_length_filter distinct (span.intervalLabel ·.date) records covered
    rw [List.map_map] at sizes
    rw [← sizes]
    exact congrArg List.sum (List.map_congr_left fun found member => dated_eq (tiles.each found member) records)
  · intro found member
    obtain ⟨d, met, rfl⟩ := List.mem_map.1 member
    exact Int.lt_of_le_of_lt (Date.year_mono (Stride.le_of_mem_walk met).2) followed
  · rw [List.map_map]
    rfl

/-- The groups of an attribute are those of its distinct values. -/
theorem entries_byAttribute (records : List Record) (key : String) : (byAttribute records key).entries =
    (records.filterMap (·.attribute? key)).eraseDups.map fun value =>
      (value, records.filter (·.attribute? key = some value)) :=
  Grouped.entries_groupBy _ records

/-- Together they have each record that carries the attribute once. -/
theorem flatMap_byAttribute_perm (records : List Record) (key : String) :
    ((byAttribute records key).entries.flatMap (·.2)).Perm (records.filter fun r => (r.attribute? key).isSome) :=
  Grouped.flatMap_groupBy_perm _ records

/-- Where some record carries the attribute there is a group. -/
theorem not_isEmpty_byAttribute {records : List Record} {key : String}
    (carried : ∃ r ∈ records, (r.attribute? key).isSome) : ¬ (byAttribute records key).isEmpty = true := by
  -- A record that carries the attribute is in one of the groups.
  obtain ⟨r, member, tagged⟩ := carried
  have grouped := (flatMap_byAttribute_perm records key).mem_iff.2 (List.mem_filter.2 ⟨member, tagged⟩)
  intro empty
  rw [List.isEmpty_iff.1 empty] at grouped
  cases grouped

end Dashboard.RecordGroups
