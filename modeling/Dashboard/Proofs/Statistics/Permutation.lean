import Dashboard.Proofs.Request.Query
import Dashboard.Proofs.Statistics.Group

/-! The same records in another order: sums, buckets and groups stay the same, and so does the order of time. -/

namespace Dashboard

open Calendar (Moment Span)

section

variable {records others : List Record} (perm : others.Perm records)
include perm

/-- The exact sum of a counter does not depend on the order of the records. -/
theorem exactOver_perm (field : String) : exactOver others field = exactOver records field := by
  -- Addition does not depend on the order of what is added.
  unfold exactOver
  exact (perm.map _).sum_eq

/-- Neither does the sum of words. -/
theorem sumOver_perm (field : String) : sumOver others field = sumOver records field := by
  rw [sumOver_eq_wrap, sumOver_eq_wrap, exactOver_perm perm]

/-- The earliest and the latest date do not depend on the order of the records. -/
theorem dateRange?_perm : dateRange? others = dateRange? records := by
  by_cases empty : records = []
  · subst empty
    rw [perm.eq_nil]
  obtain ⟨_, _, range, ⟨first, isFirst, rfl⟩, ⟨last, isLast, rfl⟩, within⟩ := exists_dateRange? empty
  have otherNonempty : others ≠ [] := List.ne_nil_of_mem (perm.mem_iff.2 isFirst)
  obtain ⟨_, _, otherRange, ⟨otherFirst, isOtherFirst, rfl⟩, ⟨otherLast, isOtherLast, rfl⟩, otherWithin⟩ :=
    exists_dateRange? otherNonempty
  -- The ends of each range lie within the other one.
  obtain ⟨firstAbove, -⟩ := otherWithin first (perm.mem_iff.2 isFirst)
  obtain ⟨-, lastBelow⟩ := otherWithin last (perm.mem_iff.2 isLast)
  obtain ⟨firstBelow, -⟩ := within otherFirst (perm.mem_iff.1 isOtherFirst)
  obtain ⟨-, lastAbove⟩ := within otherLast (perm.mem_iff.1 isOtherLast)
  -- Ends that bound each other on both sides are the same.
  rw [range, otherRange, Std.le_antisymm firstAbove firstBelow, Std.le_antisymm lastBelow lastAbove]

/-- The labels of a timeline do not depend on the order of the records. -/
theorem Period.keys_span_perm (span : Span) :
    (Period.span span).keys others = (Period.span span).keys records := by
  -- They depend on the range of dates only.
  unfold keys
  rw [dateRange?_perm perm]

/-- The counters of some records do not depend on their order. -/
theorem fieldsIn_perm : fieldsIn others = fieldsIn records := by
  -- The table has the same names in it, and those in order.
  unfold fieldsIn
  refine congrArg Table.keys (Table.eq_of_get? fun field => ?_)
  rw [← List.map_flatMap, ← List.map_flatMap, Table.get?_ofList_const, Table.get?_ofList_const]
  simp only [List.mem_flatMap, perm.mem_iff]

namespace Bucket

/-- The bucket of some records does not depend on their order. -/
theorem gathered_perm (fields : List String) (key : String) :
    gathered fields key others = gathered fields key records := by
  have totals : (gathered fields key others).totals = (gathered fields key records).totals := by
    apply Table.eq_of_get?
    intro field
    rw [get?_gathered, get?_gathered, exactOver_perm perm]
  -- Besides its totals a bucket has a key and a size.
  have keys := (gathered_key fields key others).trans (gathered_key fields key records).symm
  have sizes : (gathered fields key others).size = (gathered fields key records).size := by
    rw [gathered_size, gathered_size, perm.length_eq]
  exact (Bucket.mk.injEq ..).mpr ⟨keys, totals, sizes⟩

/-- The buckets along a timeline do not depend on the order of the records. -/
theorem ofRecords_span_perm (span : Span) (fields : List String) :
    ofRecords others (.span span) fields = ofRecords records (.span span) fields := by
  -- Keys and fields are the same, and each bucket is made of the records of its key in another order.
  have summedSame : summed others fields = summed records fields := by
    unfold summed
    rw [fieldsIn_perm perm]
  rw [ofRecords_eq_map, ofRecords_eq_map, Period.keys_span_perm perm, summedSame]
  exact List.map_congr_left fun key _ => gathered_perm (perm.filter _) _ key

end Bucket

/-- Records in another order are put under the same labels. -/
theorem RecordGroups.byInterval_perm {span : Span} {groups : RecordGroups}
    (grouped : byInterval records span = .ok groups) : byInterval others span =
      .ok ⟨groups.keys.map fun label => (label, others.filter (span.intervalLabel ·.date = label))⟩ := by
  -- The labels depend on the first and the last date only, which the order does not change.
  have sameRange := dateRange?_perm perm
  cases range : dateRange? records with
  | none =>
    unfold byInterval at grouped ⊢
    simp only [sameRange, range] at grouped ⊢
    cases grouped
    rfl
  | some ends =>
    obtain ⟨earliest, latest⟩ := ends
    rw [range] at sameRange
    cases labelled : span.intervals earliest latest with
    -- Records that were grouped have labels, and the same labels hold for the other order.
    | error missing => simp [byInterval, range, labelled] at grouped
    | ok labels =>
      rw [byInterval_eq_ok range labelled] at grouped
      cases grouped
      rw [byInterval_eq_ok sameRange labelled, Grouped.keys_eq_of_entries rfl]

variable (distinct : (records.map Record.start).Nodup)
include distinct

/-- Where no two records start together there is one way to sort them. -/
theorem Record.StablySorted.eq_of_perm {direction : SortDirection} {sorted otherSorted : List Record}
    (inOrder : StablySorted direction records sorted) (otherInOrder : StablySorted direction others otherSorted) :
    otherSorted = sorted :=
  eq_of_ordered inOrder.ordered otherInOrder.ordered (otherInOrder.perm.trans (perm.trans inOrder.perm.symm))
    ((inOrder.perm.map start).nodup_iff.2 distinct)

/-- Without records that start together the oldest come first in the same order. -/
theorem Record.oldestFirst_perm : oldestFirst others = oldestFirst records :=
  StablySorted.eq_of_perm perm distinct (stablySorted_mergeSort .ascending records)
    (stablySorted_mergeSort .ascending others)

/-- Without records that start together the newest come first in the same order. -/
theorem Record.newestFirst_perm : newestFirst others = newestFirst records :=
  StablySorted.eq_of_perm perm distinct (stablySorted_mergeSort .descending records)
    (stablySorted_mergeSort .descending others)

/-- Without records that start together the greatest of each point is the same. -/
theorem maxByDate_span_perm (span : Span) (field : String) :
    maxByDate others (.span span) field = maxByDate records (.span span) field := by
  -- The choice is made along the same keys, from the records in the order of time.
  unfold maxByDate
  rw [Period.keys_span_perm perm, Record.oldestFirst_perm perm distinct]

end

end Dashboard
