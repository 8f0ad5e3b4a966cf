import Dashboard.Proofs.Statistics.Group

/-! Groups by a key divide the records that have it, and the buckets by name are the groups by name, added up. -/

namespace Dashboard

/-- Distinct items stand in the order of their first places. -/
theorem pairwise_idxOf_eraseDups {α : Type} [DecidableEq α] (items : List α) :
    items.eraseDups.Pairwise fun item later => items.idxOf item < items.idxOf later := by
  induction items using List.reverseRecOn with
  -- Taking items from the front would change the first places of the others, so the last item is taken off.
  | nil => simp
  | append_singleton items item ih =>
    -- A further item leaves the first places of the others as they are.
    have kept : items.eraseDups.Pairwise fun old later =>
        (items ++ [item]).idxOf old < (items ++ [item]).idxOf later := by
      refine ih.imp_of_mem fun {old later} oldListed laterListed before => ?_
      rwa [List.idxOf_append_of_mem (List.mem_eraseDups.1 oldListed),
        List.idxOf_append_of_mem (List.mem_eraseDups.1 laterListed)]
    rw [eraseDups_append_singleton]
    split
    · exact kept
    · rename_i fresh
      refine List.pairwise_append.2 ⟨kept, List.pairwise_singleton _ _, fun old listed last added => ?_⟩
      have member := List.mem_eraseDups.1 listed
      rw [List.mem_singleton.1 added, List.idxOf_append_of_mem member, List.idxOf_append_of_notMem fresh]
      have := List.idxOf_lt_length_of_mem member
      omega

namespace Grouped

variable {α : Type}

/-- Groups divide some items by a key when each item that has it is in one group, and no group is empty. -/
structure DividesBy (key? : α → Option String) (items : List α) (groups : Grouped α) : Prop where
  keys : ∀ key, key ∈ groups.keys ↔ ∃ item ∈ items, key? item = some key
  distinct : groups.keys.Nodup
  /-- The keys stand in the order in which the items mention them first. -/
  mentioned : groups.keys.Pairwise fun key later =>
    (items.filterMap key?).idxOf key < (items.filterMap key?).idxOf later
  /-- A group has exactly the items of its key, in their order. -/
  each : ∀ group ∈ groups.entries, group.2 = items.filter (key? · = some group.1)
  nonempty : ∀ group ∈ groups.entries, group.2 ≠ []
  placed : ∀ item ∈ items, (key? item).isSome → ∃! group, group ∈ groups.entries ∧ item ∈ group.2
  /-- Equal items are all kept, each as often as it comes. -/
  complete : (groups.entries.flatMap (·.2)).Perm (items.filter fun item => (key? item).isSome)

variable (key? : α → Option String)

/-- The keys of groups are the distinct keys of the items, in the order of first mention. -/
theorem keys_groupBy (items : List α) : (groupBy key? items).keys = (items.filterMap key?).eraseDups :=
  keys_eq_of_entries (entries_groupBy key? items)

/-- There is a group for each key that some item has. -/
theorem mem_keys_groupBy {items : List α} {key : String} :
    key ∈ (groupBy key? items).keys ↔ ∃ item ∈ items, key? item = some key := by
  rw [keys_groupBy, List.mem_eraseDups, List.mem_filterMap]

/-- A group of some items has the items of its key. -/
theorem eq_filter_of_mem_groupBy {items : List α} {group : String × List α}
    (member : group ∈ (groupBy key? items).entries) :
    group.1 ∈ (groupBy key? items).keys ∧ group.2 = items.filter (key? · = some group.1) := by
  -- The entries are those of the keys, each with the items that have it.
  refine ⟨List.mem_map_of_mem member, ?_⟩
  rw [entries_groupBy] at member
  obtain ⟨key, -, rfl⟩ := List.mem_map.1 member
  rfl

/-- Grouping divides items by whatever key they are grouped by. -/
theorem dividesBy_groupBy (items : List α) : DividesBy key? items (groupBy key? items) where
  keys _ := mem_keys_groupBy key?
  distinct := by
    rw [keys_groupBy]
    exact nodup_eraseDups _
  mentioned := by
    rw [keys_groupBy]
    exact pairwise_idxOf_eraseDups _
  each group member := (eq_filter_of_mem_groupBy key? member).2
  nonempty group member := by
    -- Some item has the key, and it is in the group.
    obtain ⟨named, made⟩ := eq_filter_of_mem_groupBy key? member
    obtain ⟨item, listed, keyed⟩ := (mem_keys_groupBy key?).1 named
    rw [made]
    exact List.ne_nil_of_mem (List.mem_filter.2 ⟨listed, decide_eq_true keyed⟩)
  placed item listed hasKey := by
    obtain ⟨key, keyed⟩ := Option.isSome_iff_exists.1 hasKey
    have named : key ∈ (items.filterMap key?).eraseDups :=
      List.mem_eraseDups.2 (List.mem_filterMap.2 ⟨item, listed, keyed⟩)
    refine ⟨(key, items.filter (key? · = some key)), ⟨?_, by simp [listed, keyed]⟩, ?_⟩
    · rw [entries_groupBy]
      exact List.mem_map_of_mem named
    · -- The key of the item is that of any group it is in, and the key determines the group.
      intro group found
      obtain ⟨member, inside⟩ := found
      have made := (eq_filter_of_mem_groupBy key? member).2
      rw [made, List.mem_filter, decide_eq_true_eq, keyed, Option.some.injEq] at inside
      rw [inside.2, ← made]
  complete := flatMap_groupBy_perm key? items

end Grouped

/-- By name each group has the records of that name. -/
theorem RecordGroups.entries_byName (records : List Record) : (byName records).entries =
    (distinctNames records).map fun name => (name, records.filter (·.name = name)) := by
  rw [byName, Grouped.entries_groupBy, distinctNames_eq, List.filterMap_eq_map']
  simp only [Option.some.injEq]

/-- The keys of the groups by name are the distinct names. -/
theorem RecordGroups.keys_byName (records : List Record) : (byName records).keys = distinctNames records :=
  Grouped.keys_eq_of_entries (entries_byName records)

namespace Bucket

/-- A bucket adds up the counters of a group of records: it has the key of the group, its number of records, and totals
for the fields that are asked for, or for those that any of the given records has when none are asked for. -/
structure AddsUp (records : List Record) (asked : List String) (bucket : Bucket) (group : String × List Record) :
    Prop where
  key : bucket.key = group.1
  size : bucket.size = group.2.length
  /-- There are no other totals, and one is the word of the exact sum of the counts, taken each time its field is named. -/
  totals : ∀ field, bucket.totals.get? field = if field ∈ summed records asked then
    some (Word.wrap ((summed records asked).count field * exactOver group.2 field)) else none
  /-- With no field asked for twice, each total is the sum of the counts. -/
  once : asked.Nodup → ∀ field ∈ summed records asked, bucket.totals.get? field = some (sumOver group.2 field)
  /-- It is their exact sum wherever this is a word. -/
  exact : asked.Nodup → ∀ field ∈ summed records asked, Word.Fits (exactOver group.2 field) →
    bucket.totals.get? field = some (exactOver group.2 field)

/-- Fields that are added up come once when those asked for do. -/
theorem nodup_summed {fields : List String} (once : fields.Nodup) (records : List Record) :
    (summed records fields).Nodup := by
  -- The counters of records are the keys of a table, which has no key twice.
  unfold summed
  split
  · exact Table.keys_nodup _
  · exact once

/-- The bucket of a group adds up its records. -/
theorem addsUp_gathered (records : List Record) (asked : List String) (key : String) (group : List Record) :
    (gathered (summed records asked) key group).AddsUp records asked (key, group) := by
  -- Without repetition a field is added up once, whatever records are looked at.
  have once : asked.Nodup → ∀ field ∈ summed records asked,
      (gathered (summed records asked) key group).totals.get? field = some (sumOver group field) := by
    intro distinct field named
    exact get?_gathered_of_once (List.count_eq_one_of_mem (nodup_summed distinct records) named) key group
  refine ⟨gathered_key _ key group, gathered_size _ key group, get?_gathered _ key group, once, ?_⟩
  intro distinct field named fits
  rw [once distinct field named, sumOver_of_fits fits]

/-- The buckets by name add up the groups by name, one by one. -/
theorem forall₂_addsUp_byName (records : List Record) (asked : List String) :
    List.Forall₂ (AddsUp records asked) (ofRecords records .name asked) (RecordGroups.byName records).entries := by
  rw [ofRecords_eq_map, RecordGroups.entries_byName, List.forall₂_map_left_iff,
    List.forall₂_map_right_iff]
  -- The keys of the buckets are the names of the groups.
  exact List.forall₂_same.2 fun name _ => addsUp_gathered records asked name _

end Bucket

namespace RecordGroups

/-- Whatever key records are grouped by, the groups divide those that have it; and the buckets by name have the keys of the
groups by name, each with the size and the sums of its group. -/
theorem dividesBy_and_addsUp (records : List Record) (key? : Record → Option String) (asked : List String) :
    (Grouped.groupBy key? records).DividesBy key? records ∧
      (Bucket.ofRecords records .name asked).map Bucket.key = (byName records).keys ∧
      List.Forall₂ (Bucket.AddsUp records asked) (Bucket.ofRecords records .name asked) (byName records).entries := by
  refine ⟨Grouped.dividesBy_groupBy key? records, ?_, Bucket.forall₂_addsUp_byName records asked⟩
  rw [keys_byName, Bucket.map_key_ofRecords]
  rfl

/-- Launches of two names, the first of which comes again, and of one build or none. -/
def returningRuns : List Record :=
  [(Sample.run "1" "zeta" (Sample.midnight Sample.leapEve)).withAttribute "build" "1.0" |>.withCounter Field.total 5,
    (Sample.run "2" "alpha" (Sample.midnight Sample.leapEve)).withCounter Field.total 2,
    (Sample.run "3" "zeta" (Sample.midnight Sample.leapDay)).withAttribute "build" "1.0" |>.withCounter Field.total 3]

/-- By build one launch is left out, and by name the first and the third one are added up together. -/
theorem dividesBy_and_addsUp_returningRuns :
    (Grouped.groupBy (·.attribute? "build") returningRuns).DividesBy (·.attribute? "build") returningRuns ∧
    (Bucket.ofRecords returningRuns .name [Field.total]).map Bucket.key = (byName returningRuns).keys ∧
    List.Forall₂ (Bucket.AddsUp returningRuns [Field.total]) (Bucket.ofRecords returningRuns .name [Field.total])
      (byName returningRuns).entries ∧
    [Field.total].Nodup ∧ (byName returningRuns).keys = ["zeta", "alpha"] ∧
    (Bucket.ofRecords returningRuns .name [Field.total]).map (·.totals.get? Field.total) = [some 8, some 2] := by
  obtain ⟨divides, keys, sums⟩ := dividesBy_and_addsUp returningRuns (·.attribute? "build") [Field.total]
  exact ⟨divides, keys, sums, by decide, by decide +kernel, by decide +kernel⟩

end RecordGroups
end Dashboard
