import Dashboard.Proofs.Indexed
import Dashboard.Proofs.Request.Place
import Dashboard.Proofs.Sample
import Dashboard.Proofs.Statistics.Group
import Dashboard.Proofs.Widget.Job
import Dashboard.Widget.Attributes

/-! The cumulative trend: the values of an attribute from the oldest on, each with the sums over the latest run of each
launch. -/

namespace Dashboard

namespace Attributes

/-- The latest record of each name is kept: of several that start last it is the last one. -/
structure KeepsLatest (records kept : List Record) : Prop where
  names : kept.map Record.name = (records.map Record.name).eraseDups
  latest : ∀ r ∈ kept, LastGreatest (·.start) (records.filter (·.name = r.name)) r

/-- After a scan the latest record of each name stands in the slot of the name. -/
theorem exists_foldl_keepLatest (records : List Record) : ∃ latestOf : String → Record,
    records.foldl keepLatest .empty = .ofKeys (records.map Record.name).eraseDups latestOf ∧
    ∀ name ∈ records.map Record.name, LastGreatest (·.start) (records.filter (·.name = name)) (latestOf name) := by
  -- The scan starts with the first record, so the records are taken off at the end.
  induction records using List.reverseRecOn with
  | nil => exact ⟨fun _ => Sample.leapRun, rfl, by simp⟩
  | append_singleton records r ih =>
    obtain ⟨latestOf, scanned, last⟩ := ih
    rw [List.foldl_append, scanned, List.foldl_cons, List.foldl_nil, keepLatest,
      Indexed.upsert_ofKeys (nodup_eraseDups _), List.map_append, List.map_singleton, eraseDups_append_singleton]
    simp only [List.mem_eraseDups]
    refine ⟨_, rfl, fun name named => ?_⟩
    rw [List.filter_append]
    by_cases here : r.name = name
    · subst here
      have alone : [r].filter (·.name = r.name) = [r] := by simp
      by_cases known : r.name ∈ records.map Record.name
      · -- The record replaces the one of its name that started no later.
        simp only [if_pos known, if_true, alone]
        split
        · rename_i order
          exact (last _ known).append_greater order
        · rename_i order
          exact (last _ known).append_smaller order
      · -- The record is the first of its name.
        have first : records.filter (·.name = r.name) = [] := by simpa using known
        simp only [if_neg known, if_true, first, alone, List.nil_append]
        exact .singleton r
    · have known : name ∈ records.map Record.name := by
        simpa [Ne.symm here] using named
      simpa [here] using last name known

/-- The scan of some records keeps the latest one of each name. -/
theorem keepsLatest_latestPerName (records : List Record) : KeepsLatest records (latestPerName records) := by
  obtain ⟨latestOf, scanned, last⟩ := exists_foldl_keepLatest records
  -- The slots hold one record for each name, in the order of first mention.
  have kept : latestPerName records = (records.map Record.name).eraseDups.map latestOf := by
    rw [latestPerName, scanned]
    rfl
  -- The latest record of a name is one of that name.
  have named : ∀ name ∈ records.map Record.name, (latestOf name).name = name := fun name listed =>
    of_decide_eq_true (List.mem_filter.1 (last name listed).mem).2
  rw [kept]
  constructor
  · rw [List.map_map]
    exact (List.map_congr_left fun name listed => named name (List.mem_eraseDups.1 listed)).trans (List.map_id _)
  · intro r member
    obtain ⟨name, listed, rfl⟩ := List.mem_map.1 member
    rw [named name (List.mem_eraseDups.1 listed)]
    exact last name (List.mem_eraseDups.1 listed)

/-- A record at a place of a batch is the latest run of its launch under the value of an attribute: it has the value, and
every other record that has both the value and its name is earlier. -/
structure IsLatestRun (records : List Record) (key value : String) (run : Record × Nat) : Prop where
  stands : records[run.2]? = some run.1
  tagged : run.1.attribute? key = some value
  latest : ∀ (other : Record) (place : Nat), records[place]? = some other → other.attribute? key = some value →
    other.name = run.1.name → place ≠ run.2 → Record.Earlier (other, place) run

/-- The latest runs under the value of an attribute, one for each launch that has a run under it. -/
structure LatestRuns (records : List Record) (key value : String) (runs : List (Record × Nat)) : Prop where
  distinct : (runs.map (·.1.name)).Nodup
  complete : ∀ r ∈ records, r.attribute? key = some value → ∃ run ∈ runs, run.1.name = r.name
  latest : ∀ run ∈ runs, IsLatestRun records key value run

/-- A value of an attribute starts before another one when some record that has it is earlier than all records that have
the other. -/
def StartsBefore (records : List Record) (key value later : String) : Prop :=
  ∃ (first : Record) (place : Nat), records[place]? = some first ∧ first.attribute? key = some value ∧
    ∀ (other : Record) (otherPlace : Nat), records[otherPlace]? = some other → other.attribute? key = some later →
      Record.Earlier (first, place) (other, otherPlace)

/-- The records that are kept from those with a value, in the order of time, are the latest runs under it. -/
theorem exists_latestRuns {records kept : List Record} {key value : String}
    (keeps : KeepsLatest ((Record.oldestFirst records).filter (·.attribute? key = some value)) kept) :
    ∃ runs, LatestRuns records key value runs ∧ runs.map Prod.fst = kept := by
  -- Each of them has a place at which it is later than all others.
  have each : ∀ r, ∃ place, r ∈ kept → IsLatestRun records key value (r, place) := by
    intro r
    by_cases member : r ∈ kept
    · have last := keeps.latest r member
      rw [List.filter_filter] at last
      obtain ⟨place, stands, isKind, others⟩ := last.exists_place_oldestFirst
      refine ⟨place, fun _ => ⟨stands, by simpa using isKind, fun other otherPlace otherStands tagged same apart => ?_⟩⟩
      rcases others other otherPlace otherStands (by simp [tagged, same]) apart with before | ⟨-, earlier⟩
      · exact .inl (Int.not_le.1 before)
      · exact earlier
    · exact ⟨0, fun kept => absurd kept member⟩
  choose place latest using each
  refine ⟨kept.map fun r => (r, place r), ⟨?_, ?_, ?_⟩, by simp [Function.comp_def]⟩
  · -- Of each name one record is kept.
    rw [List.map_map]
    exact keeps.names ▸ nodup_eraseDups _
  · -- No name under the value is lost.
    intro r member tagged
    have named : r.name ∈ kept.map Record.name := by
      rw [keeps.names, List.mem_eraseDups]
      exact List.mem_map_of_mem (List.mem_filter.2 ⟨List.mem_mergeSort.2 member, by simpa using tagged⟩)
    obtain ⟨found, listed, same⟩ := List.mem_map.1 named
    exact ⟨(found, place found), List.mem_map_of_mem listed, same⟩
  · intro run member
    obtain ⟨found, listed, rfl⟩ := List.mem_map.1 member
    exact latest found listed

end Attributes

/-- A content cumulates some counters over the values of an attribute when it has a point for each value, in the order of
the earliest records that have them, and each point shows the sums over the latest runs under its value, exactly wherever
they are words. -/
structure Content.Cumulates (content : Content) (records : List Record) (key : String) (fields : List String) :
    Prop where
  distinct : content.keys.Nodup
  complete : ∀ value, value ∈ content.keys ↔ ∃ r ∈ records, r.attribute? key = some value
  ordered : content.keys.Pairwise (Attributes.StartsBefore records key)
  sums : ∀ entry ∈ content.entries, ∃ point runs, entry.2 = [point] ∧ point.bare = { name := some entry.1 } ∧
    Attributes.LatestRuns records key entry.1 runs ∧
      ∀ field ∈ fields, point.value? field = some (Decimal.ofInt (sumOver (runs.map Prod.fst) field)) ∧
        (Word.Fits (exactOver (runs.map Prod.fst) field) →
          point.integer? field = some (exactOver (runs.map Prod.fst) field))

namespace Attributes

/-- The values of an attribute among some records, in the order of time. -/
def values (records : List Record) (key : String) : List String :=
  ((Record.oldestFirst records).filterMap (·.attribute? key)).eraseDups

/-- No value comes twice. -/
theorem nodup_values (records : List Record) (key : String) : (values records key).Nodup :=
  nodup_eraseDups _

/-- The values of an attribute are those that some record has. -/
theorem mem_values {records : List Record} {key value : String} :
    value ∈ values records key ↔ ∃ r ∈ records, r.attribute? key = some value := by
  -- Neither sorting nor leaving out repetitions changes which values there are.
  simp only [values, List.mem_eraseDups, List.mem_filterMap, Record.oldestFirst, List.mem_mergeSort]

/-- Each value starts before those behind it. -/
theorem pairwise_values (records : List Record) (key : String) :
    (values records key).Pairwise (StartsBefore records key) := by
  -- A value stands where its earliest record stands, so the records are taken with their places.
  have placed : values records key = ((Record.chronicle records).filterMap (·.1.attribute? key)).eraseDups := by
    rw [values, ← Record.map_fst_chronicle, List.filterMap_map]
    rfl
  rw [placed]
  refine (Grouped.pairwise_eraseDups_filterMap _ (Record.pairwise_chronicle records)).imp ?_
  rintro value later ⟨⟨first, place⟩, member, tagged, others⟩
  refine ⟨first, place, Record.mem_chronicle.1 member, tagged, fun other otherPlace stands taggedToo => ?_⟩
  exact others (other, otherPlace) (Record.mem_chronicle.2 stands) taggedToo

/-- The points of the values of an attribute, each made of the records that have it. -/
theorem entries_ofPoints_byAttribute (records : List Record) (key : String) (fields : List String) :
    (Content.ofPoints ((RecordGroups.byAttribute (Record.oldestFirst records) key).entries.map
      fun (value, group) => (value, valuePoint fields value group))).entries =
      (values records key).map fun value =>
        (value, [valuePoint fields value ((Record.oldestFirst records).filter (·.attribute? key = some value))]) := by
  -- Grouping by the attribute gives a group for each of these values.
  have grouped : (RecordGroups.byAttribute (Record.oldestFirst records) key).entries =
      (values records key).map fun value =>
        (value, (Record.oldestFirst records).filter (·.attribute? key = some value)) :=
    RecordGroups.entries_byAttribute _ _
  rw [grouped, List.map_map, Content.entries_ofPoints, List.map_map]
  · rfl
  · rw [List.map_map]
    exact (List.map_id (values records key)).symm ▸ nodup_values records key

/-- Points of the values of an attribute, from the oldest value on, cumulate the counters that they are made of. -/
theorem cumulates_ofPoints (records : List Record) (key : String) (fields : List String) :
    Content.Cumulates (.ofPoints ((RecordGroups.byAttribute (Record.oldestFirst records) key).entries.map
      fun (value, group) => (value, valuePoint fields value group))) records key fields := by
  -- The content is nothing but its entries, and these are known.
  have entries := entries_ofPoints_byAttribute records key fields
  generalize Content.ofPoints _ = content at entries ⊢
  have keys : content.keys = values records key :=
    Grouped.keys_eq_of_entries entries
  refine ⟨keys ▸ nodup_values records key, fun value => keys ▸ mem_values, keys ▸ pairwise_values records key, ?_⟩
  intro entry member
  rw [entries] at member
  obtain ⟨value, -, rfl⟩ := List.mem_map.1 member
  obtain ⟨runs, latest, shape⟩ := exists_latestRuns (keepsLatest_latestPerName
    ((Record.oldestFirst records).filter (·.attribute? key = some value)))
  refine ⟨_, runs, rfl, Chart.bare_foldl_setInt _ _ _, latest, fun field listed => ?_⟩
  -- The counters of the point were summed up over these runs.
  have shown : (valuePoint fields value ((Record.oldestFirst records).filter (·.attribute? key = some value))).value?
      field = some (Decimal.ofInt (sumOver (runs.map Prod.fst) field)) := by
    rw [shape]
    exact (Chart.value?_foldl_setInt fields _ _ field).trans (if_pos listed)
  exact ⟨shown, fun fits => sumOver_of_fits fits ▸ Chart.integer?_of_value? shown⟩

/-- A cumulative trend of some launches, for a request that names an attribute and valid counters, has a point for each
value of the attribute, from the value of the earliest launch on, and in it the counters asked for summed up over the
latest run of each launch under that value. -/
theorem run_cumulative {request : Request} {config : Config} {key : String}
    (named : (Job.ofRequest .cumulativeTrend request config).required Widget.attributeOption = .ok key)
    (someFields : request.contentFields ≠ []) (valid : ∀ field ∈ request.contentFields, Field.isValid field = true)
    (nonempty : request.limitedRecords ≠ []) : ∃ content,
      cumulative (Job.ofRequest .cumulativeTrend request config) = .ok content ∧
      content.Cumulates request.limitedRecords key (request.contentFields.map Field.internal) := by
  -- The options and the fields pass their checks, and then there are records to build from.
  have checked := Job.requiredFields_ofRequest request .cumulativeTrend config someFields valid
  have someRecords : (Job.ofRequest .cumulativeTrend request config).records ≠ [] := nonempty
  refine ⟨_, ?_, cumulates_ofPoints _ key _⟩
  simp only [cumulative, named, checked, if_neg someRecords, Bind.bind, Except.bind]
  rfl

/-- Runs of two launches under two builds, two of them at the same moment and one without a build. -/
def builds : List Record :=
  [(Sample.run "1" "api" (Sample.midnight Sample.leapEve)).withAttribute "build" "1.0" |>.withCounter Field.total 10,
    (Sample.run "2" "api" (Sample.midnight Sample.leapEve)).withAttribute "build" "1.0" |>.withCounter Field.total 20,
    (Sample.run "3" "ui" (Sample.midnight Sample.leapEve)).withAttribute "build" "1.0" |>.withCounter Field.total 5,
    (Sample.run "4" "api" (Sample.midnight Sample.leapDay)).withAttribute "build" "1.1" |>.withCounter Field.total 7,
    (Sample.run "5" "api" (Sample.midnight Sample.leapDay)).withCounter Field.total 99]

/-- A request for the trend of executions over the builds. -/
def buildTrend : Request :=
  ({ widget := "cumulative_trend", records := builds, contentFields := ["executions$total"] } : Request).withOption
    Widget.attributeOption "build"

/-- Of the two runs at the same moment the later one in the batch is added to the run of the other launch. -/
theorem run_cumulative_buildTrend : ∃ content,
    cumulative (Job.ofRequest .cumulativeTrend buildTrend {}) = .ok content ∧
    content.Cumulates builds "build" [Field.total] ∧
    content.entries.map (fun entry => (entry.1, entry.2.map (·.value? Field.total))) =
      [("1.0", [some "25"]), ("1.1", [some "7"])] := by
  have named : (Job.ofRequest .cumulativeTrend buildTrend {}).required Widget.attributeOption = .ok "build" := by
    decide +kernel
  obtain ⟨content, built, cumulates⟩ := run_cumulative named (by decide) (by decide) (by decide)
  -- The runs are stored from the oldest on, so that sorting leaves them as they are.
  refine ⟨content, built, cumulates, ?_⟩
  have sorted : Record.oldestFirst builds = builds := List.mergeSort_of_pairwise (by decide)
  have shown : Except.ok (.ofPoints ((RecordGroups.byAttribute (Record.oldestFirst builds) "build").entries.map
      fun (value, group) => (value, valuePoint [Field.total] value group))) = Except.ok content := built
  cases shown
  rw [sorted]
  decide +kernel

end Attributes
end Dashboard
