import Dashboard.Proofs.Failure
import Dashboard.Proofs.Grouped
import Dashboard.Proofs.Record.Field
import Dashboard.Proofs.Statistics.Bucket
import Dashboard.Proofs.Widget.Job
import Dashboard.Widget.Registry

/-! Contents are built with the library's names for their values, whatever the caller calls them. -/

namespace Dashboard

open Calendar (Date Span)

namespace Chart

/-- A point whose values all have names without dollar signs. -/
def Dotted (point : Chart) : Prop :=
  ∀ key ∈ point.values.keys, '$' ∉ key.toList

instance (point : Chart) : Decidable point.Dotted :=
  inferInstanceAs (Decidable (∀ key ∈ _, _))

/-- A point is dotted when every value that it shows has a name without dollar signs. -/
theorem dotted_iff {point : Chart} : point.Dotted ↔ ∀ key value, point.value? key = some value → '$' ∉ key.toList := by
  unfold Dotted
  simp only [Table.mem_keys, forall_exists_index]
  rfl

/-- A point without values is dotted. -/
theorem dotted_of_empty {point : Chart} (bare : point.values = .empty) : point.Dotted := by
  intro key listed
  rw [bare] at listed
  cases listed

/-- A point made of a record has no values yet. -/
theorem dotted_ofRecord (r : Record) : (ofRecord r).Dotted :=
  dotted_of_empty rfl

namespace Dotted

variable {point : Chart}

/-- One more value under a name without dollar signs. -/
theorem set (dotted : point.Dotted) {key : String} (named : '$' ∉ key.toList) (value : String) :
    (point.set key value).Dotted := by
  -- What is shown afterwards is the new value or an old one.
  rw [dotted_iff] at dotted ⊢
  intro k shown found
  rw [value?_set] at found
  split at found
  · rename_i new
    rwa [new]
  · exact dotted k shown found

/-- More values under names without dollar signs. -/
theorem setAll {values : List (String × String)} (dotted : point.Dotted)
    (named : ∀ entry ∈ values, '$' ∉ entry.1.toList) : (point.setAll values).Dotted := by
  -- One value after another is set in a dotted point.
  induction values generalizing point with
  | nil => exact dotted
  | cons entry rest ih =>
    obtain ⟨first, others⟩ := List.forall_mem_cons.1 named
    exact ih (dotted.set first entry.2) others

/-- More numbers under names without dollar signs. -/
theorem foldl_setInt {fields : List String} (dotted : point.Dotted) (named : ∀ field ∈ fields, '$' ∉ field.toList)
    (count : String → Int) : (fields.foldl (fun point field => point.setInt field (count field)) point).Dotted := by
  -- One number after another is set in a dotted point.
  induction fields generalizing point with
  | nil => exact dotted
  | cons field rest ih =>
    obtain ⟨first, others⟩ := List.forall_mem_cons.1 named
    exact ih (dotted.set first _) others

end Dotted

end Chart

/-- A content whose values all have names without dollar signs. -/
def Content.Dotted (content : Content) : Prop :=
  ∀ point ∈ content.allPoints, point.Dotted

instance (content : Content) : Decidable content.Dotted :=
  inferInstanceAs (Decidable (∀ point ∈ _, _))

namespace Content

/-- The empty content has no points. -/
theorem dotted_empty : Dotted .empty := nofun

/-- A content with one series is dotted when the points of the series are. -/
theorem dotted_result {series : List Chart} (each : ∀ point ∈ series, point.Dotted) : (result series).Dotted := by
  unfold Dotted
  rwa [allPoints_result]

/-- A content made of points is dotted when they are. -/
theorem dotted_ofPoints {points : List (String × Chart)} (each : ∀ entry ∈ points, entry.2.Dotted) :
    (ofPoints points).Dotted := by
  intro point listed
  -- Each group has some of the points.
  rw [ofPoints, allPoints, Grouped.entries_foldl_push, List.flatMap_map] at listed
  obtain ⟨key, -, inGroup⟩ := List.mem_flatMap.1 listed
  obtain ⟨entry, member, rfl⟩ := List.mem_map.1 inGroup
  exact each entry (List.mem_of_mem_filter member)

/-- One more series of dotted points. -/
theorem Dotted.insert {content : Content} (dotted : content.Dotted) (key : String) {series : List Chart}
    (each : ∀ point ∈ series, point.Dotted) : Content.Dotted (content.insert key series) := by
  -- A point is an old one or one of the series.
  intro point listed
  rcases mem_allPoints_insert listed with old | new
  · exact dotted point old
  · exact each point new

end Content

namespace Trend

/-- A trend along a timeline is dotted when the points of its buckets are. -/
theorem dotted_alongTimeline {point : Bucket → Chart} {span : Span} {fields : List String} {records : List Record}
    (each : ∀ bucket ∈ Bucket.ofRecords records (.span span) fields, (point bucket).Dotted) :
    (alongTimeline point span fields records).Dotted :=
  Content.dotted_ofPoints (List.forall_mem_map.2 each)

/-- Counters that are named without dollar signs are shown under these names, by launch or along a timeline. -/
theorem dotted_counters {fields : List String} (someFields : fields ≠ [])
    (named : ∀ field ∈ fields, '$' ∉ field.toList) (timeline : Option Span) (records : List Record) :
    (counters timeline fields records).Dotted := by
  cases timeline with
  -- By launch the names are those of the fields, and along a timeline they are those that the buckets have totals
  -- for.
  | none =>
    exact Content.dotted_result (List.forall_mem_map.2 fun r _ => (Chart.dotted_ofRecord r).foldl_setInt named _)
  | some span =>
    refine dotted_alongTimeline fun bucket listed => Chart.dotted_iff.2 fun key value shown => ?_
    -- A bucket has totals for the fields alone, as some are asked for.
    obtain ⟨total, held, -⟩ := Option.map_eq_some_iff.1 ((Table.get?_mapValues _ _ _).symm.trans shown)
    rw [(Bucket.eq_gathered_of_mem listed).2, Bucket.get?_gathered, Bucket.summed, if_neg someFields] at held
    split at held
    · rename_i asked
      exact named key asked
    · cases held

end Trend

namespace Delta

/-- Each point of an annotated series is one of the series with its change. -/
theorem exists_of_mem_write {series : List Chart} {changes : List Int} {point : Chart}
    (listed : point ∈ write series changes) : ∃ original ∈ series, ∃ change, point = original.setInt key change := by
  -- The points and their changes go side by side.
  rw [write, ← List.map_uncurry_zip_eq_zipWith] at listed
  obtain ⟨⟨original, change⟩, paired, rfl⟩ := List.mem_map.1 listed
  exact ⟨original, (List.of_mem_zip paired).1, change, rfl⟩

/-- Noting changes in dotted points leaves them dotted. -/
theorem dotted_write {series : List Chart} (each : ∀ point ∈ series, point.Dotted) (changes : List Int) :
    ∀ point ∈ write series changes, point.Dotted := by
  intro point listed
  obtain ⟨original, member, change, rfl⟩ := exists_of_mem_write listed
  exact (each original member).set (by decide) _

end Delta

/-- The point of a total is dotted when the name of its field is. -/
theorem Cases.dotted_totalPoint {field : String} (named : '$' ∉ field.toList) (r : Option Record) :
    (totalPoint field r).Dotted := by
  cases r with
  | none => exact (Chart.dotted_of_empty rfl).set named _
  | some r => exact (Chart.dotted_ofRecord r).set named _

/-- The field whose totals are shown is dotted when all fields are. -/
theorem Cases.dotted_totalField {fields : List String} (named : ∀ field ∈ fields, '$' ∉ field.toList) :
    '$' ∉ (totalField fields).toList := by
  -- Without fields it is the one for all executions.
  cases fields with
  | nil => decide
  | cons field rest => exact named field List.mem_cons_self

namespace Activity

/-- The bounds of an interval are set under names without dollar signs. -/
theorem givesOnly_boundedPoint (span : Span) {point : Chart} (dotted : point.Dotted) (date : Date) :
    GivesOnly Chart.Dotted (boundedPoint span point date) := by
  have started (day : String) : (point.set "start" day).Dotted := dotted.set (by decide) day
  -- A week that the calendar cuts off has no point, and a day needs no second bound.
  unfold boundedPoint
  split
  · exact givesOnly_error _
  · refine givesOnly_ok ?_
    split
    · exact (started _).set (by decide) _
    · exact started _

/-- The number of launches is set under a name without dollar signs. -/
theorem givesOnly_quantityPoint (span : Span) (label : String) (records : List Record) :
    GivesOnly Chart.Dotted (quantityPoint span label records) := by
  -- With a date the bounds are set behind the number, and without one the number stands alone.
  unfold quantityPoint
  dsimp only
  split
  · exact givesOnly_boundedPoint span ((Chart.dotted_of_empty rfl).setAll (by simp)) _
  · exact givesOnly_ok ((Chart.dotted_of_empty rfl).setAll (by simp))

/-- The sums of defects are set under names without dollar signs. -/
theorem dotted_defectPoint (records : List Record) : (defectPoint records).Dotted :=
  (Chart.dotted_of_empty rfl).setAll (by simp [defectOutputs])

/-- What is told about the launches of a name is set under names without dollar signs. -/
theorem dotted_namePoint (name : String) (records : List Record) : (namePoint name records).Dotted :=
  (Chart.dotted_of_empty rfl).setAll (by simp)

end Activity

/-- The counts of a row and their rate are set under names without dollar signs. -/
theorem Attributes.dotted_healthRow (name : Option String) (records : List Record) : (healthRow name records).Dotted :=
  (Chart.dotted_of_empty rfl).setAll (by simp [Field.passed, Field.total, Share.passingRateKey])

/-- The times of a launch and its status are set under names without dollar signs. -/
theorem Summary.dotted_of_durationPoint? {r : Record} {point : Chart} (made : durationPoint? r = some point) :
    point.Dotted := by
  -- There is a point only where there is a duration, and then its values are set one after another.
  unfold durationPoint? at made
  simp only [Option.bind_eq_bind, Option.bind_eq_some_iff, Option.pure_def, Option.some.injEq] at made
  obtain ⟨finish, -, duration, -, rfl⟩ := made
  have timed := (((Chart.dotted_ofRecord r).set (by decide : '$' ∉ "duration".toList) (Decimal.ofInt duration)).set
    (by decide : '$' ∉ "endTime".toList) (Decimal.ofInt finish.millis))
  split
  · exact timed.set (by decide) _
  · exact timed

/-- Shares are named after their counters, which have no dollar signs. -/
theorem Share.dotted_comparison (count : String → Int) : ∀ entry ∈ comparison count, '$' ∉ entry.1.toList := by
  -- Each share stands under the name of its counter.
  have named : ∀ entry ∈ comparison count,
      entry.1 ∈ [Field.total] ++ [Field.passed, Field.failed, Field.skipped] ++ Field.defects := by
    unfold comparison executionShares defectShares
    dsimp only
    split <;> split <;> simp [roundedDefects, Field.defects]
  have dotted : ∀ field ∈ [Field.total] ++ [Field.passed, Field.failed, Field.skipped] ++ Field.defects,
      '$' ∉ field.toList := by decide
  exact fun entry listed => dotted _ (named entry listed)

/-- What is told about a flaky item is set under names without dollar signs. -/
theorem FlakyItem.dotted_toChart (item : FlakyItem) : item.toChart.Dotted :=
  (Chart.dotted_of_empty rfl).setAll (by simp)

/-- What is told about a failing item is set under names without dollar signs. -/
theorem FailingItem.dotted_toChart (item : FailingItem) : item.toChart.Dotted := by
  unfold toChart
  dsimp only
  -- The time of the last failure is shown where it is known.
  split
  · exact ((Chart.dotted_of_empty rfl).setAll (by simp)).set (by decide) _
  · exact (Chart.dotted_of_empty rfl).setAll (by simp)

/-- What is told about a timed item is set under names without dollar signs. -/
theorem TimedItem.dotted_toChart (item : TimedItem) : item.toChart.Dotted := by
  unfold toChart
  dsimp only
  -- The status is shown where it is known.
  split
  · exact ((Chart.dotted_of_empty rfl).set (by decide) _).set (by decide) _
  · exact (Chart.dotted_of_empty rfl).set (by decide) _

/-- Fields that a job goes by are in the library's spelling, which has no dollar signs. -/
theorem Job.dotted_contentFields {job : Job} {fields : List String} (read : job.contentFields = .ok fields) :
    ∀ field ∈ fields, '$' ∉ field.toList := by
  obtain ⟨-, rfl⟩ := contentFields_eq_ok_iff.1 read
  exact List.forall_mem_map.2 fun field _ => Field.dollar_not_mem_internal field

/-- Required fields are some, and in the library's spelling they have no dollar signs. -/
theorem Job.dotted_requiredFields {job : Job} {fields : List String} (read : job.requiredFields = .ok fields) :
    fields ≠ [] ∧ ∀ field ∈ fields, '$' ∉ field.toList := by
  obtain ⟨asked, -, rfl⟩ := requiredFields_eq_ok_iff.1 read
  exact ⟨by simpa using asked, List.forall_mem_map.2 fun field _ => Field.dollar_not_mem_internal field⟩

/-- No strategy gives a value a name with a dollar sign, whatever spelling the caller asks for. -/
theorem Widget.strategy_dotted (widget : Widget) (job : Job) : GivesOnly Content.Dotted (widget.strategy job) := by
  -- Without records there is an empty content, and so only what is built behind this question matters.
  have behind {step : Except Failure Content} (only : GivesOnly Content.Dotted step) :
      GivesOnly Content.Dotted (if job.records = [] then .ok .empty else step) := by
    split
    · exact givesOnly_ok Content.dotted_empty
    · exact only
  have built {content : Content} (dotted : content.Dotted) :
      GivesOnly Content.Dotted (if job.records = [] then .ok .empty else .ok content) := behind (givesOnly_ok dotted)
  cases widget with
  | statisticTrend =>
    refine givesOnly_bind fun fields read => givesOnly_bind fun timeline _ => built ?_
    obtain ⟨someFields, named⟩ := Job.dotted_requiredFields read
    exact Trend.dotted_counters someFields named timeline job.records
  | launchStatistics =>
    refine givesOnly_bind fun asked read => givesOnly_bind fun timeline _ => built ?_
    -- Without any field the counters of executions and defects are shown.
    by_cases unasked : asked = []
    · rw [if_pos unasked]
      exact Trend.dotted_counters (by decide) (by decide) timeline job.records
    · rw [if_neg unasked]
      exact Trend.dotted_counters unasked (Job.dotted_contentFields read) timeline job.records
  | investigatedTrend =>
    have shares (point : Chart) (dotted : point.Dotted) (shares : Share.Investigation) :
        (point.setAll shares.values).Dotted := dotted.setAll (by simp [Share.Investigation.values])
    refine givesOnly_bind fun timeline _ => built ?_
    cases timeline with
    | none => exact Content.dotted_result (List.forall_mem_map.2 fun r _ => shares _ (Chart.dotted_ofRecord r) _)
    | some span => exact Trend.dotted_alongTimeline fun _ _ => shares _ (Chart.dotted_of_empty rfl) _
  | notPassed =>
    exact built <| Content.dotted_result <| List.forall_mem_map.2 fun r _ =>
      (Chart.dotted_ofRecord r).set (by decide) _
  | casesTrend =>
    refine givesOnly_bind fun _ _ => givesOnly_bind fun fields read => givesOnly_bind fun timeline _ =>
      built ?_
    have total := Cases.dotted_totalPoint (Cases.dotted_totalField (Job.dotted_contentFields read))
    cases timeline with
    | none => exact Content.dotted_result (Delta.dotted_write (List.forall_mem_map.2 fun r _ => total (some r)) _)
    | some span =>
      -- Each change is noted in the point of its total.
      refine Content.dotted_ofPoints fun entry listed => ?_
      exact Delta.dotted_write (List.forall_mem_map.2 fun best _ => total best.2) _ _ (List.of_mem_zip listed).2
  | launchesComparison =>
    exact built <| Content.dotted_result <| List.forall_mem_map.2 fun r _ =>
      (Chart.dotted_ofRecord r).setAll (Share.dotted_comparison r.count)
  | launchesDuration =>
    show GivesOnly Content.Dotted (if _ then _ else _)
    split
    · exact givesOnly_ok Content.dotted_empty
    · refine givesOnly_ok (Content.dotted_result fun point listed => ?_)
      obtain ⟨r, -, made⟩ := List.mem_filterMap.1 listed
      exact Summary.dotted_of_durationPoint? made
  | passingRateSummary =>
    exact built <| Content.dotted_result <| List.forall_mem_singleton.2 <|
      (Chart.dotted_of_empty rfl).setAll (by simp [Share.passingRateKey])
  | overallStatistics =>
    exact givesOnly_bind fun fields read => built <| Content.dotted_result <| List.forall_mem_singleton.2 <|
      (Chart.dotted_of_empty rfl).foldl_setInt (Job.dotted_requiredFields read).2 _
  | launchesQuantity =>
    refine givesOnly_bind fun span _ => behind <| givesOnly_bind fun groups _ => ?_
    refine givesOnly_bind fun points made => givesOnly_ok (Content.dotted_ofPoints ?_)
    refine givesOnly_mapM (fun group _ => givesOnly_bind fun point given => givesOnly_ok ?_) points made
    exact Activity.givesOnly_quantityPoint span group.1 group.2 point given
  | launchesIssues =>
    refine givesOnly_bind fun span _ => behind <| givesOnly_bind fun groups _ => givesOnly_ok ?_
    exact Content.dotted_ofPoints (List.forall_mem_map.2 fun group _ => Activity.dotted_defectPoint group.2)
  | uniqueLaunches =>
    exact built <| Content.dotted_ofPoints <| List.forall_mem_map.2 fun group _ =>
      Activity.dotted_namePoint group.1 group.2
  | cumulativeTrend =>
    refine givesOnly_bind fun key _ => givesOnly_bind fun fields read => built ?_
    exact Content.dotted_ofPoints <| List.forall_mem_map.2 fun group _ =>
      (Chart.dotted_of_empty rfl).foldl_setInt (Job.dotted_requiredFields read).2 _
  | healthCheckTable =>
    refine givesOnly_bind fun key _ => behind ?_
    dsimp only
    split
    · exact givesOnly_ok Content.dotted_empty
    · refine givesOnly_ok ((Content.dotted_result ?_).insert _ ?_)
      · exact List.forall_mem_map.2 fun group _ => Attributes.dotted_healthRow _ _
      · exact List.forall_mem_singleton.2 (Attributes.dotted_healthRow none _)
  | flakyTestCases =>
    refine givesOnly_bind fun name _ => built ?_
    exact (Content.dotted_ofPoints (List.forall_mem_map.2 fun item _ => item.dotted_toChart)).insert _
      (List.forall_mem_singleton.2 (Chart.dotted_of_empty rfl))
  | mostFailedTestCases =>
    refine givesOnly_bind fun name _ => givesOnly_bind fun fields _ => built ?_
    exact (Content.dotted_empty.insert _ (List.forall_mem_map.2 fun item _ => item.dotted_toChart)).insert _
      (List.forall_mem_singleton.2 (Chart.dotted_of_empty rfl))
  | mostTimeConsuming =>
    refine givesOnly_bind fun name _ => givesOnly_bind fun fields _ => built ?_
    exact Content.dotted_result (List.forall_mem_map.2 fun item _ => item.dotted_toChart)

end Dashboard
