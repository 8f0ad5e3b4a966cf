import Dashboard.Proofs.Content
import Dashboard.Proofs.Sample
import Dashboard.Proofs.Statistics.Bucket
import Dashboard.Proofs.Widget.Job
import Dashboard.Widget.Summary
import Dashboard.Widget.Trend

/-! Counters added up in three ways: along a timeline, by launch, and over all launches at once. -/

namespace Dashboard

open Calendar (Span)

namespace Bucket

/-- The point of a bucket shows its totals. -/
theorem value?_toChart (bucket : Bucket) (name : String) :
    bucket.toChart.value? name = (bucket.totals.get? name).map Decimal.ofInt :=
  Table.get?_mapValues Decimal.ofInt bucket.totals name

end Bucket

namespace Request

/-- The same request without a timeline. -/
def untimed (r : Request) : Request :=
  { r with options := r.options.erase "timeline" }

end Request

namespace Config

/-- The same settings without a timeline. -/
def untimed (c : Config) : Config :=
  { c with defaultTimeline := none }

end Config

namespace Trend

/-- The point of a launch shows its count of each field. -/
theorem value?_recordPoint (fields : List String) (r : Record) (name : String) :
    (recordPoint fields r).value? name = if name ∈ fields then some (Decimal.ofInt (r.count name)) else none :=
  Chart.value?_foldl_setInt fields r.count (.ofRecord r) name

/-- The points along a timeline are those of its buckets. -/
theorem allPoints_alongTimeline (point : Bucket → Chart) (span : Span) (fields : List String)
    (records : List Record) : (alongTimeline point span fields records).allPoints =
      (Bucket.ofRecords records (.span span) fields).map point := by
  -- Each bucket has a key of its own.
  unfold alongTimeline
  rw [Content.allPoints_ofPoints, List.map_map]
  · rfl
  · rw [List.map_map]
    exact (Bucket.map_key_ofRecords records (.span span) fields).symm ▸ Period.keys_nodup (.span span) records

/-- By launch the values of a field make the exact sum of its counts. -/
theorem sum?_byLaunch {fields : List String} (records : List Record) {field : String} (named : field ∈ fields) :
    (counters none fields records).sum? field = some (exactOver records field) := by
  -- There is a point for each record, and it shows the count of that record.
  refine Content.sum?_eq (Content.allPoints_result _) fun r _ => Chart.integer?_of_value? ?_
  rw [value?_recordPoint, if_pos named]

/-- Along a timeline the values of a field make the exact sum of its counts, once for each mention of the field, as long
as this is a word. -/
theorem sum?_alongTimeline {fields : List String} (span : Span) {records : List Record} {field : String}
    (named : field ∈ fields) (fits : Word.Fits (fields.count field * exactOver records field)) :
    (counters (some span) fields records).sum? field = some (fields.count field * exactOver records field) := by
  have someField : fields ≠ [] := List.ne_nil_of_mem named
  have points : (counters (some span) fields records).allPoints =
      ((Period.span span).keys records).map fun key =>
        (Bucket.gathered fields key (records.filter ((Period.span span).keyOf · = key))).toChart := by
    rw [counters, allPoints_alongTimeline, Bucket.ofRecords_eq_map, List.map_map, Bucket.summed, if_neg someField]
    rfl
  -- No bucket has more of the counter than all records together, so each total is a word.
  have exact (key : String) :
      Word.wrap (fields.count field * exactOver (records.filter ((Period.span span).keyOf · = key)) field) =
        fields.count field * exactOver (records.filter ((Period.span span).keyOf · = key)) field := by
    have nonneg := exactOver_nonneg (records.filter ((Period.span span).keyOf · = key)) field
    have part := exactOver_filter_le ((Period.span span).keyOf · = key) records field
    refine Word.wrap_of_fits (Word.fits_of_nonneg (Int.mul_nonneg (Int.natCast_nonneg _) nonneg) ?_)
    exact (Int.mul_le_mul_of_nonneg_left part (Int.natCast_nonneg _)).trans fits.2
  -- Each bucket shows the sum of its own records, and these are all records.
  rw [Content.sum?_eq points fun key _ => Chart.integer?_of_value? (by
    rw [Bucket.value?_toChart, Bucket.get?_gathered, if_pos named, exact, Option.map_some])]
  unfold exactOver
  rw [List.sum_map_mul_left, sum_map_sum_filter (Period.keys_nodup (.span span) records) _ records
    fun r member => Period.keyOf_mem_keys_span span member]

end Trend

namespace Summary

/-- A summary of some launches with accepted fields shows the sums of its fields in one point. -/
theorem overall_eq_ok {job : Job} {fields : List String} (named : job.requiredFields = .ok fields)
    (nonempty : job.records ≠ []) : overall job =
      .ok (.result [fields.foldl (fun point field => point.setInt field (sumOver job.records field)) {}]) := by
  -- Behind the accepted fields there are launches to add up.
  simp only [overall, named, if_neg nonempty, Bind.bind, Except.bind]
  rfl

/-- The point of all launches together shows the sum of the counts of each field. -/
theorem integer?_overall {fields : List String} (records : List Record) {field : String} (named : field ∈ fields) :
    (fields.foldl (fun point field => point.setInt field (sumOver records field)) ({} : Chart)).integer? field =
      some (sumOver records field) := by
  -- A field that is mentioned again is set to the same sum again.
  refine Chart.integer?_of_value? ?_
  rw [Chart.value?_foldl_setInt, if_pos named]

end Summary

namespace Trend

/-- A trend whose fields and timeline are accepted shows the fields by launch or along the timeline, and nothing where
there are no launches. -/
theorem statistics_eq_ok_iff {job : Job} {content : Content} :
    statistics job = .ok content ↔ ∃ fields timeline, job.requiredFields = .ok fields ∧
      job.timeline? = .ok timeline ∧
      content = if job.records = [] then .empty else counters timeline fields job.records := by
  -- The fields are checked before the timeline, and the records are looked at behind both.
  simp only [statistics, bind_eq_ok_iff, exists_and_left]
  refine exists_congr fun fields => and_congr_right fun _ => exists_congr fun timeline => and_congr_right fun _ => ?_
  split <;> simp [Pure.pure, Except.pure, eq_comm]

/-- Without the option and without a default there is no timeline. -/
theorem timeline?_eq_none {job : Job} (unasked : job.request.option? "timeline" = none)
    (noDefault : job.config.defaultTimeline = none) : job.timeline? = .ok none := by
  -- Neither the option nor the default gives the text of a timeline.
  unfold Job.timeline?
  rw [unasked, noDefault]
  rfl

/-- An untimed request has no timeline. -/
theorem timeline?_untimed (widget : Widget) (request : Request) (config : Config) :
    (Job.ofRequest widget request.untimed config.untimed).timeline? = .ok none := by
  -- The option is erased, and so is the default.
  refine timeline?_eq_none ?_ rfl
  have erased := Table.get?_erase request.options "timeline" "timeline"
  rw [if_pos rfl] at erased
  exact congrArg (Option.bind · List.head?) erased

/-- A request for two counters of a launch by month. -/
def monthly : Request :=
  (Sample.trend Sample.twoCounters).withOption "timeline" "month"

/-- A request for one counter in two spellings by month. -/
def respelled : Request :=
  (Sample.trend Sample.twoSpellings).withOption "timeline" "month"

/-- Along a timeline a field has the sum it has by launch and over all launches, provided it is mentioned once or
never counted: a bucket adds a field as often as the request mentions it, under whatever spelling. This is so for each
field whose counts, taken as often as it is mentioned, make a word. -/
theorem sum?_eq_overall_iff {request : Request} {config : Config} {span : Span}
    (someRecords : request.limitedRecords ≠ []) (someFields : request.contentFields ≠ [])
    (valid : ∀ field ∈ request.contentFields, Field.isValid field = true)
    (timed : (Job.ofRequest .statisticTrend request config).timeline? = .ok (some span)) :
    ∃ (along byLaunch : Content) (overall : Chart),
      statistics (Job.ofRequest .statisticTrend request config) = .ok along ∧
      statistics (Job.ofRequest .statisticTrend request.untimed config.untimed) = .ok byLaunch ∧
      Summary.overall (Job.ofRequest .overallStatistics request config) = .ok (.result [overall]) ∧
      ∀ field ∈ request.contentFields.map Field.internal,
        Word.Fits ((request.contentFields.map Field.internal).count field * exactOver request.limitedRecords field) →
        ∃ total : Int, overall.integer? field = some total ∧ byLaunch.sum? field = some total ∧
          along.sum? field = some ((request.contentFields.map Field.internal).count field * total) ∧
          (along.sum? field = overall.integer? field ↔
            (request.contentFields.map Field.internal).count field = 1 ∨ total = 0) := by
  -- All three jobs read the same fields.
  have accepted (widget : Widget) := Job.requiredFields_ofRequest request widget config someFields valid
  have untimedAccepted := Job.requiredFields_ofRequest request.untimed .statisticTrend config.untimed
    someFields valid
  have untimed := timeline?_untimed .statisticTrend request config
  refine ⟨_, _, _, statistics_eq_ok_iff.2 ⟨_, _, accepted _, timed, (if_neg someRecords).symm⟩,
    statistics_eq_ok_iff.2 ⟨_, _, untimedAccepted, untimed, (if_neg someRecords).symm⟩,
    Summary.overall_eq_ok (accepted _) someRecords, fun field named fits => ?_⟩
  -- What is taken once is no greater than what is taken several times, so it is a word as well.
  have once : Word.Fits (exactOver request.limitedRecords field) := by
    have nonneg := exactOver_nonneg request.limitedRecords field
    have mentioned : 1 ≤ ((request.contentFields.map Field.internal).count field : Int) := by
      exact_mod_cast List.count_pos_iff.2 named
    exact Word.fits_of_nonneg nonneg ((le_mul_of_one_le_left nonneg mentioned).trans fits.2)
  have along := sum?_alongTimeline span named fits
  have overall := Summary.integer?_overall request.limitedRecords named
  rw [sumOver_of_fits once] at overall
  refine ⟨_, overall, sum?_byLaunch _ named, along, ?_⟩
  rw [Job.records_ofRequest, Job.records_ofRequest, along, overall, Option.some_inj]
  -- A number is a multiple of itself by one only, unless it is zero.
  constructor
  · intro same
    by_cases uncounted : exactOver request.limitedRecords field = 0
    · exact .inr uncounted
    · have single := Int.eq_one_of_mul_eq_self_left uncounted same
      exact .inl (by exact_mod_cast single)
  · rintro (single | uncounted)
    · rw [single, Int.natCast_one, one_mul]
    · rw [uncounted, mul_zero]

/-- Two fields, each mentioned once, have the same sums by month and over all launches. -/
theorem sum?_eq_overall_of_month : ∃ (along : Content) (overall : Chart),
    statistics (Job.ofRequest .statisticTrend monthly {}) = .ok along ∧
    Summary.overall (Job.ofRequest .overallStatistics monthly {}) = .ok (.result [overall]) ∧
    along.sum? Field.total = overall.integer? Field.total := by
  -- Each of the two counters is mentioned once.
  obtain ⟨along, _, overall, builtAlong, _, builtOverall, sums⟩ :=
    @sum?_eq_overall_iff monthly {} .month (by decide) (by decide) (by decide) (by decide)
  obtain ⟨_, _, _, _, agree⟩ := sums Field.total (by decide) (by decide)
  exact ⟨along, overall, builtAlong, builtOverall, agree.2 (.inl (by decide))⟩

/-- Two spellings of one counter have twice its sum along a timeline. -/
theorem sum?_ne_overall_of_twoSpellings : ∃ (along : Content) (overall : Chart),
    statistics (Job.ofRequest .statisticTrend respelled {}) = .ok along ∧
    Summary.overall (Job.ofRequest .overallStatistics respelled {}) = .ok (.result [overall]) ∧
    along.sum? Field.total = some 10 ∧ overall.integer? Field.total = some 5 := by
  -- Both spellings become the same field, which is therefore mentioned twice.
  have accepted (widget : Widget) := Job.requiredFields_ofRequest respelled widget {} (by decide) (by decide)
  have timed : (Job.ofRequest .statisticTrend respelled {}).timeline? = .ok (some .month) := by decide
  have named : Field.total ∈ respelled.contentFields.map Field.internal := by decide
  refine ⟨_, _, statistics_eq_ok_iff.2 ⟨_, _, accepted _, timed, (if_neg (by decide)).symm⟩,
    Summary.overall_eq_ok (accepted _) (by decide), ?_, ?_⟩
  · rw [sum?_alongTimeline _ named (by decide)]
    decide
  · rw [Summary.integer?_overall _ named]
    decide

end Trend
end Dashboard
