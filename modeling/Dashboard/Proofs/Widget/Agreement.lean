import Dashboard.Proofs.Widget.Activity
import Dashboard.Proofs.Widget.Investigation

/-! Launches grouped by calendar interval and launches in buckets along a timeline: by day and by month both have the
same groups, with the same sums in them. -/

namespace Dashboard

open Calendar (Span)

/-- A content that has one point for each of some keys, in their order. -/
def Content.HasPoints (content : Content) (keys : List String) (point : String → Chart) : Prop :=
  content.entries = keys.map fun key => (key, [point key])

/-- Points under distinct keys make a content that has one point for each of them. -/
theorem Content.hasPoints_ofPoints {keys : List String} (distinct : keys.Nodup) (point : String → Chart) :
    (Content.ofPoints (keys.map fun key => (key, point key))).HasPoints keys point := by
  -- No two points fall under the same key.
  unfold HasPoints
  rw [entries_ofPoints, List.map_map]
  · rfl
  · rw [List.map_map]
    exact (List.map_id keys).symm ▸ distinct

namespace Trend

/-- Along a timeline there is a point for each bucket, made of the records of its key. -/
theorem hasPoints_alongTimeline (point : Bucket → Chart) (span : Span) {fields : List String} (someFields : fields ≠ [])
    (records : List Record) : (alongTimeline point span fields records).HasPoints ((Period.span span).keys records)
      fun key => point (Bucket.gathered fields key (records.filter ((Period.span span).keyOf · = key))) := by
  -- Each bucket holds what its key's records give, as the walk through the records leaves it.
  have points : (Bucket.ofRecords records (.span span) fields).map (fun bucket => (bucket.key, point bucket)) =
      ((Period.span span).keys records).map fun key =>
        (key, point (Bucket.gathered fields key (records.filter ((Period.span span).keyOf · = key)))) := by
    rw [Bucket.ofRecords_eq_map, Bucket.summed, if_neg someFields, List.map_map]
    apply List.map_congr_left
    intro key _
    simp
  unfold alongTimeline
  rw [points]
  exact Content.hasPoints_ofPoints (Period.keys_nodup (.span span) records) _

/-- A trend of launches without fields shows the counters of executions and defects along its timeline. -/
theorem run_launches {job : Job} {span : Span} (timed : job.timeline? = .ok (some span))
    (unnamed : job.request.contentFields = []) (nonempty : job.records ≠ []) : launches job =
      .ok (alongTimeline Bucket.toChart span (Field.executions ++ Field.defects) job.records) := by
  -- Without fields of its own the trend falls back on all counters.
  have none : job.contentFields = .ok [] := by
    unfold Job.contentFields
    rw [unnamed]
    rfl
  simp only [launches, none, timed, nonempty, if_true, if_false, Bind.bind, Except.bind, Pure.pure, Except.pure,
    counters]

/-- A trend of shares shows the shares of its buckets along its timeline. -/
theorem run_investigated {job : Job} {span : Span} (timed : job.timeline? = .ok (some span))
    (nonempty : job.records ≠ []) : investigated job =
      .ok (alongTimeline (fun bucket => Chart.setAll {} (Share.Investigation.ofCounts bucket.totals.count).values)
        span investigationFields job.records) := by
  simp only [investigated, timed, nonempty, if_false, Bind.bind, Except.bind, Pure.pure, Except.pure]

end Trend

/-- The shares of failures depend on four counters only. -/
theorem Share.Investigation.ofCounts_congr {count other : String → Int}
    (same : ∀ field ∈ Trend.investigationFields, count field = other field) : ofCounts count = ofCounts other := by
  -- The shares are made of the three decided counters and the undecided one.
  simp only [Trend.investigationFields, decidedFields, List.cons_append, List.nil_append, List.forall_mem_cons] at same
  obtain ⟨bug, issue, automation, untouched, -⟩ := same
  simp only [ofCounts, sumCounts, decidedFields, List.map_cons, List.map_nil, bug, issue, automation, untouched]

namespace Activity

/-- The points of one group under four widgets agree with each other and with the group's bucket. -/
structure AgreeAt (bucket : Bucket) (issues amount counters shares : Chart) : Prop where
  /-- The sums of defects are the counters along the timeline. -/
  sums : ∀ pair ∈ defectOutputs, issues.value? pair.1 = counters.value? pair.2
  /-- The shares are those of the counters. -/
  split : ∃ count : String → Int,
    (∀ pair ∈ defectOutputs, counters.value? pair.2 = some (Decimal.ofInt (count pair.2))) ∧
    (Share.Investigation.ofCounts count).ShownBy shares
  /-- The number of launches is the size of the bucket. -/
  size : amount.value? "count" = some (Decimal.ofNat bucket.size)

/-- Contents of four widgets agree when each has one point for each bucket of a timeline, in the order of the buckets,
and the points agree on every bucket. -/
def Agree (span : Span) (records : List Record) (issues amounts counters shares : Content) : Prop :=
  ∃ issuesAt amountAt countersAt sharesAt : String → Chart,
    issues.HasPoints ((Bucket.ofRecords records (.span span) []).map Bucket.key) issuesAt ∧
    amounts.HasPoints ((Bucket.ofRecords records (.span span) []).map Bucket.key) amountAt ∧
    counters.HasPoints ((Bucket.ofRecords records (.span span) []).map Bucket.key) countersAt ∧
    shares.HasPoints ((Bucket.ofRecords records (.span span) []).map Bucket.key) sharesAt ∧
    ∀ bucket ∈ Bucket.ofRecords records (.span span) [],
      AgreeAt bucket (issuesAt bucket.key) (amountAt bucket.key) (countersAt bucket.key) (sharesAt bucket.key)

/-- What is summed up from the same records agrees. -/
theorem agreeAt_of_gathered (fields : List String) (key : String) (records : List Record) {amount : Chart}
    (counted : amount.value? "count" = some (Decimal.ofNat records.length)) :
    AgreeAt (Bucket.gathered fields key records) (defectPoint records) amount
      (Bucket.gathered (Field.executions ++ Field.defects) key records).toChart
      (Chart.setAll {} (Share.Investigation.ofCounts
        (Bucket.gathered Trend.investigationFields key records).totals.count).values) := by
  -- No counter is asked for twice, so each is added up once for each record.
  have once : ∀ pair ∈ defectOutputs, (Field.executions ++ Field.defects).count pair.2 = 1 := by decide
  have shown : ∀ pair ∈ defectOutputs, (Bucket.gathered (Field.executions ++ Field.defects) key records).toChart.value?
      pair.2 = some (Decimal.ofInt (sumOver records pair.2)) := by
    intro pair member
    rw [Bucket.value?_toChart, Bucket.get?_gathered_of_once (once pair member), Option.map_some]
  constructor
  case sums =>
    intro pair member
    rw [shown pair member, value?_defectPoint records member]
  case split =>
    -- The shares are made of the totals of a bucket of its own, which has each of the four counters once.
    have onceEach : ∀ field ∈ Trend.investigationFields, Trend.investigationFields.count field = 1 := by decide
    have totals : ∀ field ∈ Trend.investigationFields,
        (Bucket.gathered Trend.investigationFields key records).totals.count field = sumOver records field := by
      intro field member
      unfold Table.count Table.counter?
      rw [Bucket.get?_gathered_of_once (onceEach field member)]
      rfl
    rw [Share.Investigation.ofCounts_congr totals]
    exact ⟨sumOver records, shown, Share.Investigation.shownBy_setAll _ _⟩
  case size =>
    rw [counted, Bucket.gathered_size]

/-- Grouped by day or by month, launches have the groups of a timeline, and the four widgets agree on each of them. -/
theorem run_agree {span : Span} (unweekly : span ≠ .week) {records : List Record} (nonempty : records ≠ [])
    {issuesJob amountsJob countersJob sharesJob : Job} (issuesBy : issuesJob.interval = .ok span)
    (amountsBy : amountsJob.interval = .ok span) (countersBy : countersJob.timeline? = .ok (some span))
    (unnamed : countersJob.request.contentFields = []) (sharesBy : sharesJob.timeline? = .ok (some span)) :
    ∃ issues amounts counters shares,
      defects { issuesJob with records } = .ok issues ∧ quantity { amountsJob with records } = .ok amounts ∧
      Trend.launches { countersJob with records } = .ok counters ∧
      Trend.investigated { sharesJob with records } = .ok shares ∧
      Agree span records issues amounts counters shares := by
  have grouped := RecordGroups.byInterval_eq_of_ne_week nonempty unweekly
  have distinct := Period.keys_nodup (.span span) records
  -- The points of the number of launches are chosen for all keys at once, so that they can be named below.
  choose amountAt made counted using fun key =>
    exists_quantityPoint unweekly key (records.filter ((Period.span span).keyOf · = key))
  have issues := @run_defects { issuesJob with records } span issuesBy nonempty _ grouped
  rw [List.map_map] at issues
  have amounts := @run_quantity { amountsJob with records } span amountsBy nonempty _ grouped _ _ _ _ rfl
    fun key _ => made key
  have counters := @Trend.run_launches { countersJob with records } span countersBy unnamed nonempty
  have shares := @Trend.run_investigated { sharesJob with records } span sharesBy nonempty
  refine ⟨_, _, _, _, issues, amounts, counters, shares, ?_⟩
  unfold Agree
  rw [Bucket.map_key_ofRecords]
  -- Each of the four has a point for every key, made of the records of that key.
  have issuesAt := Content.hasPoints_ofPoints distinct
    fun key => defectPoint (records.filter ((Period.span span).keyOf · = key))
  have countersAt := Trend.hasPoints_alongTimeline Bucket.toChart span
    (show Field.executions ++ Field.defects ≠ [] by decide) records
  have sharesAt := Trend.hasPoints_alongTimeline
    (fun bucket => Chart.setAll {} (Share.Investigation.ofCounts bucket.totals.count).values) span
    (show Trend.investigationFields ≠ [] by decide) records
  refine ⟨_, _, _, _, issuesAt, Content.hasPoints_ofPoints distinct amountAt, countersAt, sharesAt, ?_⟩
  -- Every bucket is what its records gather, and so are the points at its key.
  intro bucket member
  obtain ⟨-, shape⟩ := Bucket.eq_gathered_of_mem member
  rw [shape, Bucket.gathered_key]
  exact agreeAt_of_gathered _ _ _ (counted _)

/-- The job of a widget for the launches of two days by month, which an option asks for. -/
def leapMonth (widget : Widget) (option : String) : Job :=
  .ofRequest widget (({ widget := widget.key, records := Sample.leapRuns } : Request).withOption option "month") {}

/-- The four widgets agree on the launches of two days by month. -/
theorem run_agree_leapMonth : ∃ issues amounts counters shares,
    defects (leapMonth .launchesIssues "interval") = .ok issues ∧
    quantity (leapMonth .launchesQuantity "interval") = .ok amounts ∧
    Trend.launches (leapMonth .launchStatistics "timeline") = .ok counters ∧
    Trend.investigated (leapMonth .investigatedTrend "timeline") = .ok shares ∧
    Agree .month Sample.leapRuns issues amounts counters shares :=
  @run_agree .month (by decide) Sample.leapRuns (by decide) (leapMonth .launchesIssues "interval")
    (leapMonth .launchesQuantity "interval") (leapMonth .launchStatistics "timeline")
    (leapMonth .investigatedTrend "timeline") (by decide) (by decide) (by decide) (by decide) (by decide)

end Activity
end Dashboard
