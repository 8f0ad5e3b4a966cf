import Dashboard.Proofs.Widget.Activity
import Dashboard.Proofs.Widget.Registry

/-! Requests for the same launches in another order: which widgets give the same content, and which do so as long as no
two launches start at the same moment. -/

namespace Dashboard

open Calendar (Span firstYear lastYear)

namespace Job

/-- A job that adds its launches up: each sum, share or number is one over all of them, or over those of one day, week
or month. -/
def Aggregates (job : Job) : Prop :=
  match job.widget with
  | .statisticTrend | .launchStatistics | .investigatedTrend => job.timeline? ≠ .ok none
  | .launchesQuantity | .launchesIssues | .overallStatistics | .passingRateSummary => True
  | _ => False

/-- A job that puts its launches into the order of time by itself. -/
def Chronicles (job : Job) : Prop :=
  match job.widget with
  | .casesTrend => job.timeline? ≠ .ok none
  | .launchesComparison | .cumulativeTrend => True
  | _ => False

end Job

section

variable {records others : List Record} (perm : others.Perm records)
include perm

/-- Whether there is anything to be built from does not depend on the order either. -/
theorem ite_eq_nil_perm {nothing content other : Except Failure Content} (same : other = content) :
    (if others = [] then nothing else other) = if records = [] then nothing else content := by
  have alike : others = [] ↔ records = [] := by
    rw [← List.length_eq_zero_iff, perm.length_eq, List.length_eq_zero_iff]
  simp only [alike, same]

/-- Along a timeline the points do not depend on the order of the records. -/
theorem Trend.alongTimeline_perm (point : Bucket → Chart) (span : Span) (fields : List String) :
    alongTimeline point span fields others = alongTimeline point span fields records := by
  -- The buckets are the same, and the points are made of them.
  unfold alongTimeline
  rw [Bucket.ofRecords_span_perm perm]

/-- Counters along a timeline do not depend on the order of the records. -/
theorem Trend.counters_perm {timeline : Option Span} (timed : timeline ≠ none) (fields : List String) :
    counters timeline fields others = counters timeline fields records := by
  -- Only by launch the points would follow the records.
  cases timeline with
  | none => exact absurd rfl timed
  | some span => exact alongTimeline_perm perm Bucket.toChart span fields

end

section

variable {job : Job} {others : List Record} (perm : others.Perm job.records)
include perm

/-- Launches are counted alike in whatever order they come. -/
theorem Activity.Counts.strategy_perm {strategy : Strategy} (counts : ∀ job, Counts job strategy)
    (inside : ∀ r ∈ job.records, firstYear < r.date.year ∧ r.date.year < lastYear) :
    strategy { job with records := others } = strategy job := by
  -- The interval is read without a look at the launches, and the answer was shown to be the same for every order.
  cases asked : job.interval with
  | error failure =>
    rw [(counts job).refused failure asked]
    exact (counts { job with records := others }).refused failure asked
  | ok span =>
    by_cases empty : job.records = []
    · rw [empty] at perm
      rw [perm.eq_nil, ← empty]
    · obtain ⟨content, answered⟩ := (counts job).answered span asked empty inside
      rw [answered others perm]
      exact (answered job.records (.refl _)).symm

/-- What is added up does not depend on the order of the launches. -/
theorem Job.strategy_perm_of_aggregates (aggregates : job.Aggregates)
    (inside : ∀ r ∈ job.records, firstYear < r.date.year ∧ r.date.year < lastYear) :
    job.widget.strategy { job with records := others } = job.widget.strategy job := by
  obtain ⟨widget, request, records, config⟩ := job
  -- Buckets by calendar, counts by interval and sums over all launches each have a lemma of their own.
  cases widget with
  | statisticTrend =>
    refine bind_congr_ok fun fields _ => bind_congr_ok fun timeline timed => ite_eq_nil_perm perm ?_
    exact congrArg Except.ok (Trend.counters_perm perm (fun none => aggregates (none ▸ timed)) fields)
  | launchStatistics =>
    refine bind_congr_ok fun asked _ => bind_congr_ok fun timeline timed => ite_eq_nil_perm perm ?_
    exact congrArg Except.ok (Trend.counters_perm perm (fun none => aggregates (none ▸ timed)) _)
  | investigatedTrend =>
    refine bind_congr_ok fun timeline timed => ite_eq_nil_perm perm ?_
    cases timeline with
    | none => exact absurd timed aggregates
    | some span => exact congrArg Except.ok (Trend.alongTimeline_perm perm _ span _)
  | launchesQuantity => exact Activity.Counts.strategy_perm perm Activity.counts_quantity inside
  | launchesIssues => exact Activity.Counts.strategy_perm perm Activity.counts_defects inside
  | overallStatistics =>
    refine bind_congr_ok fun fields _ => ite_eq_nil_perm perm ?_
    simp only [sumOver_perm perm]
  | passingRateSummary =>
    refine ite_eq_nil_perm perm ?_
    simp only [sumOver_perm perm]
  -- The others are no jobs of this kind.
  | notPassed | casesTrend | launchesComparison | launchesDuration | uniqueLaunches | cumulativeTrend
  | healthCheckTable | flakyTestCases | mostFailedTestCases | mostTimeConsuming => cases aggregates

/-- Where no two launches start together, a job that goes by the order of time gives the same content. -/
theorem Job.strategy_perm_of_chronicles (chronicles : job.Chronicles)
    (distinct : (job.records.map Record.start).Nodup) :
    job.widget.strategy { job with records := others } = job.widget.strategy job := by
  obtain ⟨widget, request, records, config⟩ := job
  -- Such a job sorts its launches, and there is only one order to sort them into.
  cases widget with
  | casesTrend =>
    refine bind_congr_ok fun _ _ => bind_congr_ok fun fields _ => bind_congr_ok fun timeline timed =>
      ite_eq_nil_perm perm ?_
    cases timeline with
    | none => exact absurd timed chronicles
    | some span => simp only [maxByDate_span_perm perm distinct]
  | launchesComparison =>
    refine ite_eq_nil_perm perm ?_
    simp only [Record.newestFirst_perm perm distinct]
  | cumulativeTrend =>
    refine bind_congr_ok fun key _ => bind_congr_ok fun fields _ => ite_eq_nil_perm perm ?_
    simp only [Record.oldestFirst_perm perm distinct]
  -- The others are no jobs of this kind.
  | statisticTrend | launchStatistics | investigatedTrend | notPassed | launchesDuration | passingRateSummary
  | overallStatistics | launchesQuantity | launchesIssues | uniqueLaunches | healthCheckTable | flakyTestCases
  | mostFailedTestCases | mostTimeConsuming => cases chronicles

end

namespace Registry

/-- The order in which launches are fetched does not matter to a widget that adds them up, and neither, as long as no
two of them start together, to one that goes by the order of time. -/
theorem dispatch_perm {request : Request} {config : Config} {widget : Widget} {others : List Record}
    (named : request.widget = widget.key) (unlimited : request.quantity = none)
    (inside : ∀ r ∈ request.records, firstYear < r.date.year ∧ r.date.year < lastYear)
    (perm : others.Perm request.records)
    (unordered : (Job.ofRequest widget request config).Aggregates ∨
      (Job.ofRequest widget request config).Chronicles ∧ (request.records.map Record.start).Nodup) :
    standard.dispatch { request with records := others } config = standard.dispatch request config := by
  -- Without a limit all records are considered, in whatever order they are given.
  have known : Widget.ofKey? request.widget = some widget := named ▸ widget.ofKey?_key
  have all : ∀ records, { request with records }.limitedRecords = records := by
    intro records
    simp only [Request.limitedRecords, unlimited]
  have considered : (Job.ofRequest widget request config).records = request.records := all request.records
  have built : widget.strategy { Job.ofRequest widget request config with records := others } =
      widget.strategy (Job.ofRequest widget request config) := by
    rw [← considered] at perm inside unordered
    rcases unordered with aggregates | ⟨chronicles, distinct⟩
    · exact Job.strategy_perm_of_aggregates perm aggregates inside
    · exact Job.strategy_perm_of_chronicles perm chronicles distinct
  -- The job of the other request has its records, and no strategy looks at what else that request holds.
  have job : widget.strategy (Job.ofRequest widget { request with records := others } config) =
      widget.strategy { Job.ofRequest widget request config with records := others } := by
    rw [← widget.strategy_withRecords { Job.ofRequest widget request config with records := others } others]
    unfold Job.ofRequest
    rw [all]
  rw [dispatch_standard_of_known known, @dispatch_standard_of_known { request with records := others } widget known,
    job, built]
  rfl

/-- Two launches around New Year are counted by week and compared with each other in whichever order they come. -/
theorem dispatch_perm_newYear :
    standard.dispatch { Activity.weekly with records := Activity.newYearRuns.reverse } {} =
      standard.dispatch Activity.weekly {} ∧
    standard.dispatch { Activity.weekly with
      widget := "launches_comparison", records := Activity.newYearRuns.reverse } {} =
      standard.dispatch { Activity.weekly with widget := "launches_comparison" } {} :=
  ⟨@dispatch_perm Activity.weekly {} .launchesQuantity _ rfl rfl (by decide) (List.reverse_perm _) (.inl trivial),
    @dispatch_perm { Activity.weekly with widget := "launches_comparison" } {} .launchesComparison _ rfl rfl (by decide)
      (List.reverse_perm _) (.inr ⟨trivial, by decide⟩)⟩

end Registry
end Dashboard
