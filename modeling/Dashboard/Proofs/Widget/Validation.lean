import Dashboard.Proofs.Widget.Activity
import Dashboard.Proofs.Widget.Registry

/-! Requests are checked without a look at their records: whether a request is refused, and why, depends on its widget,
its options, its fields and the configuration only. -/

namespace Dashboard

open Calendar (Span firstYear lastYear)

namespace Strategy

/-- Two outcomes are alike when both are refusals for the same reason, or both are contents. -/
inductive Alike : (outcome other : Except Failure Content) → Prop
  | refused (failure : Failure) : Alike (.error failure) (.error failure)
  | answered (content other : Content) : Alike (.ok content) (.ok other)

/-- Two answers are alike, whatever is in them. -/
theorem Alike.of_answers {outcome other : Except Failure Content} (answer : ∃ content, outcome = .ok content)
    (otherAnswer : ∃ content, other = .ok content) : Alike outcome other := by
  obtain ⟨content, rfl⟩ := answer
  obtain ⟨otherContent, rfl⟩ := otherAnswer
  exact .answered content otherContent

/-- Outcomes that begin with the same step are alike when they are alike behind whatever this step gives. -/
theorem alike_bind {α : Type} (step : Except Failure α) {next other : α → Except Failure Content}
    (behind : ∀ value, Alike (next value) (other value)) : Alike (step >>= next) (step >>= other) := by
  cases step with
  | error failure => exact .refused failure
  | ok value => exact behind value

/-- Whether there are records at all only decides between two contents. -/
theorem alike_ite {records others : List Record} (content other : Content) :
    Alike (if records = [] then .ok .empty else .ok content) (if others = [] then .ok .empty else .ok other) := by
  -- There is a content on either side, with records and without them.
  apply Alike.of_answers
  · split <;> exact ⟨_, rfl⟩
  · split <;> exact ⟨_, rfl⟩

end Strategy

/-- The job for another request with the same options and fields, and for records of its own. -/
def Job.forRequest (job : Job) (other : Request) (records : List Record) : Job :=
  { job with
    records
    request := { other with
      options := job.request.options
      contentFields := job.request.contentFields
      metadataFields := job.request.metadataFields } }

/-- A strategy that counts launches by calendar interval answers every job that has an interval, as long as no week of
its launches is cut off. -/
theorem Activity.Counts.exists_answer {job : Job} {strategy : Strategy} (counts : Counts job strategy) {span : Span}
    (asked : job.interval = .ok span) (inside : ∀ r ∈ job.records, firstYear < r.date.year ∧ r.date.year < lastYear) :
    ∃ content, strategy job = .ok content := by
  -- Without launches the answer is empty, and with launches it is that of any of their orders.
  by_cases empty : job.records = []
  · exact ⟨_, counts.unlaunched span asked empty⟩
  · obtain ⟨content, answered⟩ := counts.answered span asked empty inside
    exact ⟨content, answered job.records (.refl _)⟩

section

variable {job : Job} {other : Request} {others : List Record}
  (inside : ∀ r ∈ job.records, firstYear < r.date.year ∧ r.date.year < lastYear)
  (otherInside : ∀ r ∈ others, firstYear < r.date.year ∧ r.date.year < lastYear)
include inside otherInside

open Strategy

/-- Launches of two batches are counted by the same interval, or neither of them for the same reason. -/
theorem Activity.Counts.alike {strategy : Strategy} (counts : ∀ job, Counts job strategy) :
    Alike (strategy job) (strategy (job.forRequest other others)) := by
  -- The interval is read from the options, which are the same.
  have same : (job.forRequest other others).interval = job.interval := rfl
  cases asked : job.interval with
  | error failure =>
    rw [(counts _).refused failure asked, (counts _).refused failure (same.trans asked)]
    exact .refused failure
  | ok span =>
    exact .of_answers ((counts _).exists_answer asked inside) ((counts _).exists_answer (same.trans asked) otherInside)

/-- Each strategy refuses a job without regard to its records and to what its request says about their order and their
launch, and answers it when it accepts it. -/
theorem Widget.strategy_alike (widget : Widget) :
    Alike (widget.strategy job) (widget.strategy (job.forRequest other others)) := by
  -- Each strategy checks the options and fields one after another, none of which has been changed.
  cases widget with
  | statisticTrend => exact alike_bind job.requiredFields fun _ => alike_bind job.timeline? fun _ => alike_ite _ _
  | launchStatistics => exact alike_bind job.contentFields fun _ => alike_bind job.timeline? fun _ => alike_ite _ _
  | investigatedTrend => exact alike_bind job.timeline? fun _ => alike_ite _ _
  | casesTrend =>
    exact alike_bind job.requireMetadata fun _ => alike_bind job.contentFields fun _ =>
      alike_bind job.timeline? fun _ => alike_ite _ _
  | overallStatistics => exact alike_bind job.requiredFields fun _ => alike_ite _ _
  | notPassed | launchesComparison | passingRateSummary | uniqueLaunches => exact alike_ite _ _
  | launchesDuration =>
    show Alike (Summary.durations _) (Summary.durations _)
    rw [Summary.durations_eq, Summary.durations_eq]
    exact .answered _ _
  | launchesQuantity => exact Activity.Counts.alike inside otherInside Activity.counts_quantity
  | launchesIssues => exact Activity.Counts.alike inside otherInside Activity.counts_defects
  | cumulativeTrend =>
    exact alike_bind (job.required _) fun _ => alike_bind job.requiredFields fun _ => alike_ite _ _
  | healthCheckTable =>
    -- Without the attribute there are no rows, which is a content as well.
    refine alike_bind (job.required _) fun key => .of_answers ?_ ?_
    all_goals
      dsimp only
      split
      · exact ⟨_, rfl⟩
      · split <;> exact ⟨_, rfl⟩
  | flakyTestCases => exact alike_bind (job.required _) fun _ => alike_ite _ _
  | mostFailedTestCases | mostTimeConsuming =>
    exact alike_bind (job.required _) fun _ => alike_bind job.contentFields fun _ => alike_ite _ _

end

/-- Two requests are checked alike when they name the same widget, options and fields. -/
structure Request.CheckedAlike (request other : Request) : Prop where
  widget : request.widget = other.widget
  options : request.options = other.options
  contentFields : request.contentFields = other.contentFields
  metadataFields : request.metadataFields = other.metadataFields

/-- The job of a request is that of another one which is checked alike, given the other records. -/
theorem Request.CheckedAlike.ofRequest_eq {request other : Request} (alike : request.CheckedAlike other)
    (widget : Widget) (config : Config) : Job.ofRequest widget other config =
      (Job.ofRequest widget request config).forRequest other other.limitedRecords := by
  -- What the two requests may differ in is what the job takes from the other request.
  unfold Job.ofRequest Job.forRequest
  rw [alike.options, alike.contentFields, alike.metadataFields]

namespace Registry

/-- Requests that are checked alike are refused for the same reason, or both answered, whatever their records are. -/
theorem dispatch_alike {request other : Request} (alike : request.CheckedAlike other) (config : Config)
    (inside : ∀ r ∈ request.limitedRecords, firstYear < r.date.year ∧ r.date.year < lastYear)
    (otherInside : ∀ r ∈ other.limitedRecords, firstYear < r.date.year ∧ r.date.year < lastYear) :
    (∃ failure, standard.dispatch request config = .error failure ∧ standard.dispatch other config = .error failure) ∨
    ∃ content otherContent, standard.dispatch request config = .ok content ∧
      standard.dispatch other config = .ok otherContent := by
  -- An unknown widget is refused for its name, and a known one by its strategy.
  cases known : Widget.ofKey? request.widget with
  | none =>
    rw [dispatch_standard_of_unknown known, dispatch_standard_of_unknown (alike.widget ▸ known), alike.widget]
    exact .inl ⟨_, rfl, rfl⟩
  | some widget =>
    rw [dispatch_standard_of_known known, dispatch_standard_of_known (alike.widget ▸ known), alike.ofRequest_eq]
    have both := @Widget.strategy_alike (Job.ofRequest widget request config) other _ inside otherInside widget
    -- The agreement is about the outcomes of the two jobs, which get names here.
    generalize widget.strategy (Job.ofRequest widget request config) = outcome at both ⊢
    generalize widget.strategy ((Job.ofRequest widget request config).forRequest _ _) = otherOutcome at both ⊢
    cases both with
    | refused failure => exact .inl ⟨failure, rfl, rfl⟩
    | answered content otherContent => exact .inr ⟨_, _, rfl, rfl⟩

/-- A request without considered records is answered, if at all, with an empty content. -/
theorem dispatch_of_empty {request : Request} {config : Config} {content : Content}
    (empty : request.limitedRecords = []) (answered : standard.dispatch request config = .ok content) :
    content = .empty := by
  obtain ⟨widget, built, -, made, rfl⟩ := dispatch_standard_eq_ok_iff.1 answered
  rw [Widget.strategy_of_empty empty built made]
  -- There is nothing to rename and nothing to turn around.
  unfold present
  split <;> rfl

/-- Validation does not depend on the data. Requests for the same widget with the same options and fields are refused
for the same reason or both answered, an answer without considered records has no groups, and records beyond the
quantity do not change the answer. -/
theorem dispatch_validates {request : Request} (config : Config)
    (inside : ∀ r ∈ request.limitedRecords, firstYear < r.date.year ∧ r.date.year < lastYear) :
    (∀ other : Request, request.CheckedAlike other →
      (∀ r ∈ other.limitedRecords, firstYear < r.date.year ∧ r.date.year < lastYear) →
      (∃ failure, standard.dispatch request config = .error failure ∧
        standard.dispatch other config = .error failure) ∨
      ∃ content otherContent, standard.dispatch request config = .ok content ∧
        standard.dispatch other config = .ok otherContent) ∧
    (request.limitedRecords = [] → ∀ content, standard.dispatch request config = .ok content → content = .empty) ∧
    (∀ quantity records, request.quantity = some quantity →
      records.take quantity.toNat = request.records.take quantity.toNat →
      standard.dispatch { request with records } config = standard.dispatch request config) := by
  refine ⟨fun other alike => dispatch_alike alike config inside, fun empty _ => dispatch_of_empty empty, ?_⟩
  intro quantity records limited same
  -- The request reads its records through the limited ones only.
  apply dispatch_congr
  simp only [Request.limitedRecords, limited]
  exact same

/-- A request for the launches around New Year by week is answered, as it would be without any of them, and the launch
beyond the quantity does not matter. -/
theorem dispatch_validates_newYear : ∃ content,
    standard.dispatch { Activity.weekly with quantity := some 1 } {} = .ok content ∧
    standard.dispatch { Activity.weekly with quantity := some 1, records := Activity.newYearRuns.take 1 } {} =
      .ok content := by
  obtain ⟨alike, -, beyond⟩ := @dispatch_validates { Activity.weekly with quantity := some 1 } {} (by decide)
  have unseen := beyond 1 (Activity.newYearRuns.take 1) rfl (by decide)
  -- Without records the request is answered with nothing, so it is answered with them, too.
  have without : standard.dispatch { Activity.weekly with records := [], quantity := some 0 } {} = .ok .empty := rfl
  rcases alike { Activity.weekly with records := [], quantity := some 0 } ⟨rfl, rfl, rfl, rfl⟩ (by decide) with
    ⟨failure, -, failed⟩ | ⟨content, -, answered, -⟩
  · rw [without] at failed
    cases failed
  · exact ⟨content, answered, unseen.trans answered⟩

end Registry
end Dashboard
