import Dashboard.Proofs.Widget.Job
import Dashboard.Widget.Registry

/-! What an answered request was answered with: the content that its widget's strategy built, ready for presentation. -/

namespace Dashboard

/-- Durations are always shown, in a series or, where no launch has ended, in none. -/
theorem Summary.durations_eq (job : Job) : durations job =
    .ok (if job.records.filterMap durationPoint? = [] then .empty
      else .result (job.records.filterMap durationPoint?)) := by
  -- The series is made in one branch and left out in the other, and neither of them is a failure.
  unfold durations
  dsimp only
  split <;> rfl

namespace Widget

/-- A widget is found by its key. -/
theorem ofKey?_key (widget : Widget) : ofKey? widget.key = some widget := by
  -- No two widgets have the same key.
  cases widget <;> rfl

/-- A strategy reads the records of its job, and not those that the request holds besides them. -/
theorem strategy_withRecords (widget : Widget) (job : Job) (records : List Record) :
    widget.strategy { job with request := { job.request with records } } = widget.strategy job := by
  -- No strategy looks at the records of the request behind those of its job.
  cases widget <;> rfl

/-- Where there are no records, an answer is an empty content. -/
theorem strategy_of_empty {widget : Widget} {job : Job} (empty : job.records = []) :
    GivesOnly (· = .empty) (widget.strategy job) := by
  -- Each strategy asks for the records behind its checks, and the durations of no launches are an empty series.
  have nothing {step : Except Failure Content} :
      GivesOnly (· = .empty) (if job.records = [] then .ok .empty else step) := by
    rw [if_pos empty]
    exact givesOnly_ok rfl
  cases widget with
  | launchesDuration =>
    show GivesOnly _ (Summary.durations job)
    rw [Summary.durations_eq, empty]
    exact givesOnly_ok rfl
  -- The strategies differ in how many checks they make before: none, one, two or three.
  | notPassed | launchesComparison | passingRateSummary | uniqueLaunches => exact nothing
  | investigatedTrend | overallStatistics | launchesQuantity | launchesIssues | healthCheckTable | flakyTestCases =>
    exact givesOnly_bind fun _ _ => nothing
  | statisticTrend | launchStatistics | cumulativeTrend | mostFailedTestCases | mostTimeConsuming =>
    exact givesOnly_bind fun _ _ => givesOnly_bind fun _ _ => nothing
  | casesTrend => exact givesOnly_bind fun _ _ => givesOnly_bind fun _ _ => givesOnly_bind fun _ _ => nothing

end Widget

namespace Registry

/-- The standard registry knows a widget by its key and builds it by the strategy made for it. -/
theorem resolve_standard_eq_ok_iff {key : String} {widget : Widget} {strategy : Strategy} :
    standard.resolve key = .ok (widget, strategy) ↔ Widget.ofKey? key = some widget ∧ widget.strategy = strategy := by
  -- The standard registry has a strategy for each widget that it knows.
  unfold resolve
  cases known : Widget.ofKey? key with
  | none => simp
  | some found =>
    simp only [standard, Option.bind_some, Option.map_some, Except.ok.injEq, Prod.mk.injEq, Option.some.injEq]
    exact and_congr_right fun same => by rw [same]

/-- A request is answered exactly when there is a content for its job, and then with this content as presented. -/
theorem dispatch_standard_eq_ok_iff {request : Request} {config : Config} {content : Content} :
    standard.dispatch request config = .ok content ↔ ∃ widget built, Widget.ofKey? request.widget = some widget ∧
      widget.strategy (Job.ofRequest widget request config) = .ok built ∧
      present widget request config built = content := by
  -- A request fails by its widget or by its job; the presentation cannot fail.
  unfold dispatch
  cases resolved : standard.resolve request.widget with
  | error failure =>
    have unknown : ∀ widget, Widget.ofKey? request.widget ≠ some widget := by
      intro widget known
      have accepted := resolve_standard_eq_ok_iff.2 ⟨known, rfl⟩
      rw [resolved] at accepted
      cases accepted
    simp [unknown, Bind.bind, Except.bind]
  | ok found =>
    obtain ⟨widget, strategy⟩ := found
    obtain ⟨known, rfl⟩ := resolve_standard_eq_ok_iff.1 resolved
    -- The name of a widget is that of one widget only.
    have only : ∀ other, Widget.ofKey? request.widget = some other ↔ widget = other := by simp [known]
    cases built : widget.strategy (Job.ofRequest widget request config) with
    | error failure => simp [only, built, Bind.bind, Except.bind]
    | ok made => simp [only, built, Bind.bind, Except.bind, Pure.pure, Except.pure]

/-- A request that names a widget has the content or the failure of its job. -/
theorem dispatch_standard_of_known {request : Request} {widget : Widget}
    (known : Widget.ofKey? request.widget = some widget) (config : Config) : standard.dispatch request config =
      (widget.strategy (Job.ofRequest widget request config)).map (present widget request config) := by
  have resolved := resolve_standard_eq_ok_iff.2 ⟨known, rfl⟩
  simp only [dispatch, resolved, Bind.bind, Except.bind, Pure.pure, Except.pure]
  cases widget.strategy (Job.ofRequest widget request config) <;> rfl

/-- A request for a widget is answered exactly when there is a content for its job, and then with this content in the
caller's names and order. -/
theorem dispatch_standard_eq_ok_iff_of_named {request : Request} {widget : Widget}
    (named : request.widget = widget.key) {config : Config} {content : Content} :
    standard.dispatch request config = .ok content ↔ ∃ built,
      widget.strategy (Job.ofRequest widget request config) = .ok built ∧
      present widget request config built = content := by
  simp [dispatch_standard_eq_ok_iff, named, Widget.ofKey?_key]

/-- Where no widget has the name, the request fails for this name. -/
theorem dispatch_standard_of_unknown {request : Request} (unknown : Widget.ofKey? request.widget = none)
    (config : Config) : standard.dispatch request config = .error (.unknownWidget request.widget) := by
  unfold dispatch resolve
  rw [unknown]
  rfl

/-- The answer to a request depends on the considered records only, not on those that are left out. -/
theorem dispatch_congr {request : Request} {records others : List Record}
    (same : { request with records }.limitedRecords = { request with records := others }.limitedRecords)
    (config : Config) : standard.dispatch { request with records } config =
      standard.dispatch { request with records := others } config := by
  cases known : Widget.ofKey? request.widget with
  | none =>
    rw [@dispatch_standard_of_unknown { request with records } known,
      @dispatch_standard_of_unknown { request with records := others } known]
  | some widget =>
    -- The two jobs have the same records, and what else their requests hold is not read.
    have built : widget.strategy (Job.ofRequest widget { request with records } config) =
        widget.strategy (Job.ofRequest widget { request with records := others } config) := by
      rw [← widget.strategy_withRecords _ others]
      unfold Job.ofRequest
      rw [same]
    rw [@dispatch_standard_of_known { request with records } widget known,
      @dispatch_standard_of_known { request with records := others } widget known, built]
    rfl

end Registry
end Dashboard
