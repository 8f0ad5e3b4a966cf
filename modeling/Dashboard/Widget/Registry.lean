import Dashboard.Widget.Activity
import Dashboard.Widget.Attributes
import Dashboard.Widget.Cases
import Dashboard.Widget.Presentation
import Dashboard.Widget.Ranking
import Dashboard.Widget.Summary
import Dashboard.Widget.Trend

/-! The registry of strategies, and the way of a request through it. -/

namespace Dashboard

/-- The strategy made for a widget. -/
def Widget.strategy : Widget → Strategy
  | statisticTrend => Trend.statistics
  | launchStatistics => Trend.launches
  | investigatedTrend => Trend.investigated
  | notPassed => Trend.notPassed
  | casesTrend => Cases.trend
  | launchesComparison => Summary.comparison
  | launchesDuration => Summary.durations
  | passingRateSummary => Summary.passingRate
  | overallStatistics => Summary.overall
  | launchesQuantity => Activity.quantity
  | launchesIssues => Activity.defects
  | uniqueLaunches => Activity.unique
  | cumulativeTrend => Attributes.cumulative
  | healthCheckTable => Attributes.health
  | flakyTestCases => Ranking.flaky
  | mostFailedTestCases => Ranking.mostFailed
  | mostTimeConsuming => Ranking.longest

/-- The strategies of the widgets that can be built. -/
structure Registry where
  strategy? : Widget → Option Strategy

namespace Registry

/-- No widget can be built. -/
def empty : Registry := ⟨fun _ => none⟩

/-- Every widget is built by the strategy made for it. -/
def standard : Registry := ⟨fun widget => some widget.strategy⟩

/-- Registers a strategy in the place of an earlier one for the same widget. -/
def register (registry : Registry) (widget : Widget) (strategy : Strategy) : Registry :=
  ⟨fun w => if w = widget then some strategy else registry.strategy? w⟩

/-- Whether a widget can be built. -/
def contains (registry : Registry) (widget : Widget) : Bool :=
  (registry.strategy? widget).isSome

/-- The widgets that can be built, in the order in which they are listed. -/
def widgets (registry : Registry) : List Widget :=
  Widget.all.filter registry.contains

/-- The widget that a request names, with the strategy that builds it. -/
def resolve (registry : Registry) (key : String) : Except Failure (Widget × Strategy) :=
  match (Widget.ofKey? key).bind fun widget => (registry.strategy? widget).map (widget, ·) with
  | some found => .ok found
  | none => .error (.unknownWidget key)

/-- The content of a request, ready for presentation. -/
def dispatch (registry : Registry) (request : Request) (config : Config) : Except Failure Content := do
  let (widget, strategy) ← registry.resolve request.widget
  let content ← strategy (Job.ofRequest widget request config)
  pure (present widget request config content)

end Registry
end Dashboard
