/-! The widgets of a dashboard. -/

namespace Dashboard

/-- A widget that the engine can build. -/
inductive Widget where
  | statisticTrend
  | launchStatistics
  | investigatedTrend
  | notPassed
  | casesTrend
  | launchesComparison
  | launchesDuration
  | passingRateSummary
  | overallStatistics
  | launchesQuantity
  | launchesIssues
  | uniqueLaunches
  | cumulativeTrend
  | healthCheckTable
  | flakyTestCases
  | mostFailedTestCases
  | mostTimeConsuming
deriving DecidableEq

namespace Widget

/-- All widgets in the order in which they are listed. -/
def all : List Widget := [
  statisticTrend, launchStatistics, investigatedTrend, notPassed, casesTrend, launchesComparison,
  launchesDuration, passingRateSummary, overallStatistics, launchesQuantity, launchesIssues,
  uniqueLaunches, cumulativeTrend, healthCheckTable, flakyTestCases, mostFailedTestCases,
  mostTimeConsuming]

/-- The key by which requests name a widget. -/
def key : Widget → String
  | statisticTrend => "statistic_trend"
  | launchStatistics => "launch_statistics"
  | investigatedTrend => "investigated_trend"
  | notPassed => "not_passed"
  | casesTrend => "cases_trend"
  | launchesComparison => "launches_comparison"
  | launchesDuration => "launches_duration"
  | passingRateSummary => "passing_rate_summary"
  | overallStatistics => "overall_statistics"
  | launchesQuantity => "launches_quantity"
  | launchesIssues => "launches_issues"
  | uniqueLaunches => "unique_launches"
  | cumulativeTrend => "cumulative_trend"
  | healthCheckTable => "health_check_table"
  | flakyTestCases => "flaky_test_cases"
  | mostFailedTestCases => "most_failed_test_cases"
  | mostTimeConsuming => "most_time_consuming"

/-- The widget with a key. -/
def ofKey? (key : String) : Option Widget :=
  all.find? (·.key = key)

/-- The option that says by which calendar interval launches are counted. -/
def intervalOption : String := "interval"

/-- The option that names the attribute whose values a cumulative trend follows. -/
def attributeOption : String := "prefix"

/-- The option that names the attribute whose values a health check lists. -/
def healthOption : String := "attributeKey"

/-- The option that names the launch whose items are ranked. -/
def launchOption : String := "launchNameFilter"

/-- The options that a widget cannot be built without. -/
def requiredOptions : Widget → List String
  | launchesQuantity | launchesIssues => [intervalOption]
  | cumulativeTrend => [attributeOption]
  | healthCheckTable => [healthOption]
  | flakyTestCases | mostFailedTestCases | mostTimeConsuming => [launchOption]
  | _ => []

/-- Whether a widget puts its points into their final order by itself. -/
def ordersItself : Widget → Bool
  | cumulativeTrend | healthCheckTable | launchesComparison
  | flakyTestCases | mostFailedTestCases | mostTimeConsuming => true
  | _ => false

end Widget
end Dashboard
