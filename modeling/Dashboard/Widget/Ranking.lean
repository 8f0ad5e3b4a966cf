import Dashboard.Statistics.Durations
import Dashboard.Statistics.Failures
import Dashboard.Statistics.Flakiness
import Dashboard.Widget.Job

/-! Rankings of test items: by switches of status, by failures and by duration. -/

namespace Dashboard.Ranking

/-- The key of the point that describes the launch of a ranking. -/
def lastLaunchKey : String := "lastLaunch"

/-- The key of the items with the most failures. -/
def mostFailedKey : String := "most_failed"

/-- Labels a ranking with its launch. -/
def label (job : Job) (name : String) (content : Content) : Content :=
  content.insert lastLaunchKey [.ofLaunch (job.rankedLaunch name)]

/-- The items with the fewest switches first, each under its id, and the launch. -/
def flaky : Strategy := fun job => do
  let name ← job.required Widget.launchOption
  if job.records = [] then return .empty
  let items := FlakyItem.rank job.records job.config.historyTopN.toNat
  return label job name (.ofPoints (items.map fun item => (item.id, item.toChart)))

/-- The items that most often had the status named by the first content field, and the launch. -/
def mostFailed : Strategy := fun job => do
  let name ← job.required Widget.launchOption
  let fields ← job.contentFields
  if job.records = [] then return .empty
  let items := FailingItem.rank job.records (criterion fields.head?) job.config.historyTopN.toNat
  return label job name (Grouped.empty.insert mostFailedKey (items.map FailingItem.toChart))

/-- The items that took longest, with one of the statuses that the content fields name. -/
def longest : Strategy := fun job => do
  -- The launch must be named, although this ranking does not show it.
  let _ ← job.required Widget.launchOption
  let statuses := criteria (← job.contentFields)
  if job.records = [] then return .empty
  let items := TimedItem.rank job.records statuses job.includeMethods job.config.historyTopN.toNat
  return .result (items.map TimedItem.toChart)

end Dashboard.Ranking
