import Dashboard.Proofs.Grouped
import Dashboard.Proofs.Statistics.Flakiness
import Dashboard.Proofs.Widget.Presentation

/-! The widget of flaky items: each ranked item is shown under its id, whatever the others are called, and the launch
under a key that is kept for it. -/

namespace Dashboard.Ranking

/-- The point of a ranked item as it is presented. -/
def presentedItem (fields : List String) (item : FlakyItem) : Chart :=
  item.toChart.renameFields fields

/-- A presented point tells its item by name and id. -/
theorem bare_presentedItem (fields : List String) (item : FlakyItem) :
    (presentedItem fields item).bare = { name := some item.name, id := some item.id } := by
  -- Renaming and setting values leave the name and the id as they are.
  unfold presentedItem FlakyItem.toChart
  rw [Chart.bare_renameFields, Chart.bare_setAll]
  rfl

/-- A content shows a ranking when its keys are the ids of the items in the order of first mention, with the key of the
launch behind them unless it is one of the ids. Under each other id stand the items of this id in the order of the
ranking, and under the key of the launch stands the launch alone, so that no item of another id is lost. -/
structure ShowsRanking (content : Content) (fields : List String) (items : List FlakyItem) (launch : LaunchRef) :
    Prop where
  keys : content.keys =
    (items.map (·.id)).eraseDups ++ if lastLaunchKey ∈ items.map (·.id) then [] else [lastLaunchKey]
  series : ∀ id, id ≠ lastLaunchKey → content.get? id =
    if id ∈ items.map (·.id) then some ((items.filter (·.id = id)).map (presentedItem fields)) else none
  labelled : content.get? lastLaunchKey = some [.ofLaunch launch]
  complete : content.allPoints.Perm
    (.ofLaunch launch :: (items.filter (·.id ≠ lastLaunchKey)).map (presentedItem fields))

/-- The series of a labelled ranking under a key. -/
def labelledSeries (point : FlakyItem → Chart) (items : List FlakyItem) (launch : LaunchRef) (key : String) :
    List Chart :=
  if key = lastLaunchKey then [.ofLaunch launch] else (items.filter (·.id = key)).map point

/-- The launch of a ranking is put where an item has its key, or else to the end. -/
theorem entries_label (job : Job) (name : String) (items : List FlakyItem) :
    (label job name (.ofPoints (items.map fun item => (item.id, item.toChart)))).entries =
      (items.map (·.id) ++ [lastLaunchKey]).eraseDups.map fun key =>
        (key, labelledSeries FlakyItem.toChart items (job.rankedLaunch name) key) := by
  -- Before the label the series are those of the ids, and the series that the label replaces may be one of them.
  have pushed : (Content.ofPoints (items.map fun item => (item.id, item.toChart))).entries =
      (items.map (·.id)).eraseDups.map fun key => (key, (items.filter (·.id = key)).map FlakyItem.toChart) := by
    refine (Grouped.entries_foldl_push _).trans ?_
    simp only [List.map_map, List.filter_map, Function.comp_def]
  have unused : lastLaunchKey ∉ items.map (·.id) →
      (items.filter (·.id = lastLaunchKey)).map FlakyItem.toChart = [] := by
    intro fresh
    rw [List.map_eq_nil_iff, List.filter_eq_nil_iff]
    intro item member
    simpa using ne_of_mem_of_not_mem (List.mem_map_of_mem member) fresh
  -- The label takes the place of the series under its key, and all other series stay.
  unfold label
  rw [Grouped.insert, pushed, Grouped.alterEntry_eraseDups unused]
  rfl

/-- A presented ranking has the presented items and the launch as it is, which has no values to be renamed. -/
theorem entries_renameFields_label (job : Job) (name : String) (fields : List String) (items : List FlakyItem) :
    ((label job name (.ofPoints (items.map fun item => (item.id, item.toChart)))).renameFields fields).entries =
      (items.map (·.id) ++ [lastLaunchKey]).eraseDups.map fun key =>
        (key, labelledSeries (presentedItem fields) items (job.rankedLaunch name) key) := by
  unfold Content.renameFields Grouped.mapSeries
  -- Every series is renamed by itself, so that the keys stay.
  rw [entries_label, List.map_map]
  refine List.map_congr_left fun key _ => ?_
  simp only [Function.comp_apply, labelledSeries]
  split
  · rw [List.map_singleton, Chart.renameFields_of_empty rfl]
  · rw [List.map_map]
    rfl

/-- Of all series together the launch is one point, and the others are those of the items with another id. -/
theorem flatMap_labelledSeries_perm (point : FlakyItem → Chart) (items : List FlakyItem) (launch : LaunchRef) :
    ((items.map (·.id) ++ [lastLaunchKey]).eraseDups.flatMap (labelledSeries point items launch)).Perm
      (.ofLaunch launch :: (items.filter (·.id ≠ lastLaunchKey)).map point) := by
  have distinct := nodup_eraseDups (items.map (·.id) ++ [lastLaunchKey])
  have listed : ∀ key, key ∈ (items.map (·.id) ++ [lastLaunchKey]).eraseDups ↔
      key ∈ items.map (·.id) ∨ key = lastLaunchKey := by simp
  generalize (items.map (·.id) ++ [lastLaunchKey]).eraseDups = keys at distinct listed ⊢
  -- The key of the launch is taken out, and the other keys share out the items.
  have others : (keys.erase lastLaunchKey).flatMap (labelledSeries point items launch) =
      ((keys.erase lastLaunchKey).flatMap fun key => items.filter (some ·.id = some key)).map point := by
    rw [List.map_flatMap]
    refine List.flatMap_congr fun key member => ?_
    simp [labelledSeries, (distinct.mem_erase_iff.1 member).1]
  -- Each item stands under its own id, so nothing is missing and nothing is shown twice.
  have shared := Grouped.flatMap_filter_perm (fun item : FlakyItem => some item.id) (distinct.erase lastLaunchKey) items
  have rest : items.filter (fun item => ∃ key ∈ keys.erase lastLaunchKey, some item.id = some key) =
      items.filter (·.id ≠ lastLaunchKey) := by
    refine List.filter_congr fun item member => ?_
    have known : item.id ∈ keys := (listed item.id).2 (.inl (List.mem_map_of_mem member))
    simp [distinct.mem_erase_iff, known]
  refine ((List.perm_cons_erase ((listed _).2 (.inr rfl))).flatMap_right _).trans ?_
  rw [List.flatMap_cons, labelledSeries, if_pos rfl, others, ← rest]
  exact (shared.map point).cons _

/-- A content with these entries shows the ranking. -/
theorem showsRanking_of_entries {content : Content} {fields : List String} {items : List FlakyItem}
    {launch : LaunchRef} (entries : content.entries = (items.map (·.id) ++ [lastLaunchKey]).eraseDups.map fun key =>
      (key, labelledSeries (presentedItem fields) items launch key)) :
    ShowsRanking content fields items launch := by
  -- Under a key there is what the entries say, if it is one of theirs.
  have found : ∀ key, content.get? key = if key ∈ items.map (·.id) ++ [lastLaunchKey] then
      some (labelledSeries (presentedItem fields) items launch key) else none := by
    intro key
    rw [Grouped.get?, entries, Table.lookup_map_named]
    simp only [List.mem_eraseDups]
  refine ⟨?_, fun id other => ?_, ?_, ?_⟩
  · rw [Grouped.keys_eq_of_entries entries]
    -- The key of the launch is mentioned last, which makes no difference where it is an id.
    rw [eraseDups_append_singleton]
    split <;> simp
  · rw [found id, labelledSeries, if_neg other]
    simp [other]
  · rw [found lastLaunchKey, labelledSeries, if_pos rfl, if_pos (by simp)]
  · unfold Content.allPoints
    rw [entries, List.flatMap_map]
    exact flatMap_labelledSeries_perm (presentedItem fields) items launch

/-- The flaky ones among some items are ranked when the launch has a name, and then the ranking is labelled with it. -/
theorem flaky_eq_ok_iff {job : Job} (nonempty : job.records ≠ []) {content : Content} : flaky job = .ok content ↔
    ∃ name, job.required Widget.launchOption = .ok name ∧ content = label job name
      (.ofPoints ((FlakyItem.rank job.records job.config.historyTopN.toNat).map fun item => (item.id, item.toChart))) := by
  -- Nothing but the name is checked.
  simp only [flaky, bind_eq_ok_iff, if_neg nonempty, Pure.pure, Except.pure, Except.ok.injEq, @eq_comm _ content]

/-- A request to rank the flaky items among some records is answered when it names a launch, and then with the labelled
ranking in the caller's names. -/
theorem dispatch_flaky_eq_ok_iff {request : Request} {config : Config} {content : Content}
    (named : request.widget = Widget.flakyTestCases.key) (nonempty : request.limitedRecords ≠ []) :
    Registry.standard.dispatch request config = .ok content ↔ ∃ filter,
      request.option? Widget.launchOption = some filter ∧ Text.trim filter ≠ "" ∧
      content = (label (Job.ofRequest .flakyTestCases request config) (Text.trim filter)
        (.ofPoints ((FlakyItem.rank request.limitedRecords config.historyTopN.toNat).map
          fun item => (item.id, item.toChart)))).renameFields request.contentFields := by
  -- The widget orders its items by itself, so that presenting them only renames their values.
  have ordered : Widget.flakyTestCases.ordersItself = true := rfl
  have someRecords : (Job.ofRequest .flakyTestCases request config).records ≠ [] := nonempty
  simp only [Registry.dispatch_standard_eq_ok_iff_of_named named, present_of_ordersItself ordered]
  constructor
  · -- An answer came from a name that was given, and is then what the name makes of the ranking.
    rintro ⟨built, accepted, rfl⟩
    obtain ⟨name, given, rfl⟩ := (flaky_eq_ok_iff someRecords).1 accepted
    obtain ⟨filter, asked, rfl, nonblank⟩ := Job.required_eq_ok_iff.1 given
    exact ⟨filter, asked, nonblank, rfl⟩
  · rintro ⟨filter, asked, nonblank, rfl⟩
    have given : (Job.ofRequest .flakyTestCases request config).required Widget.launchOption = .ok (Text.trim filter) :=
      Job.required_eq_ok_iff.2 ⟨filter, asked, rfl, nonblank⟩
    exact ⟨_, (flaky_eq_ok_iff someRecords).2 ⟨_, given, rfl⟩, rfl⟩

/-- A request for the flaky items among some records is answered exactly when it names the launch that the items come
from. The answer shows their ranking, labelled with the launch that the request refers to or else with this name. -/
theorem dispatch_flaky {request : Request} {config : Config}
    (named : request.widget = Widget.flakyTestCases.key) (nonempty : request.limitedRecords ≠ []) :
    ((∃ content, Registry.standard.dispatch request config = .ok content) ↔
      ∃ filter, request.option? Widget.launchOption = some filter ∧ Text.trim filter ≠ "") ∧
    ∀ content, Registry.standard.dispatch request config = .ok content → ∃ filter,
      request.option? Widget.launchOption = some filter ∧
      ShowsRanking content request.contentFields (FlakyItem.rank request.limitedRecords config.historyTopN.toNat)
        (request.referenceLaunch.getD (.named (Text.trim filter))) := by
  -- The two directions of the first part only need that there is an answer; the second part reads it.
  refine ⟨⟨?_, ?_⟩, ?_⟩
  · rintro ⟨content, answered⟩
    obtain ⟨filter, asked, nonblank, -⟩ := (dispatch_flaky_eq_ok_iff named nonempty).1 answered
    exact ⟨filter, asked, nonblank⟩
  · rintro ⟨filter, asked, nonblank⟩
    exact ⟨_, (dispatch_flaky_eq_ok_iff named nonempty).2 ⟨filter, asked, nonblank, rfl⟩⟩
  · intro content answered
    obtain ⟨filter, asked, -, rfl⟩ := (dispatch_flaky_eq_ok_iff named nonempty).1 answered
    exact ⟨filter, asked, showsRanking_of_entries (entries_renameFields_label _ _ _ _)⟩

/-- Test items of one name, of which two have the same id and one has the key of the launch for its id. -/
def clashingItems : List Record :=
  [Sample.testItem "a" "same" ["PASSED", "FAILED"], Sample.testItem "b" "same" ["PASSED"],
    Sample.testItem "lastLaunch" "same" ["FAILED"], Sample.testItem "b" "same" ["FAILED", "PASSED"]]

/-- A request for the flaky ones among these items. -/
def clashing : Request :=
  ({ widget := "flaky_test_cases", records := clashingItems } : Request).withOption Widget.launchOption " Nightly "

/-- The two items of one id share a group, and the launch takes the place of the item that has its key. -/
theorem dispatch_flaky_clashing : ∃ content, Registry.standard.dispatch clashing {} = .ok content ∧
    content.keys = ["b", "lastLaunch", "a"] ∧
    (content.get? "b").map (·.map Chart.bare) =
      some (List.replicate 2 { name := some "same", id := some "b" }) ∧
    content.get? "lastLaunch" = some [.ofLaunch (.named "Nightly")] := by
  have named : clashing.widget = Widget.flakyTestCases.key := rfl
  obtain ⟨answers, presents⟩ := dispatch_flaky named (by decide)
  obtain ⟨content, answered⟩ := answers.2 ⟨" Nightly ", rfl, by decide +kernel⟩
  obtain ⟨filter, asked, shows⟩ := presents content answered
  obtain rfl : " Nightly " = filter := Option.some.inj asked
  obtain ⟨keys, series, labelled, -⟩ := shows
  -- Ranked by their switches the items come in this order, as evaluating the ranking shows.
  have ranked : (FlakyItem.rank clashing.limitedRecords ({} : Config).historyTopN.toNat).map (·.id) =
      ["b", "lastLaunch", "a", "b"] := by cbv
  refine ⟨content, answered, ?_, ?_, ?_⟩
  · rw [keys, ranked]
    decide
  · -- Only names and ids of the points are compared, for which their values need not be known.
    have told : ((FlakyItem.rank clashing.limitedRecords ({} : Config).historyTopN.toNat).filter (·.id = "b")).map
        (fun item => (item.name, item.id)) = List.replicate 2 ("same", "b") := by cbv
    have bare : ∀ items : List FlakyItem, (items.map (presentedItem [])).map Chart.bare =
        (items.map fun item => (item.name, item.id)).map fun told => { name := some told.1, id := some told.2 } := by
      intro items
      simp [Function.comp_def, bare_presentedItem]
    rw [series "b" (by decide), ranked, if_pos (by decide)]
    exact congrArg some ((bare _).trans (congrArg _ told))
  · have trimmed : Text.trim " Nightly " = "Nightly" := by decide +kernel
    rw [trimmed] at labelled
    exact labelled

end Dashboard.Ranking
