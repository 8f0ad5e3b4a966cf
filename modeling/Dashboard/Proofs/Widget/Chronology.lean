import Dashboard.Proofs.Statistics.Delta
import Dashboard.Proofs.Widget.Activity
import Dashboard.Proofs.Widget.Presentation

/-! Charts by launch run from the oldest launch to the newest, in whichever direction the launches were fetched. -/

namespace Dashboard

/-- A content that lists some records: its only series has a point for each of them, in their order, and where there is
none of them there is no series. -/
def Content.Lists (content : Content) (records : List Record) : Prop :=
  ∃ series, content = (if series = [] then .empty else .result series) ∧
    series.map Chart.bare = records.map Chart.ofRecord

namespace Content

/-- The empty content lists no records. -/
theorem lists_empty : Lists .empty [] :=
  ⟨[], rfl, rfl⟩

/-- A series that describes some records one after another lists them. -/
theorem lists_result {records : List Record} (nonempty : records ≠ []) {series : List Chart}
    (described : series.map Chart.bare = records.map Chart.ofRecord) : (result series).Lists records := by
  -- A series of some launches is not empty.
  refine ⟨series, (if_neg fun empty => nonempty ?_).symm, described⟩
  rw [empty] at described
  exact List.map_eq_nil_iff.1 described.symm

/-- A series made of records point by point lists them. -/
theorem lists_map {records : List Record} (nonempty : records ≠ []) {point : Record → Chart}
    (described : ∀ r, (point r).bare = Chart.ofRecord r) : (result (records.map point)).Lists records := by
  apply lists_result nonempty
  rw [List.map_map]
  exact List.map_congr_left fun r _ => described r

end Content

/-- The launches that a chart by launch shows: all of them, or the finished ones where their durations are shown. -/
def Widget.shows (widget : Widget) (r : Record) : Bool :=
  widget ≠ .launchesDuration || r.finish.isSome

/-- A widget that shows launches one by one, as far as its request does not ask for a timeline. -/
def Request.ByLaunch (request : Request) (widget : Widget) : Prop :=
  match widget with
  | .statisticTrend | .launchStatistics | .investigatedTrend | .casesTrend => request.option? "timeline" = none
  | .notPassed | .launchesDuration => True
  | _ => False

namespace Summary

/-- A launch that has ended has a point with its duration, and one in progress has none. -/
theorem map_bare_durationPoint? (r : Record) :
    (durationPoint? r).map Chart.bare = if r.finish.isSome then some (.ofRecord r) else none := by
  -- The duration and the status are values of the point, and not part of whom it describes.
  unfold durationPoint? Record.duration?
  cases r.finish with
  | none => rfl
  | some finish => cases r.status <;> simp

/-- The durations are shown for the launches that have ended, in their order. -/
theorem map_bare_filterMap_durationPoint? (records : List Record) :
    (records.filterMap durationPoint?).map Chart.bare = (records.filter (·.finish.isSome)).map Chart.ofRecord := by
  rw [List.map_filterMap]
  simp only [map_bare_durationPoint?]
  -- One launch at a time: it has a point if it has ended, and none otherwise.
  induction records with
  | nil => rfl
  | cons r rest ih => cases ended : r.finish.isSome <;> simp [ended, ih]

end Summary

/-- A chart by launch has a point for each launch that it shows. -/
theorem Widget.strategy_lists {widget : Widget} {request : Request} {config : Config}
    (byLaunch : request.ByLaunch widget) (noDefault : config.defaultTimeline = none) :
    GivesOnly (·.Lists (request.limitedRecords.filter widget.shows))
      (widget.strategy (Job.ofRequest widget request config)) := by
  have untimed (unasked : request.option? "timeline" = none) :
      (Job.ofRequest widget request config).timeline? = .ok none := Trend.timeline?_eq_none unasked noDefault
  -- Only where durations are shown some launches are left out, and nothing is listed where there are none.
  have all (other : widget ≠ .launchesDuration) : request.limitedRecords.filter widget.shows = request.limitedRecords := by
    simp [shows, other]
  have built {content : Content} (lists : request.limitedRecords ≠ [] → content.Lists request.limitedRecords) :
      GivesOnly (·.Lists request.limitedRecords) (if request.limitedRecords = [] then .ok .empty else .ok content) := by
    split
    · rename_i empty
      rw [empty]
      exact givesOnly_ok Content.lists_empty
    · rename_i nonempty
      exact givesOnly_ok (lists nonempty)
  cases widget with
  | statisticTrend =>
    rw [all (by decide)]
    refine givesOnly_bind fun fields _ => givesOnly_bind fun timeline timed => built fun nonempty => ?_
    cases (untimed byLaunch).symm.trans timed
    exact Content.lists_map nonempty fun r => Chart.bare_foldl_setInt fields r.count (.ofRecord r)
  | launchStatistics =>
    rw [all (by decide)]
    refine givesOnly_bind fun asked _ => givesOnly_bind fun timeline timed => built fun nonempty => ?_
    cases (untimed byLaunch).symm.trans timed
    exact Content.lists_map nonempty fun r => Chart.bare_foldl_setInt _ r.count (.ofRecord r)
  | investigatedTrend =>
    rw [all (by decide)]
    refine givesOnly_bind fun timeline timed => built fun nonempty => ?_
    cases (untimed byLaunch).symm.trans timed
    exact Content.lists_map nonempty fun r => Chart.bare_setAll _ (.ofRecord r)
  | notPassed =>
    rw [all (by decide)]
    exact built fun nonempty => Content.lists_map nonempty fun r => rfl
  | casesTrend =>
    rw [all (by decide)]
    refine givesOnly_bind fun _ _ => givesOnly_bind fun fields _ => givesOnly_bind fun timeline timed =>
      built fun nonempty => ?_
    cases (untimed byLaunch).symm.trans timed
    -- The changes from one launch to the next are noted in the points, which stay as many and in their order.
    refine Content.lists_result nonempty ?_
    rw [Delta.map_bare_annotate, List.map_map]
    rfl
  | launchesDuration =>
    show GivesOnly _ (Summary.durations _)
    rw [Summary.durations_eq]
    exact givesOnly_ok ⟨_, rfl, Summary.map_bare_filterMap_durationPoint? request.limitedRecords⟩
  | launchesComparison | passingRateSummary | overallStatistics | launchesQuantity | launchesIssues | uniqueLaunches
  | cumulativeTrend | healthCheckTable | flakyTestCases | mostFailedTestCases | mostTimeConsuming => cases byLaunch

/-- Under a configuration for the order of time a chart by launch is presented from the oldest launch on. -/
theorem Content.Lists.present {widget : Widget} {request : Request} {config : Config} {content : Content}
    {records : List Record} (lists : content.Lists records) (unordered : widget.ordersItself = false)
    (byStart : request.sort.isBy config.sortField = true) :
    (present widget request config content).Lists (Record.chronological request.sort.direction records) := by
  -- The fields' names do not matter to whom the points describe.
  obtain ⟨series, rfl, described⟩ := lists
  have renamed : (series.map (Chart.renameFields request.contentFields)).map Chart.bare =
      records.map Chart.ofRecord := by
    rw [List.map_map, ← described]
    exact List.map_congr_left fun point _ => Chart.bare_renameFields _ point
  by_cases empty : series = []
  · subst empty
    obtain rfl := List.map_eq_nil_iff.1 described.symm
    rw [if_pos rfl, present_empty]
    cases request.sort.direction <;> exact lists_empty
  · have nonempty : records ≠ [] := by
      rintro rfl
      exact empty (List.map_eq_nil_iff.1 described)
    rw [if_neg empty, present_result]
    unfold shouldReverse SortOrder.isAscendingBy
    rw [unordered, byStart]
    -- The series is turned around exactly when the launches were fetched from the newest one on.
    cases request.sort.direction with
    | ascending => exact lists_result nonempty renamed
    | descending =>
      refine lists_result (List.reverse_ne_nil_iff.2 nonempty) ?_
      rw [if_pos (by decide), List.map_reverse, renamed, ← List.map_reverse]

namespace Registry

/-- Charts are presented from the oldest launch to the newest. Of a file whose batch is to be in the order of time one
way or the other, under a configuration for that order, a chart by launch lists the launches that the quantity admits,
in the order of time and, where they start together, in the order of storage or its reverse. -/
theorem dispatch_chronological {path : String} {file : File} {widget? : Option String} {request : Request}
    {config : Config} {widget : Widget} {content : Content}
    (loaded : RequestFile.load path file widget? = .ok request) (byStart : request.sort.isBy startTimeField = true)
    (configured : SortOrder.normalField config.sortField = SortOrder.normalField startTimeField)
    (noDefault : config.defaultTimeline = none) (named : request.widget = widget.key)
    (byLaunch : request.ByLaunch widget) (answered : standard.dispatch request config = .ok content) :
    ∃ held sorted shown, RequestFile.parse path file = .ok held ∧
      Record.StablySorted request.sort.direction held.allRecords sorted ∧
      shown = Record.chronological request.sort.direction
        ((Record.limit request.quantity sorted).filter widget.shows) ∧
      content.Lists shown ∧ shown.Pairwise fun a b => a.start ≤ b.start := by
  obtain ⟨held, own, readable, stored, rfl⟩ := RequestFile.exists_of_load loaded
  have sorted := Record.stablySorted_sortBy byStart held.allRecords
  refine ⟨held, _, _, readable, sorted, rfl, ?_, ?_⟩
  · -- Cutting the batch once more when it is dispatched changes nothing.
    have considered : { own with records := own.fetched }.limitedRecords =
        Record.limit own.quantity (Record.sortBy own.sort held.allRecords) := by
      rw [Request.limitedRecords_eq]
      simp only [Request.fetched, Record.limit_limit, stored]
    obtain ⟨found, built, known, ran, rfl⟩ := dispatch_standard_eq_ok_iff.1 answered
    rw [named, Widget.ofKey?_key] at known
    cases known
    -- A chart by launch leaves the order to the presentation, which turns a newest-first batch round.
    have unordered : widget.ordersItself = false := by
      cases widget <;> first | rfl | cases byLaunch
    refine Content.Lists.present ?_ unordered ?_
    · rw [← considered]
      exact Widget.strategy_lists byLaunch noDefault built ran
    · unfold SortOrder.isBy at byStart ⊢
      rwa [configured]
  · refine Record.pairwise_chronological (sorted.ordered.sublist ?_)
    exact List.filter_sublist.trans (Record.limit_sublist _ _)

/-- A request for the launches around New Year that were fetched from the oldest on, although they are stored the other
way round. -/
def newYear : Request :=
  { widget := "not_passed", records := Activity.newYearRuns, sort := { field := "Start_Time", direction := .ascending } }

/-- A file with this request, written as an array. -/
def newYearFile : File :=
  .text ("[\"not_passed\",[[\"2\",\"Smoke\",null,\"2021-01-18T00:00:00Z\"]," ++
    "[\"1\",\"Smoke\",null,\"2020-12-31T00:00:00Z\"]],null,[],[],[\"Start_Time\",\"asc\"]]")

/-- The file is read as the request that is written in it. -/
theorem parse_newYearFile : RequestFile.parse "in.json" newYearFile = .ok (.whole newYear) := by
  decide +kernel

/-- The launches around New Year are presented from the oldest on. -/
theorem dispatch_chronological_newYear : ∃ request content,
    RequestFile.load "in.json" newYearFile none = .ok request ∧ standard.dispatch request {} = .ok content ∧
    content.Lists Activity.newYearRuns.reverse := by
  have loaded := @RequestFile.load_eq_ok "in.json" newYearFile none _ _ parse_newYearFile rfl
  -- The widget checks nothing, so there is some content.
  obtain ⟨content, answered⟩ : ∃ content,
      standard.dispatch { newYear with records := newYear.fetched } {} = .ok content := by
    rw [@dispatch_standard_of_known { newYear with records := newYear.fetched } .notPassed rfl]
    unfold Widget.strategy Trend.notPassed
    dsimp only
    split
    · exact ⟨_, rfl⟩
    · exact ⟨_, rfl⟩
  refine ⟨_, content, loaded, answered, ?_⟩
  obtain ⟨held, sorted, _, readable, inOrder, rfl, lists, -⟩ :=
    @dispatch_chronological _ _ _ _ {} .notPassed _ loaded (by decide) rfl rfl rfl trivial answered
  rw [parse_newYearFile] at readable
  cases readable
  -- The launches start at different moments, so that there is only one way to sort them.
  have oldestFirst : Activity.newYearRuns.reverse.Pairwise (Record.Precedes .ascending) := by decide
  obtain rfl := Record.eq_of_ordered oldestFirst inOrder.ordered (inOrder.perm.trans (List.reverse_perm _).symm)
    (by decide)
  exact lists

end Registry
end Dashboard
