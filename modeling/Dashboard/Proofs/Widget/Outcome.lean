import Dashboard.Proofs.Calendar.Cut
import Dashboard.Proofs.Failure
import Dashboard.Proofs.Widget.Activity
import Dashboard.Proofs.Widget.Registry

/-! Outcomes of requests: contents, refusals of bad requests, and breaking off in a week that the calendar cuts off. -/

namespace Dashboard

open Calendar (Date Span Stride sinceMonday)

namespace Job

variable (job : Job)

/-- A required option that is missing or blank makes a bad request. -/
theorem failsOnly_required (option : String) : FailsOnly (·.isBadRequest = true) (job.required option) := by
  unfold required
  split
  · exact failsOnly_ok _
  · exact failsOnly_error rfl

/-- A text that names no span, or no span of the calendar, makes a bad request. -/
theorem failsOnly_spanOf (option value : String) : FailsOnly (·.isBadRequest = true) (spanOf option value) := by
  unfold spanOf
  split
  · exact failsOnly_ok _
  · exact failsOnly_error rfl

/-- A timeline is refused for its text only; a request may leave it out. -/
theorem failsOnly_timeline? : FailsOnly (·.isBadRequest = true) job.timeline? := by
  unfold timeline?
  split
  · exact failsOnly_map (failsOnly_spanOf _ _) some
  · exact failsOnly_ok none

/-- An interval is refused for being missing or for its text. -/
theorem failsOnly_interval : FailsOnly (·.isBadRequest = true) job.interval :=
  failsOnly_bind (job.failsOnly_required _) fun _ _ => failsOnly_spanOf _ _

/-- Content fields are refused for a field that cannot name a counter. -/
theorem failsOnly_contentFields : FailsOnly (·.isBadRequest = true) job.contentFields := by
  -- The first such field ends the reading.
  refine failsOnly_mapM fun field _ => ?_
  unfold internalField
  split
  · exact failsOnly_ok _
  · exact failsOnly_error rfl

/-- Required content fields are refused for being none, or else as content fields are. -/
theorem failsOnly_requiredFields : FailsOnly (·.isBadRequest = true) job.requiredFields := by
  unfold requiredFields
  split
  · exact failsOnly_error rfl
  · exact job.failsOnly_contentFields

/-- Metadata fields are refused for being none. -/
theorem failsOnly_requireMetadata : FailsOnly (·.isBadRequest = true) job.requireMetadata := by
  unfold requireMetadata
  split
  · exact failsOnly_error rfl
  · exact failsOnly_ok ()

end Job

namespace RecordGroups

/-- Launches of which the earliest lies in a week that is cut off are not grouped by week. -/
theorem byInterval_week_of_cut {records : List Record} {earliest : Record} (member : earliest ∈ records)
    (first : ∀ r ∈ records, earliest.date ≤ r.date) (cut : earliest.date.InCutWeek) :
    ∃ missing, byInterval records .week = .error (.cutWeek missing) := by
  -- The first interval is asked for with the earliest date, which has no bounds.
  obtain ⟨_, latest, range, ⟨other, otherMember, rfl⟩, -, within⟩ := exists_dateRange? (List.ne_nil_of_mem member)
  have same : other.date = earliest.date := Std.le_antisymm (within earliest member).1 (first other otherMember)
  obtain ⟨missing, unbounded⟩ := Date.exists_weekBounds_error cut
  refine ⟨missing, ?_⟩
  unfold byInterval
  simp only [range, same, Span.intervals, Span.intervalStart, unbounded, Except.map, Bind.bind, Except.bind]

/-- Otherwise there is a group for each Monday from that of the earliest launch to the latest launch. -/
theorem exists_byInterval_week {records : List Record} (nonempty : records ≠ [])
    (whole : ∀ earliest ∈ records, (∀ r ∈ records, earliest.date ≤ r.date) → ¬ earliest.date.InCutWeek) :
    ∃ groups, ∃ monday : Date, ∃ latest ∈ records, byInterval records .week = .ok groups ∧
      sinceMonday monday.dayNumber = 0 ∧ (∀ r ∈ records, monday ≤ r.date ∧ r.date ≤ latest.date) ∧
      groups.entries = (Stride.weekly.walk latest.date monday).map fun met =>
        (met.weekLabel, records.filter (·.date.weekLabel = met.weekLabel)) := by
  obtain ⟨_, _, range, ⟨earliest, isFirst, rfl⟩, ⟨latest, isLast, rfl⟩, within⟩ := exists_dateRange? nonempty
  -- The week of the earliest launch is whole, and the walk by weeks starts from its Monday.
  obtain ⟨monday, sunday, bounds, start, -, behind, -⟩ :=
    Date.exists_weekBounds (whole earliest isFirst fun r member => (within r member).1)
  have labelled : Span.intervals .week earliest.date latest.date =
      .ok ((Stride.weekly.walk latest.date monday).map Date.weekLabel) := by
    simp only [Span.intervals, Span.intervalStart, bounds, Except.map, Bind.bind, Except.bind]
    rfl
  refine ⟨_, monday, latest, isLast, byInterval_eq_ok range labelled, start, fun r member => ?_, ?_⟩
  · exact ⟨Std.le_trans behind (within r member).1, (within r member).2⟩
  · exact List.map_map

/-- By day and by month all launches are grouped. -/
theorem exists_byInterval_of_ne_week (records : List Record) {span : Span} (unweekly : span ≠ .week) :
    ∃ groups, byInterval records span = .ok groups := by
  -- Without launches there is nothing to group, and with launches the intervals need no week.
  by_cases empty : records = []
  · rw [empty]
    exact ⟨.empty, rfl⟩
  · exact ⟨_, byInterval_eq_of_ne_week empty unweekly⟩

end RecordGroups

namespace Strategy

/-- How a job turns out: it is refused as a bad request, it breaks off in a cut-off week, or it has a content. -/
inductive Outcome (cut : Prop) : Except Failure Content → Prop
  | refused {failure : Failure} (bad : failure.isBadRequest = true) (uncut : ¬ cut) : Outcome cut (.error failure)
  | aborted {missing : Calendar.WeekEnd} (broken : cut) : Outcome cut (.error (.cutWeek missing))
  | answered {content : Content} (uncut : ¬ cut) : Outcome cut (.ok content)

section

variable {cut : Prop} (uncut : ¬ cut)
include uncut

/-- Where nothing is cut off, a step that can only refuse a bad request leaves the outcome to the steps behind it. -/
theorem outcome_bind {α : Type} {step : Except Failure α} {next : α → Except Failure Content}
    (first : FailsOnly (·.isBadRequest = true) step) (behind : ∀ value, Outcome cut (next value)) :
    Outcome cut (step >>= next) := by
  -- A failure of the step is the refusal of the whole, since nothing breaks off here.
  cases passed : step with
  | error failure => exact .refused (first failure passed) uncut
  | ok value => exact behind value

/-- Whether there are records at all only decides between two contents. -/
theorem outcome_ite (records : List Record) (content : Content) :
    Outcome cut (if records = [] then .ok .empty else .ok content) := by
  split <;> exact .answered uncut

/-- The health of components is a content, with the attribute or without it. -/
theorem outcome_health (job : Job) : Outcome cut (Attributes.health job) := by
  -- The attribute is the only thing that can be refused; what follows only chooses between contents.
  refine outcome_bind uncut (job.failsOnly_required _) fun key => ?_
  dsimp only
  split
  · exact .answered uncut
  · split <;> exact .answered uncut

/-- The strategies that look at no week build a content once the fields and options are read. -/
theorem outcome_of_uncut (job : Job) {widget : Widget} (uncounted : widget ≠ .launchesQuantity)
    (unadded : widget ≠ .launchesIssues) : Outcome cut (widget.strategy job) := by
  -- Each of them reads what it needs, step by step, and whatever it has read it builds something.
  cases widget with
  | launchesQuantity => exact absurd rfl uncounted
  | launchesIssues => exact absurd rfl unadded
  | statisticTrend =>
    refine outcome_bind uncut job.failsOnly_requiredFields fun _ => ?_
    exact outcome_bind uncut job.failsOnly_timeline? fun _ => outcome_ite uncut _ _
  | launchStatistics =>
    refine outcome_bind uncut job.failsOnly_contentFields fun _ => ?_
    exact outcome_bind uncut job.failsOnly_timeline? fun _ => outcome_ite uncut _ _
  | investigatedTrend => exact outcome_bind uncut job.failsOnly_timeline? fun _ => outcome_ite uncut _ _
  | casesTrend =>
    refine outcome_bind uncut job.failsOnly_requireMetadata fun _ => ?_
    refine outcome_bind uncut job.failsOnly_contentFields fun _ => ?_
    exact outcome_bind uncut job.failsOnly_timeline? fun _ => outcome_ite uncut _ _
  | overallStatistics => exact outcome_bind uncut job.failsOnly_requiredFields fun _ => outcome_ite uncut _ _
  | notPassed | launchesComparison | passingRateSummary | uniqueLaunches => exact outcome_ite uncut _ _
  | launchesDuration =>
    show Outcome cut (Summary.durations job)
    rw [Summary.durations_eq]
    exact .answered uncut
  | cumulativeTrend =>
    refine outcome_bind uncut (job.failsOnly_required _) fun _ => ?_
    exact outcome_bind uncut job.failsOnly_requiredFields fun _ => outcome_ite uncut _ _
  -- A table of health has options that exclude each other, and a lemma of its own.
  | healthCheckTable => exact outcome_health uncut job
  | flakyTestCases => exact outcome_bind uncut (job.failsOnly_required _) fun _ => outcome_ite uncut _ _
  | mostFailedTestCases | mostTimeConsuming =>
    refine outcome_bind uncut (job.failsOnly_required _) fun _ => ?_
    exact outcome_bind uncut job.failsOnly_contentFields fun _ => outcome_ite uncut _ _

end

end Strategy

namespace Activity

/-- A point of a week that the calendar cuts off cannot be made for any of its launches. -/
theorem exists_quantityPoint_error {label : String} {r : Record} {rest : List Record} (cut : r.date.InCutWeek) :
    ∃ missing, quantityPoint .week label (r :: rest) = .error (.cutWeek missing) := by
  -- The point is dated by the first launch of its group, and its week has no bounds.
  obtain ⟨missing, unbounded⟩ := Date.exists_weekBounds_error cut
  refine ⟨missing, ?_⟩
  simp only [quantityPoint, groupDate?, boundedPoint, Span.intervalBounds, unbounded, Except.map]

/-- A point of a week with bounds is made. -/
theorem exists_quantityPoint_week {label : String} {records : List Record}
    (whole : ∀ d, groupDate? .week label records = some d → ¬ d.InCutWeek) :
    ∃ point, quantityPoint .week label records = .ok point := by
  -- Only a date of the group is asked for its bounds, if it has one.
  unfold quantityPoint
  cases dated : groupDate? .week label records with
  | none => exact ⟨_, rfl⟩
  | some d =>
    obtain ⟨monday, sunday, bounds, -⟩ := Date.exists_weekBounds (whole d dated)
    dsimp only
    unfold boundedPoint
    simp only [Span.intervalBounds, bounds, Except.map]
    exact ⟨_, rfl⟩

/-- A point fails for want of the bounds of its week and for nothing else. -/
theorem failsOnly_quantityPoint (span : Span) (label : String) (records : List Record) :
    FailsOnly (fun failure => ∃ missing, failure = .cutWeek missing) (quantityPoint span label records) := by
  -- Only where the group has a date its bounds are looked for, and only these may be missing.
  unfold quantityPoint boundedPoint
  split
  · split
    · exact failsOnly_error ⟨_, rfl⟩
    · exact failsOnly_ok _
  · exact failsOnly_ok _

/-- The points of groups, each under the key of its group. -/
def quantityPoints (span : Span) (groups : RecordGroups) : Except Failure (List (String × Chart)) :=
  groups.entries.mapM fun (label, group) => do
    pure (label, ← quantityPoint span label group)

/-- The points of groups fail as a point does. -/
theorem failsOnly_quantityPoints (span : Span) (groups : RecordGroups) :
    FailsOnly (fun failure => ∃ missing, failure = .cutWeek missing) (quantityPoints span groups) :=
  failsOnly_mapM fun (label, group) _ =>
    failsOnly_bind (failsOnly_quantityPoint span label group) fun _ _ => failsOnly_ok _

/-- Where the point of each group is made, all of them are made. -/
theorem exists_quantityPoints {span : Span} {groups : RecordGroups}
    (each : ∀ entry ∈ groups.entries, ∃ point, quantityPoint span entry.1 entry.2 = .ok point) :
    ∃ points, quantityPoints span groups = .ok points := by
  -- Every point is put under the label of its group, which cannot fail.
  refine exists_mapM_ok fun (label, group) member => ?_
  obtain ⟨point, made⟩ := each _ member
  refine ⟨(label, point), ?_⟩
  dsimp only at made ⊢
  rw [made]
  rfl

/-- Where one of the points cannot be made, all of them together cannot. -/
theorem exists_quantityPoints_error {groups : RecordGroups} {label : String} {group : List Record}
    (member : (label, group) ∈ groups.entries)
    (failed : ∃ missing, quantityPoint .week label group = .error (.cutWeek missing)) :
    ∃ missing, quantityPoints .week groups = .error (.cutWeek missing) := by
  obtain ⟨missing, failed⟩ := failed
  have unmade : (do pure (label, ← quantityPoint .week label group)) = .error (.cutWeek missing) := by
    rw [failed]
    rfl
  -- An earlier group may fail first, but each of them fails for its week only.
  obtain ⟨failure, broken⟩ : ∃ failure, quantityPoints .week groups = .error failure :=
    exists_mapM_error member ⟨_, unmade⟩
  obtain ⟨cause, rfl⟩ := failsOnly_quantityPoints .week groups failure broken
  exact ⟨cause, broken⟩

/-- The points of launches by calendar interval, each under the label of its interval. -/
def countedPoints (span : Span) (records : List Record) : Except Failure (List (String × Chart)) := do
  quantityPoints span (← RecordGroups.byInterval records span)

/-- The number of launches is the content of these points. -/
theorem quantity_eq (job : Job) : quantity job = job.interval >>= fun span =>
    if job.records = [] then .ok .empty else (countedPoints span job.records).map .ofPoints := by
  -- Both sides ask for the interval and for the records first, and then group the launches alike.
  refine congrArg (job.interval >>= ·) (funext fun span => if_congr Iff.rfl rfl ?_)
  cases grouped : RecordGroups.byInterval job.records span with
  | error failure => simp [countedPoints, grouped, Bind.bind, Except.bind, Except.map]
  | ok groups =>
    simp only [countedPoints, quantityPoints, grouped, Bind.bind, Except.bind]
    rfl

/-- Launches in whole weeks are counted by week. -/
theorem exists_countedPoints_week {records : List Record} (whole : ∀ r ∈ records, ¬ r.date.InCutWeek) :
    ∃ points, countedPoints .week records = .ok points := by
  by_cases empty : records = []
  · rw [empty]
    exact ⟨[], rfl⟩
  obtain ⟨groups, monday, latest, isLast, grouped, start, within, entries⟩ :=
    RecordGroups.exists_byInterval_week empty fun earliest member _ => whole earliest member
  -- Each point is made, because the date that it asks for is the date of a launch or of a Monday that is reached.
  suffices each : ∀ entry ∈ groups.entries, ∃ point, quantityPoint .week entry.1 entry.2 = .ok point by
    obtain ⟨points, made⟩ := exists_quantityPoints each
    exact ⟨points, by rw [countedPoints, grouped]; exact made⟩
  intro (label, group) member
  refine exists_quantityPoint_week fun d dated => ?_
  rw [entries] at member
  obtain ⟨met, isMet, same⟩ := List.mem_map.1 member
  obtain ⟨rfl, rfl⟩ := Prod.mk.inj same
  obtain ⟨metStart, above, below⟩ := (Stride.mem_walk Stride.weekly_visits start).1 isMet
  -- A group is dated by its first record, or by the Monday that its label names.
  cases shape : records.filter (·.date.weekLabel = met.weekLabel) with
  | nil =>
    have named : Date.ofWeekLabel? met.weekLabel = some met := by
      apply Date.ofWeekLabel?_weekLabel
      rw [Date.thursdayNumber_eq]
      unfold sinceMonday at metStart
      omega
    rw [shape, groupDate?, Span.ofIntervalLabel?, named] at dated
    cases dated
    exact Date.not_inCutWeek_of_monday metStart below (whole latest isLast)
  | cons r rest =>
    rw [shape] at dated
    cases dated
    have member : r ∈ records.filter (·.date.weekLabel = met.weekLabel) := shape ▸ List.mem_cons_self
    exact whole r (List.mem_filter.1 member).1

/-- Counting launches by week breaks off when one of them lies in a week that is cut off. -/
theorem exists_countedPoints_week_error {records : List Record} {r : Record} (member : r ∈ records)
    (cut : r.date.InCutWeek) : ∃ missing, countedPoints .week records = .error (.cutWeek missing) := by
  unfold countedPoints
  -- Either there is no first week, or there are groups, and that of the record has a point that cannot be made.
  by_cases whole : ∀ earliest ∈ records, (∀ other ∈ records, earliest.date ≤ other.date) → ¬ earliest.date.InCutWeek
  · obtain ⟨groups, monday, latest, isLast, grouped, start, within, entries⟩ :=
      RecordGroups.exists_byInterval_week (List.ne_nil_of_mem member) whole
    obtain ⟨above, below⟩ := within r member
    obtain ⟨met, isMet, same⟩ := Date.exists_mem_walk_weekly start above below
    rw [grouped]
    -- The group of the record begins with a record of the same week.
    have listed : r ∈ records.filter (·.date.weekLabel = met.weekLabel) :=
      List.mem_filter.2 ⟨member, by simpa using same.symm⟩
    obtain ⟨first, rest, shape⟩ := List.exists_cons_of_ne_nil (List.ne_nil_of_mem listed)
    have ofWeek : first ∈ records.filter (·.date.weekLabel = met.weekLabel) := shape ▸ List.mem_cons_self
    have sameWeek : first.date.weekLabel = met.weekLabel := by simpa using (List.mem_filter.1 ofWeek).2
    have firstCut := Date.inCutWeek_of_weekLabel_eq (same.symm.trans sameWeek.symm) cut
    have isGroup : (met.weekLabel, first :: rest) ∈ groups.entries := by
      rw [entries, List.mem_map]
      exact ⟨met, isMet, by rw [shape]⟩
    exact exists_quantityPoints_error isGroup (exists_quantityPoint_error firstCut)
  · push Not at whole
    obtain ⟨earliest, isFirst, first, earliestCut⟩ := whole
    obtain ⟨missing, ungrouped⟩ := RecordGroups.byInterval_week_of_cut isFirst first earliestCut
    exact ⟨missing, by rw [ungrouped]; rfl⟩

/-- By day and by month launches are counted wherever they lie. -/
theorem exists_countedPoints_of_ne_week (records : List Record) {span : Span} (unweekly : span ≠ .week) :
    ∃ points, countedPoints span records = .ok points := by
  -- The groups can be made, and then a point for each of them.
  obtain ⟨groups, grouped⟩ := RecordGroups.exists_byInterval_of_ne_week records unweekly
  have each : ∀ entry ∈ groups.entries, ∃ point, quantityPoint span entry.1 entry.2 = .ok point := by
    intro entry _
    obtain ⟨point, made, -⟩ := exists_quantityPoint unweekly entry.1 entry.2
    exact ⟨point, made⟩
  obtain ⟨points, made⟩ := exists_quantityPoints each
  exact ⟨points, by rw [countedPoints, grouped]; exact made⟩

end Activity

/-- A job by week is cut off when it counts launches and one of them lies in a week that the calendar cuts off, or when
it adds up defects and the earliest launch lies in such a week. -/
def Job.Cut (job : Job) : Prop :=
  job.interval = .ok .week ∧
    match job.widget with
    | .launchesQuantity => ∃ r ∈ job.records, r.date.InCutWeek
    | .launchesIssues => ∃ r ∈ job.records, r.date.InCutWeek ∧ ∀ other ∈ job.records, r.date ≤ other.date
    | _ => False

namespace Job

variable {job : Job}

/-- Without records nothing is cut off. -/
theorem not_cut_of_empty (empty : job.records = []) : ¬ job.Cut := by
  -- Breaking off takes a launch, and there is none.
  rintro ⟨-, broken⟩
  rw [empty] at broken
  split at broken
  · obtain ⟨_, member, -⟩ := broken
    cases member
  · obtain ⟨_, member, -⟩ := broken
    cases member
  · exact broken

/-- A strategy that asks for the interval first, and then for the records, has an outcome when it has one for every
interval and some records. -/
theorem outcome_interval {build : Span → Except Failure Content}
    (each : ∀ span, job.interval = .ok span → job.records ≠ [] → Strategy.Outcome job.Cut (build span)) :
    Strategy.Outcome job.Cut (job.interval >>= fun span => if job.records = [] then .ok .empty else build span) := by
  -- A missing interval is a refusal, and a job that breaks off is one that has its interval.
  cases asked : job.interval with
  | error failure =>
    refine .refused (job.failsOnly_interval failure asked) fun broken => ?_
    cases asked.symm.trans broken.1
  | ok span =>
    show Strategy.Outcome job.Cut (if job.records = [] then .ok .empty else build span)
    split
    · rename_i empty
      exact .answered (not_cut_of_empty empty)
    · rename_i nonempty
      exact each span asked nonempty

end Job

namespace Activity

variable {job : Job}

/-- Launches are counted, unless they are counted by week and one of them lies in a week that is cut off. -/
theorem outcome_quantity (counting : job.widget = .launchesQuantity) : Strategy.Outcome job.Cut (quantity job) := by
  rw [quantity_eq]
  refine Job.outcome_interval fun span asked _ => ?_
  by_cases broken : job.Cut
  · obtain ⟨byWeek, launch⟩ := id broken
    rw [counting] at launch
    obtain ⟨r, member, cut⟩ := launch
    -- The job asks for one span only, so that the points are counted by weeks.
    obtain rfl : span = .week := Except.ok.inj (asked.symm.trans byWeek)
    obtain ⟨missing, failed⟩ := exists_countedPoints_week_error member cut
    rw [failed]
    exact .aborted broken
  · -- Without a launch in a cut-off week all points have their bounds.
    have counted : ∃ points, countedPoints span job.records = .ok points := by
      by_cases weekly : span = .week
      · subst weekly
        refine exists_countedPoints_week fun r member cut => broken ⟨asked, ?_⟩
        rw [counting]
        exact ⟨r, member, cut⟩
      · exact exists_countedPoints_of_ne_week job.records weekly
    obtain ⟨points, counted⟩ := counted
    rw [counted]
    exact .answered broken

/-- Defects are added up, unless they are added up by week and the earliest launch lies in a week that is cut off. -/
theorem outcome_defects (adding : job.widget = .launchesIssues) : Strategy.Outcome job.Cut (defects job) := by
  refine Job.outcome_interval fun span asked nonempty => ?_
  by_cases broken : job.Cut
  · obtain ⟨byWeek, launch⟩ := id broken
    rw [adding] at launch
    obtain ⟨earliest, member, cut, first⟩ := launch
    obtain rfl : span = .week := Except.ok.inj (asked.symm.trans byWeek)
    -- The weeks begin with that of the earliest launch, which has no bounds.
    obtain ⟨missing, ungrouped⟩ := RecordGroups.byInterval_week_of_cut member first cut
    rw [ungrouped]
    exact .aborted broken
  · -- By weeks the groups need all weeks from the first record on, and by other spans they need nothing.
    have grouped : ∃ groups, RecordGroups.byInterval job.records span = .ok groups := by
      by_cases weekly : span = .week
      · subst weekly
        obtain ⟨groups, -, -, -, grouped, -⟩ := RecordGroups.exists_byInterval_week nonempty
          fun earliest member first cut => broken ⟨asked, by rw [adding]; exact ⟨earliest, member, cut, first⟩⟩
        exact ⟨groups, grouped⟩
      · exact RecordGroups.exists_byInterval_of_ne_week job.records weekly
    obtain ⟨groups, grouped⟩ := grouped
    rw [grouped]
    exact .answered broken

end Activity

/-- Every strategy refuses bad requests, breaks off on records in cut-off weeks, and builds content from all others. -/
theorem Widget.outcome_strategy (job : Job) : Strategy.Outcome job.Cut (job.widget.strategy job) := by
  by_cases counting : job.widget = .launchesQuantity
  · rw [counting]
    exact Activity.outcome_quantity counting
  by_cases adding : job.widget = .launchesIssues
  · rw [adding]
    exact Activity.outcome_defects adding
  -- No other widget has records to break off on.
  refine Strategy.outcome_of_uncut (fun broken => ?_) job counting adding
  have broken := broken.2
  split at broken
  · exact counting ‹_›
  · exact adding ‹_›
  · exact broken

/-- A request breaks off when the job of the widget that it names does so on the records that are considered. -/
def Request.BreaksOff (request : Request) (config : Config) : Prop :=
  ∃ widget, Widget.ofKey? request.widget = some widget ∧
    (Job.ofRequest widget request config).Cut

namespace Registry

/-- A dispatched request breaks off in exactly two cases, both for a request by week: launches are counted, and one of
them lies in a week that the calendar cuts off, or their defects are added up, and the earliest lies in such a week.
Every other failure is that of a bad request. -/
theorem dispatch_breaksOff_iff (request : Request) (config : Config) :
    ((∃ missing, standard.dispatch request config = .error (.cutWeek missing)) ↔ request.BreaksOff config) ∧
    ∀ failure, standard.dispatch request config = .error failure →
      failure.isBadRequest = true ∨ ∃ missing, failure = .cutWeek missing := by
  cases known : Widget.ofKey? request.widget with
  | none =>
    -- An unknown widget is a bad request.
    rw [dispatch_standard_of_unknown known]
    simp [Request.BreaksOff, known, Failure.isBadRequest]
  | some widget =>
    have named : request.BreaksOff config ↔ (Job.ofRequest widget request config).Cut := by
      simp [Request.BreaksOff, known]
    rw [named, dispatch_standard_of_known known]
    -- The presentation of a content does not touch a failure.
    have outcome : Strategy.Outcome (Job.ofRequest widget request config).Cut
      (widget.strategy (Job.ofRequest widget request config)) := Widget.outcome_strategy (.ofRequest widget request config)
    generalize widget.strategy (Job.ofRequest widget request config) = built at outcome ⊢
    cases outcome with
    | refused bad uncut =>
      refine ⟨iff_of_false ?_ uncut, failsOnly_error (.inl bad)⟩
      rintro ⟨missing, same⟩
      rw [Except.error.inj same] at bad
      cases bad
    | aborted broken => exact ⟨iff_of_true ⟨_, rfl⟩ broken, failsOnly_error (.inr ⟨_, rfl⟩)⟩
    | answered uncut => exact ⟨iff_of_false nofun uncut, failsOnly_ok _⟩

/-- A request for the defects of a launch on the calendar's last day by week. -/
def lastWeek : Request :=
  ({ widget := "launches_issues", records := [Sample.run "1" "Smoke" (Sample.midnight Sample.lastDay)] } :
    Request).withOption "interval" "week"

/-- The week of the calendar's last day breaks off a request that is not bad. -/
theorem dispatch_lastWeek : standard.dispatch lastWeek {} = .error (.cutWeek .sunday) ∧
    (Failure.cutWeek .sunday).isBadRequest = false := by
  refine ⟨?_, rfl⟩
  decide +kernel

end Registry
end Dashboard
