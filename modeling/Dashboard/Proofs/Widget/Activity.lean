import Dashboard.Proofs.Content
import Dashboard.Proofs.Sample
import Dashboard.Proofs.Statistics.Permutation
import Dashboard.Proofs.Widget.Job
import Dashboard.Widget.Activity

/-! The number of launches by calendar interval: its groups tile the calendar and count every launch once. -/

namespace Dashboard.Activity

open Calendar (Date Span firstYear lastYear)

/-- The point of an interval with a number of launches. -/
def intervalPoint (span : Span) (interval : Date × Date) (count : Nat) : Chart :=
  let point := Chart.setAll { name := some "Number of launches" } [
    ("count", Decimal.ofNat count), ("interval", span.name), ("start", interval.1.dayLabel)]
  if span = .day then point else point.set "end" interval.2.dayLabel

/-- The point of an interval shows its bounds, of which a day only has one, and the number of launches. -/
theorem value?_intervalPoint (span : Span) (interval : Date × Date) (count : Nat) :
    (intervalPoint span interval count).value? "start" = some interval.1.dayLabel ∧
    (intervalPoint span interval count).value? "end" = (if span = .day then none else some interval.2.dayLabel) ∧
    (intervalPoint span interval count).integer? "count" = some (count : Int) := by
  have bare : ({ name := some "Number of launches" } : Chart).value? "end" = none := rfl
  -- A day has no upper bound to show; apart from that the point is the same for every span.
  refine ⟨?_, ?_, Chart.integer?_of_value? ?_⟩
  all_goals
    unfold intervalPoint
    by_cases single : span = .day <;> simp [single, Chart.setAll, Chart.value?_set, Decimal.ofInt_natCast, bare]

/-- The point of an interval has its bounds, whether they are found by a record or by the label. -/
theorem quantityPoint_eq {span : Span} {interval : Date × Date} (isInterval : span.IsInterval interval.1 interval.2)
    (followed : interval.1.year < lastYear) {group : List Record}
    (labelled : ∀ r ∈ group, span.intervalLabel r.date = span.intervalLabel interval.1) :
    quantityPoint span (span.intervalLabel interval.1) group = .ok (intervalPoint span interval group.length) := by
  -- Some date of the interval is known in either case.
  have dated : ∃ d, groupDate? span (span.intervalLabel interval.1) group = some d ∧
      interval.1 ≤ d ∧ d ≤ interval.2 := by
    cases group with
    | nil =>
      refine ⟨interval.1, Span.ofIntervalLabel?_intervalLabel isInterval, ?_⟩
      exact (Span.intervalLabel_eq_iff_between isInterval).1 rfl
    | cons r rest =>
      refine ⟨r.date, rfl, ?_⟩
      exact (Span.intervalLabel_eq_iff_between isInterval).1 (labelled r List.mem_cons_self)
  obtain ⟨d, found, above, below⟩ := dated
  -- A date of the interval has the bounds of the interval.
  unfold quantityPoint boundedPoint intervalPoint
  simp only [found, Span.intervalBounds_eq isInterval above below followed]
  by_cases single : span = .day <;> simp [single, Chart.setAll]

/-- The records with the label of an interval are counted in its point. -/
theorem quantityPoint_filter {span : Span} {interval : Date × Date}
    (isInterval : span.IsInterval interval.1 interval.2) (followed : interval.1.year < lastYear)
    (records : List Record) :
    quantityPoint span (span.intervalLabel interval.1)
        (records.filter (span.intervalLabel ·.date = span.intervalLabel interval.1)) =
      .ok (intervalPoint span interval (RecordGroups.dated records interval)) := by
  -- The records with the label are those that are dated inside the interval.
  rw [RecordGroups.dated_eq isInterval]
  apply quantityPoint_eq isInterval followed
  intro r listed
  simpa using (List.mem_filter.1 listed).2

/-- A group shows an interval under its label, with the number of the records that are dated inside it. -/
structure Shows (span : Span) (records : List Record) (interval : Date × Date) (group : String × List Chart) :
    Prop where
  key : group.1 = span.intervalLabel interval.1
  point : ∃ point, group.2 = [point] ∧ point.value? "start" = some interval.1.dayLabel ∧
    point.value? "end" = (if span = .day then none else some interval.2.dayLabel) ∧
    point.integer? "count" = some (RecordGroups.dated records interval : Int)

/-- The point of an interval, under the label of the interval, shows it. -/
theorem shows_intervalPoint (span : Span) (records : List Record) (interval : Date × Date) :
    Shows span records interval (span.intervalLabel interval.1,
      [intervalPoint span interval (RecordGroups.dated records interval)]) where
  key := rfl
  point := ⟨_, rfl, value?_intervalPoint span interval _⟩

/-- An accepted number of launches has a point for each group of its interval. -/
theorem run_quantity {job : Job} {span : Span} (asked : job.interval = .ok span) (nonempty : job.records ≠ [])
    {groups : RecordGroups} (grouped : RecordGroups.byInterval job.records span = .ok groups)
    {α : Type} {items : List α} {group : α → String × List Record} {point : α → Chart}
    (entries : groups.entries = items.map group)
    (each : ∀ item ∈ items, quantityPoint span (group item).1 (group item).2 = .ok (point item)) :
    quantity job = .ok (.ofPoints (items.map fun item => ((group item).1, point item))) := by
  -- Once the groups are there, the points are made one by one and put under the labels.
  simp only [quantity, asked, nonempty, grouped, entries, List.mapM_map, if_false, Bind.bind, Except.bind,
    Pure.pure, Except.pure]
  rw [mapM_eq_pure fun item member => show _ = Except.ok ((group item).1, point item) by simp [each item member]]
  rfl

/-- Accepted sums of defects have a point for each group of their interval. -/
theorem run_defects {job : Job} {span : Span} (asked : job.interval = .ok span) (nonempty : job.records ≠ [])
    {groups : RecordGroups} (grouped : RecordGroups.byInterval job.records span = .ok groups) :
    defects job = .ok (.ofPoints (groups.entries.map fun group => (group.1, defectPoint group.2))) := by
  simp only [defects, asked, nonempty, grouped, if_false, Bind.bind, Except.bind, Pure.pure, Except.pure]

/-- Launches are counted in every interval, whether their own or one between them, in whatever order they come. -/
theorem exists_run_quantity {job : Job} {span : Span} (asked : job.interval = .ok span)
    (nonempty : job.records ≠ []) (inside : ∀ r ∈ job.records, firstYear < r.date.year ∧ r.date.year < lastYear) :
    ∃ content, ∀ others, others.Perm job.records → quantity { job with records := others } = .ok content := by
  obtain ⟨groups, intervals, grouped, held, -, followed, entries⟩ :=
    RecordGroups.exists_byInterval nonempty span inside
  obtain ⟨_, _, _, _, _, tiles⟩ := held.tiles
  -- The content is the same for every order, so it is made from the order that is given.
  refine ⟨.ofPoints (intervals.map fun interval => (span.intervalLabel interval.1,
    intervalPoint span interval (RecordGroups.dated job.records interval))), fun others perm => ?_⟩
  have otherNonempty : others ≠ [] := fun empty => nonempty (empty ▸ perm).nil_eq.symm
  have permuted : (groups.keys.map fun label => (label, others.filter (span.intervalLabel ·.date = label))) =
      intervals.map fun interval => (span.intervalLabel interval.1,
        others.filter (span.intervalLabel ·.date = span.intervalLabel interval.1)) := by
    simp [Grouped.keys, entries, Function.comp_def]
  refine @run_quantity { job with records := others } span asked otherNonempty _
    (RecordGroups.byInterval_perm perm grouped) _ _ _ _ permuted fun interval member => ?_
  -- An interval has as many records in one order as in the other.
  rw [quantityPoint_filter (tiles.each interval member) (followed interval member),
    RecordGroups.dated, RecordGroups.dated, perm.countP_eq]

/-- The defects of launches are added up in every interval, in whatever order the launches come. -/
theorem exists_run_defects {job : Job} {span : Span} (asked : job.interval = .ok span)
    (nonempty : job.records ≠ []) (inside : ∀ r ∈ job.records, firstYear < r.date.year ∧ r.date.year < lastYear) :
    ∃ content, ∀ others, others.Perm job.records → defects { job with records := others } = .ok content := by
  obtain ⟨groups, -, grouped, -⟩ := RecordGroups.exists_byInterval nonempty span inside
  refine ⟨.ofPoints (groups.keys.map fun label =>
    (label, defectPoint (job.records.filter (span.intervalLabel ·.date = label)))), fun others perm => ?_⟩
  have otherNonempty : others ≠ [] := fun empty => nonempty (empty ▸ perm).nil_eq.symm
  -- The groups of the two orders have the same labels, and a sum does not depend on the order.
  rw [@run_defects { job with records := others } span asked otherNonempty _
    (RecordGroups.byInterval_perm perm grouped), List.map_map]
  simp only [Function.comp_def, defectPoint, sumOver_perm (perm.filter _)]

/-- A strategy counts the launches of a job by calendar interval: it refuses the job when it has no interval, gives
no launches an empty content, and gives others the same content in whatever order they come. -/
structure Counts (job : Job) (strategy : Strategy) : Prop where
  refused : ∀ failure, job.interval = .error failure → strategy job = .error failure
  unlaunched : ∀ span, job.interval = .ok span → job.records = [] → strategy job = .ok .empty
  answered : ∀ span, job.interval = .ok span → job.records ≠ [] →
    (∀ r ∈ job.records, firstYear < r.date.year ∧ r.date.year < lastYear) →
    ∃ content, ∀ others, others.Perm job.records → strategy { job with records := others } = .ok content

/-- The number of launches is counted by calendar interval. -/
theorem counts_quantity (job : Job) : Counts job quantity where
  refused _ unasked := by simp [quantity, unasked, Bind.bind, Except.bind]
  unlaunched _ asked empty := by simp [quantity, asked, empty, Bind.bind, Except.bind, Pure.pure, Except.pure]
  answered _ asked nonempty inside := exists_run_quantity asked nonempty inside

/-- The defects of launches are added up by calendar interval. -/
theorem counts_defects (job : Job) : Counts job defects where
  refused _ unasked := by simp [defects, unasked, Bind.bind, Except.bind]
  unlaunched _ asked empty := by simp [defects, asked, empty, Bind.bind, Except.bind, Pure.pure, Except.pure]
  answered _ asked nonempty inside := exists_run_defects asked nonempty inside

/-- The point of a group shows the sums of its defects. -/
theorem value?_defectPoint (records : List Record) {output field : String} (member : (output, field) ∈ defectOutputs) :
    (defectPoint records).value? output = some (Decimal.ofInt (sumOver records field)) := by
  -- The outputs have different names, so that none of them is written over.
  have outputs : (defectOutputs.map Prod.fst).Nodup := by decide
  apply Chart.value?_setAll
  · rw [List.map_map]
    exact outputs
  · exact List.mem_map_of_mem member

/-- By day and by month every group has a point with the number of its launches, wherever its records lie. -/
theorem exists_quantityPoint {span : Span} (unweekly : span ≠ .week) (label : String) (records : List Record) :
    ∃ point, quantityPoint span label records = .ok point ∧
      point.value? "count" = some (Decimal.ofNat records.length) := by
  unfold quantityPoint
  cases groupDate? span label records with
  | none => exact ⟨_, rfl, by simp [Chart.setAll, Chart.value?_set]⟩
  | some d =>
    -- No day and no month is cut off by the ends of the calendar.
    cases span with
    | day => exact ⟨_, rfl, by simp [Chart.setAll, Chart.value?_set]⟩
    | week => exact absurd rfl unweekly
    | month => exact ⟨_, rfl, by simp [Chart.setAll, Chart.value?_set]⟩

/-- The number of launches by calendar interval: the intervals tile the calendar from the earliest to the latest launch,
each has a group that shows it, and every launch is counted once. -/
theorem run_quantity_tiles {job : Job} {span : Span} (asked : job.interval = .ok span)
    (nonempty : job.records ≠ []) (inside : ∀ r ∈ job.records, firstYear < r.date.year ∧ r.date.year < lastYear) :
    ∃ content intervals, quantity job = .ok content ∧ RecordGroups.Held span job.records intervals ∧
      List.Forall₂ (Shows span job.records) intervals content.entries ∧
      content.sum? "count" = some (job.records.length : Int) := by
  obtain ⟨groups, intervals, grouped, held, distinct, followed, entries⟩ :=
    RecordGroups.exists_byInterval nonempty span inside
  obtain ⟨_, _, _, _, _, tiles⟩ := held.tiles
  -- Intervals that tile the calendar have different labels, so each point has a group of its own.
  have keys : ((intervals.map fun interval => (span.intervalLabel interval.1,
      intervalPoint span interval (RecordGroups.dated job.records interval))).map Prod.fst).Nodup := by
    rwa [List.map_map]
  -- Each group is that of an interval, so that its point can be made.
  refine ⟨_, intervals, run_quantity asked nonempty grouped entries fun interval member =>
    quantityPoint_filter (tiles.each interval member) (followed interval member) job.records, held, ?_, ?_⟩
  · rw [Content.entries_ofPoints keys, List.map_map, List.forall₂_map_right_iff, List.forall₂_same]
    exact fun interval _ => shows_intervalPoint span job.records interval
  · -- The counts of the intervals add up to the number of the launches, each of which lies in one of them.
    have points := Content.allPoints_ofPoints keys
    rw [List.map_map] at points
    rw [Content.sum?_eq points fun interval _ => (value?_intervalPoint span interval _).2.2, Option.some_inj,
      ← held.complete, Nat.cast_list_sum, List.map_map]
    rfl

/-- Launches of the last week of a year with 53 weeks and of the third week behind it, the later one first. -/
def newYearRuns : List Record :=
  [Sample.run "2" "Smoke" (Sample.midnight Sample.thirdWeek),
    Sample.run "1" "Smoke" (Sample.midnight Sample.longYearEnd)]

/-- A request for the number of the launches around New Year by week. -/
def weekly : Request :=
  ({ widget := "launches_quantity", records := newYearRuns } : Request).withOption "interval" "week"

/-- The weeks around New Year tile the calendar and count both launches. -/
theorem run_quantity_tiles_newYear : ∃ content intervals,
    quantity (Job.ofRequest .launchesQuantity weekly {}) = .ok content ∧
    RecordGroups.Held .week weekly.limitedRecords intervals ∧
    List.Forall₂ (Shows .week weekly.limitedRecords) intervals content.entries ∧
    content.sum? "count" = some 2 :=
  run_quantity_tiles (by decide) (by decide) (by decide)

end Dashboard.Activity
