import Dashboard.Proofs.Statistics.Delta
import Dashboard.Proofs.Statistics.Greatest
import Dashboard.Proofs.Widget.Presentation

/-! The growth of the number of test cases: read from its first point on, a presented trend shows the change of each
total from the one before it, by launch as well as along a timeline. -/

namespace Dashboard.Cases

open Calendar (Span)
open Dashboard.Field (internal)

/-- The total of a chosen launch, and zero where none was chosen. -/
def total (field : String) : Option Record → Int
  | some r => r.count field
  | none => 0

/-- A point shows the total of the launch that was chosen, or zero. -/
theorem value?_totalPoint (field : String) (chosen : Option Record) :
    (totalPoint field chosen).value? field = some (Decimal.ofInt (total field chosen)) := by
  -- Zero is written out where no launch was chosen.
  cases chosen <;> simp [totalPoint, Chart.setInt, Chart.value?_set, total]

/-- The total that a point shows is read back as it is, because it is a word. -/
theorem intValue_totalPoint (field : String) (chosen : Option Record) :
    (totalPoint field chosen).intValue field = total field chosen := by
  -- A count is a signed word that is not negative.
  have least : Int64.minValue.toInt ≤ 0 := by decide
  have greatest : 0 ≤ Int64.maxValue.toInt := by decide
  apply Chart.intValue_of_value? (value?_totalPoint field chosen)
  · cases chosen with
    | none => exact least
    | some r => exact Int.le_trans least (r.count_nonneg field)
  · cases chosen with
    | none => exact greatest
    | some r => exact r.count_le field

/-- The content of an accepted trend. -/
def growth (field : String) (direction : SortDirection) (timeline : Option Span) (records : List Record) : Content :=
  match timeline with
  | none => .result (Delta.annotate (records.map fun r => totalPoint field (some r)) field direction)
  | some span =>
    let best := maxByDate records (.span span) field
    .ofPoints ((best.map (·.1)).zip
      (Delta.annotateTimeline (best.map fun (_, r) => totalPoint field r) field direction))

/-- A trend is accepted with metadata, with fields that name counters and with a timeline that can be read, and then it
shows the growth of the launches, if there are any. -/
theorem trend_eq_ok_iff {job : Job} {content : Content} :
    trend job = .ok content ↔ job.request.metadataFields ≠ [] ∧ ∃ fields timeline, job.contentFields = .ok fields ∧
      job.timeline? = .ok timeline ∧ content = if job.records = [] then .empty else
        growth (totalField fields) job.request.sort.direction timeline job.records := by
  -- The checks are made one after another, and the records are looked at behind all of them.
  simp only [trend, bind_eq_ok_iff, Job.requireMetadata_eq_ok_iff, exists_and_left, exists_const]
  refine and_congr_right fun _ => exists_congr fun fields => and_congr_right fun _ => exists_congr fun timeline =>
    and_congr_right fun _ => ?_
  split
  · simp [Pure.pure, Except.pure, eq_comm]
  · cases timeline <;> simp [growth, Pure.pure, Except.pure, eq_comm]

/-- The name under which a presented point carries its total: the field as the caller spells it. -/
def totalName (fields : List String) : String :=
  fields.head?.getD Field.total

/-- The point of a launch with its change as it is presented. -/
def presentedPoint (fields : List String) (chosen : Option Record) (change : Int) : Chart :=
  ((totalPoint (totalField (fields.map internal)) chosen).setInt Delta.key change).renameFields fields

/-- The points of a trend as they are presented, in the order of time. -/
def presentedPoints (fields : List String) (best : List (Option Record)) : List Chart :=
  List.zipWith (presentedPoint fields) best
    (Delta.timelineDeltas (best.map (total (totalField (fields.map internal)))) .descending)

/-- The points along a timeline are presented with the changes of their totals. -/
theorem map_renameFields_annotateTimeline (fields : List String) (best : List (Option Record)) :
    (Delta.annotateTimeline (best.map (totalPoint (totalField (fields.map internal))))
      (totalField (fields.map internal)) .descending).map (Chart.renameFields fields) =
        presentedPoints fields best := by
  -- The changes are those of the totals, and each is written into the point of its launch.
  unfold Delta.annotateTimeline Delta.write presentedPoints presentedPoint
  simp only [List.map_map, Function.comp_def, intValue_totalPoint, List.map_zipWith, List.zipWith_map_left]

/-- Neither its total nor its change nor another name changes whom a presented point describes. -/
theorem map_bare_presentedPoints (fields : List String) (best : List (Option Record)) :
    (presentedPoints fields best).map Chart.bare = best.map fun chosen => (chosen.map Chart.ofRecord).getD {} := by
  -- Point by point: whichever launch was chosen, the names change only the values.
  apply List.ext_getElem
  · simp [presentedPoints]
  · intro i _ inBest
    have inside : i < best.length := by simpa using inBest
    simp only [presentedPoints, presentedPoint, List.getElem_map, List.getElem_zipWith, Chart.bare_renameFields]
    cases best[i] <;> rfl

/-- The points of a trend along a timeline as they are presented, under the labels of the timeline. -/
def labelledPoints (fields : List String) (span : Span) (records : List Record) : List (String × Chart) :=
  ((Period.span span).keys records).zip (presentedPoints fields
    ((maxByDate records (.span span) (totalField (fields.map internal))).map Prod.snd))

/-- The presented points along a timeline stand under the labels of the timeline. -/
@[simp] theorem map_fst_labelledPoints (fields : List String) (span : Span) (records : List Record) :
    (labelledPoints fields span records).map Prod.fst = (Period.span span).keys records :=
  List.map_fst_zip (by simp [presentedPoints])

/-- Behind the labels stand the presented points of the greatest launches. -/
@[simp] theorem map_snd_labelledPoints (fields : List String) (span : Span) (records : List Record) :
    (labelledPoints fields span records).map Prod.snd = presentedPoints fields
      ((maxByDate records (.span span) (totalField (fields.map internal))).map Prod.snd) :=
  List.map_snd_zip (by simp [presentedPoints])

/-- No label of a timeline comes twice. -/
theorem labelledPoints_nodup (fields : List String) (span : Span) (records : List Record) :
    ((labelledPoints fields span records).map Prod.fst).Nodup := by
  rw [map_fst_labelledPoints]
  exact Period.keys_nodup (.span span) records

section Presented

variable {fields : List String} (single : fields.length ≤ 1)

include single in
/-- A total is presented under the caller's spelling of its field. -/
theorem value?_renameFields_totalName {point : Chart} {text : String}
    (shown : point.value? (totalField (fields.map internal)) = some text) :
    (Chart.renameFields fields point).value? (totalName fields) = some text := by
  -- There is one field at most, and without any the point keeps its names.
  match fields, single with
  | [], _ => exact shown
  | [field], _ =>
    -- A single field has nothing to share its value with.
    simp only [totalField, List.map_cons, List.map_nil, List.head?_cons, Option.getD_some] at shown
    simp only [totalName, List.head?_cons, Option.getD_some, Chart.value?_renameFields_singleton, if_true, shown,
      Option.some_or]
    by_cases same : internal field = field
    · -- A field without another spelling stays in place.
      rw [if_pos same, ← shown, same]
    · rw [if_neg same]

variable (apart : totalField (fields.map internal) ≠ Delta.key)

include single apart in
/-- A change keeps its name. -/
theorem value?_renameFields_key (point : Chart) :
    (Chart.renameFields fields point).value? Delta.key = point.value? Delta.key := by
  -- Here too there is one field at most.
  match fields, single with
  | [], _ => rfl
  | [field], _ =>
    -- Spelled like the change, the field would also be named like it by the library.
    have plain : internal Delta.key = Delta.key := by decide
    refine Chart.value?_renameFields_of_apart (fun other member => ?_) point
    rw [List.mem_singleton.1 member]
    have named : internal field ≠ Delta.key := apart
    exact ⟨fun same => named (same ▸ plain), named⟩

include single apart

/-- The totals of the presented points are those of the launches that were chosen. -/
theorem map_integer?_totalName_presentedPoints (best : List (Option Record)) :
    (presentedPoints fields best).map (Chart.integer? · (totalName fields)) =
      (best.map (total (totalField (fields.map internal)))).map some := by
  apply List.ext_getElem
  · simp [presentedPoints]
  · intro i _ _
    simp only [presentedPoints, presentedPoint, List.getElem_map, List.getElem_zipWith]
    -- Writing the change leaves the total alone.
    apply Chart.integer?_of_value?
    apply value?_renameFields_totalName single
    rw [Chart.setInt, Chart.value?_set, if_neg apart, value?_totalPoint]

/-- The changes of the presented points are those of the totals from each to the next. -/
theorem map_integer?_key_presentedPoints (best : List (Option Record)) :
    (presentedPoints fields best).map (Chart.integer? · Delta.key) =
      (Delta.timelineDeltas (best.map (total (totalField (fields.map internal)))) .descending).map some := by
  apply List.ext_getElem
  · simp [presentedPoints]
  · intro i _ _
    simp only [presentedPoints, presentedPoint, List.getElem_map, List.getElem_zipWith]
    -- The change is what was written last, and no field takes its name.
    apply Chart.integer?_of_value?
    rw [value?_renameFields_key single apart, Chart.setInt, Chart.value?_set, if_pos rfl]

/-- Presented points grow: each carries the change of its total from the point before it. -/
theorem grows_presentedPoints (best : List (Option Record)) :
    Delta.Grows (totalName fields) (presentedPoints fields best) :=
  Delta.grows_of_map (map_integer?_totalName_presentedPoints single apart best)
    (map_integer?_key_presentedPoints single apart best)

end Presented

/-- A request for the growth of cases is answered when it has metadata, names counters and has a timeline that can
be read, and then with the presented growth of its first field. -/
theorem dispatch_eq_ok_iff {request : Request} {config : Config} {content : Content}
    (named : request.widget = Widget.casesTrend.key) :
    Registry.standard.dispatch request config = .ok content ↔
      request.metadataFields ≠ [] ∧ (∀ field ∈ request.contentFields, Field.isValid field = true) ∧
      ∃ timeline, (Job.ofRequest .casesTrend request config).timeline? = .ok timeline ∧
        content = present .casesTrend request config (if request.limitedRecords = [] then .empty else
          growth (totalField (request.contentFields.map internal)) request.sort.direction timeline
            request.limitedRecords) := by
  rw [Registry.dispatch_standard_eq_ok_iff_of_named named]
  -- Being answered is being accepted by the strategy, and this is what its checks say.
  constructor
  · rintro ⟨built, accepted, rfl⟩
    obtain ⟨metadata, fields, timeline, read, timed, rfl⟩ := trend_eq_ok_iff.1 accepted
    obtain ⟨valid, rfl⟩ := Job.contentFields_eq_ok_iff.1 read
    exact ⟨metadata, valid, timeline, timed, rfl⟩
  · rintro ⟨metadata, valid, timeline, timed, rfl⟩
    have read : (Job.ofRequest .casesTrend request config).contentFields = .ok (request.contentFields.map internal) :=
      Job.contentFields_eq_ok_iff.2 ⟨valid, rfl⟩
    exact ⟨_, trend_eq_ok_iff.2 ⟨metadata, _, timeline, read, timed, rfl⟩, rfl⟩

section Descending

variable {request : Request} (config : Config) (descending : request.sort.direction = .descending)
include descending

/-- Fetched from the newest launch on, a trend by launch is presented from the oldest one on. -/
theorem present_growth_untimed (records : List Record) :
    present .casesTrend request config
        (growth (totalField (request.contentFields.map internal)) request.sort.direction none records) =
      .result (presentedPoints request.contentFields (records.reverse.map some)) := by
  -- The points were written from the newest on, and turning them around gives the order of time.
  have turned := @shouldReverse_of_descending .casesTrend request config rfl descending
  rw [growth, Content.present_result, if_pos turned, ← List.map_reverse, descending,
    Delta.reverse_annotate_descending, ← List.map_reverse, ← map_renameFields_annotateTimeline, List.map_map]
  rfl

/-- A trend along a timeline is presented with the greatest launch of each point. -/
theorem present_growth_timed (span : Span) (records : List Record) :
    present .casesTrend request config (if records = [] then .empty else
        growth (totalField (request.contentFields.map internal)) request.sort.direction (some span) records) =
      .ofPoints (labelledPoints request.contentFields span records) := by
  by_cases empty : records = []
  · -- Without records there are no points either way.
    rw [if_pos empty, empty, Content.present_empty]
    rfl
  have keys := map_fst_maxByDate records (.span span) (totalField (request.contentFields.map internal))
  have distinct := keys ▸ Period.keys_nodup (.span span) records
  rw [if_neg empty]
  simp only [growth, descending]
  rw [Content.present_ofPoints, ← List.zip_map_right, labelledPoints, ← keys, ← map_renameFields_annotateTimeline,
    List.map_map]
  · rfl
  · rwa [List.map_fst_zip (by simp [Delta.annotateTimeline, Delta.write])]

end Descending

/-- Where no launch belongs to a label, its point has the total zero. -/
theorem integer?_of_unused {fields : List String} (single : fields.length ≤ 1)
    (apart : totalField (fields.map internal) ≠ Delta.key) {span : Span} {records : List Record}
    {entry : String × Chart} (member : entry ∈ labelledPoints fields span records)
    (unused : ∀ r ∈ records, (Period.span span).keyOf r ≠ entry.1) :
    entry.2.integer? (totalName fields) = some 0 := by
  unfold labelledPoints at member
  rw [← map_fst_maxByDate records (.span span) (totalField (fields.map internal))] at member
  have unchosen : ∀ chosen, (entry.1, chosen) ∈ maxByDate records (.span span) (totalField (fields.map internal)) →
      chosen = none := fun chosen listed => eq_none_of_mem_maxByDate listed unused
  generalize maxByDate records (.span span) (totalField (fields.map internal)) = best at member unchosen
  obtain ⟨i, within, rfl⟩ := List.mem_iff_getElem.1 member
  rw [List.length_zip, List.length_map] at within
  have inPoints : i < (presentedPoints fields (best.map Prod.snd)).length := by omega
  rw [List.getElem_zip] at unchosen ⊢
  -- The point shows the total of what was chosen at its place.
  obtain ⟨_, shown⟩ := Delta.exists_shown (map_integer?_totalName_presentedPoints single apart (best.map Prod.snd))
    (List.getElem?_eq_getElem inPoints)
  -- Nothing was chosen, as no launch belongs to the label.
  have inBest : i < best.length := by omega
  have none : best[i].2 = none := unchosen _ (by simp)
  simpa [none, total] using shown

/-- A trend fetched from the newest launch on and presented from the oldest one on: by launch and along a timeline
each point carries its growth over the point before it, and with one launch a day the two have the same points. -/
theorem dispatch_casesTrend {request : Request} {config : Config} {content : Content}
    (named : request.widget = Widget.casesTrend.key) (descending : request.sort.direction = .descending)
    (single : request.contentFields.length ≤ 1)
    (apart : totalField (request.contentFields.map internal) ≠ Delta.key)
    (answered : Registry.standard.dispatch request config = .ok content) :
    ((Job.ofRequest .casesTrend request config).timeline? = .ok none →
      ∃ series, content = (if request.limitedRecords = [] then .empty else .result series) ∧
        series.map Chart.bare = request.limitedRecords.reverse.map Chart.ofRecord ∧
        series.map (Chart.integer? · (totalName request.contentFields)) = request.limitedRecords.reverse.map
          (fun r => some (r.count (totalField (request.contentFields.map internal)))) ∧
        Delta.Grows (totalName request.contentFields) series) ∧
    (∀ span, (Job.ofRequest .casesTrend request config).timeline? = .ok (some span) →
      content.keys = (Period.span span).keys request.limitedRecords ∧
      (∀ entry ∈ content.entries, ∃ point, entry.2 = [point] ∧
        ((∀ r ∈ request.limitedRecords, (Period.span span).keyOf r ≠ entry.1) →
          point.integer? (totalName request.contentFields) = some 0)) ∧
      Delta.Grows (totalName request.contentFields) content.allPoints) ∧
    ((Job.ofRequest .casesTrend request config).timeline? = .ok none → Daily request.limitedRecords →
      ∀ options settings,
        (Job.ofRequest .casesTrend { request with options } settings).timeline? = .ok (some .day) →
        ∃ timed, Registry.standard.dispatch { request with options } settings = .ok timed ∧
          timed.keys = request.limitedRecords.reverse.map (·.date.dayLabel) ∧
          timed.allPoints = content.allPoints) := by
  obtain ⟨metadata, valid, timeline, read, rfl⟩ := (dispatch_eq_ok_iff named).1 answered
  -- Only one of the parts speaks of the timeline that was read.
  refine ⟨fun untimed => ?_, fun span timed => ?_, fun untimed daily options settings timed => ?_⟩
  · cases untimed.symm.trans read
    refine ⟨presentedPoints request.contentFields (request.limitedRecords.reverse.map some), ?_, ?_, ?_,
      grows_presentedPoints single apart _⟩
    · split
      · exact Content.present_empty _ _ _
      · exact present_growth_untimed config descending _
    · rw [map_bare_presentedPoints, List.map_map]
      rfl
    · rw [map_integer?_totalName_presentedPoints single apart, List.map_map, List.map_map]
      rfl
  · cases timed.symm.trans read
    have distinct := labelledPoints_nodup request.contentFields span request.limitedRecords
    rw [present_growth_timed config descending]
    refine ⟨?_, ?_, ?_⟩
    · rw [Content.keys_ofPoints distinct, map_fst_labelledPoints]
    · intro entry member
      rw [Content.entries_ofPoints distinct] at member
      obtain ⟨⟨key, point⟩, listed, rfl⟩ := List.mem_map.1 member
      exact ⟨point, rfl, integer?_of_unused single apart listed⟩
    · rw [Content.allPoints_ofPoints distinct, map_snd_labelledPoints]
      exact grows_presentedPoints single apart _
  · cases untimed.symm.trans read
    have distinct := labelledPoints_nodup request.contentFields .day request.limitedRecords
    have timedDescending : ({ request with options } : Request).sort.direction = .descending := descending
    have stillNamed : ({ request with options } : Request).widget = Widget.casesTrend.key := named
    have presented := present_growth_timed settings timedDescending .day request.limitedRecords
    refine ⟨.ofPoints (labelledPoints request.contentFields .day request.limitedRecords), ?_, ?_, ?_⟩
    · exact (dispatch_eq_ok_iff stillNamed).2 ⟨metadata, valid, some .day, timed, presented.symm⟩
    · rw [Content.keys_ofPoints distinct, map_fst_labelledPoints, daily.keys_eq]
    · -- On every day the launch of that day was chosen, so that the totals are those of the launches in turn.
      rw [Content.allPoints_ofPoints distinct, map_snd_labelledPoints, daily.maxByDate_eq, List.map_map]
      split
      · rename_i empty
        rw [empty, Content.present_empty]
        rfl
      · rw [present_growth_untimed config descending, Content.allPoints_result]
        rfl

/-- A request for the growth of the launches of two days. -/
def leapGrowth : Request :=
  { widget := "cases_trend", records := Sample.leapRuns, contentFields := ["statistics$executions$total"],
    metadataFields := ["name"] }

/-- The launches of the two days are one a day. -/
theorem daily_leapRuns : Daily leapGrowth.limitedRecords where
  newestFirst := by decide
  single := by
    refine ⟨Sample.leapEve, Sample.leapDay, by decide, fun day above below => ?_⟩
    -- No day lies between the two.
    have eve : Sample.leapEve.dayNumber = 738944 := by decide
    have leap : Sample.leapDay.dayNumber = 738945 := by decide
    rw [Calendar.Date.le_iff] at above below
    rcases Int.lt_or_eq_of_le below with before | here
    · obtain rfl := Calendar.Date.eq_of_dayNumber_eq (show day.dayNumber = Sample.leapEve.dayNumber by omega)
      decide
    · obtain rfl := Calendar.Date.eq_of_dayNumber_eq here
      decide

/-- The growth of the launches of two days is the same by launch and by day. -/
theorem dispatch_casesTrend_leapRuns : ∃ byLaunch byDay,
    Registry.standard.dispatch leapGrowth {} = .ok byLaunch ∧
    Registry.standard.dispatch (leapGrowth.withOption "timeline" "day") {} = .ok byDay ∧
    byDay.allPoints = byLaunch.allPoints ∧ byLaunch.allPoints.map (Chart.integer? · Delta.key) = [some 0, some 2] := by
  -- Both requests are answered, the one by day as the theorem tells.
  obtain ⟨byLaunch, answered⟩ : ∃ content, Registry.standard.dispatch leapGrowth {} = .ok content := ⟨_, rfl⟩
  obtain ⟨-, -, agree⟩ := dispatch_casesTrend (by rfl) (by rfl) (by decide) (by decide) answered
  obtain ⟨byDay, timed, -, same⟩ := agree (by rfl) daily_leapRuns (leapGrowth.withOption "timeline" "day").options {}
    (by decide)
  refine ⟨byLaunch, byDay, answered, timed, same, ?_⟩
  cases answered
  decide

end Dashboard.Cases
