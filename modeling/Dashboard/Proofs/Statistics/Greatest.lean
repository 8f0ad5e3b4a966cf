import Dashboard.Proofs.Calendar.Moment
import Dashboard.Proofs.Request.Place
import Dashboard.Proofs.Statistics.Bucket

/-! The greatest record of each point of a timeline, and the case of one record a day. -/

namespace Dashboard

open Calendar (Date Moment Span)

namespace Calendar

/-- No date lies before itself. -/
instance : Std.Irrefl fun d e : Date => d < e :=
  ⟨fun d => Int.lt_irrefl d.dayNumber⟩

/-- Of two dates only one lies before the other. -/
instance : Std.Antisymm fun d e : Date => d < e :=
  ⟨fun _ _ before after => absurd before (Int.lt_asymm after)⟩

end Calendar

/-- There is a choice for each key of the period, in the order of the keys. -/
@[simp] theorem map_fst_maxByDate (records : List Record) (period : Period) (field : String) :
    (maxByDate records period field).map Prod.fst = period.keys records := by
  simp [maxByDate, Function.comp_def]

/-- There are as many choices as keys. -/
@[simp] theorem length_maxByDate (records : List Record) (period : Period) (field : String) :
    (maxByDate records period field).length = (period.keys records).length := by
  simp [maxByDate]

/-- The record with the greater count of a field, and of two equal ones the second. -/
def greaterBy (field : String) (best : Option Record) (r : Record) : Option Record :=
  match best with
  | none => some r
  | some current => if current.count field ≤ r.count field then some r else best

/-- A record changes what is noted under its own key only. -/
theorem get?_noteBest (period : Period) (field : String) (best : Table Record) (r : Record) (key : String) :
    (noteBest period field best r).get? key =
      if period.keyOf r = key then greaterBy field (best.get? key) r else best.get? key := by
  -- Noting writes under the key of the record, which is the key in question or another one.
  unfold noteBest
  dsimp only
  by_cases here : period.keyOf r = key
  · subst here
    rw [if_pos rfl]
    cases noted : best.get? (period.keyOf r) with
    | none => simp [greaterBy, Table.get?_insert]
    | some current =>
      dsimp only [greaterBy]
      split
      · rw [Table.get?_insert, if_pos rfl]
      · exact noted
  · -- Whether the record is noted or not, the other keys keep theirs.
    have kept : (best.insert (period.keyOf r) r).get? key = best.get? key := by
      rw [Table.get?_insert, if_neg (Ne.symm here)]
    rw [if_neg here]
    split
    · split
      · exact kept
      · rfl
    · exact kept

/-- One scan for all keys finds for each of them what a scan of its own records finds. -/
theorem get?_foldl_noteBest (period : Period) (field : String) (records : List Record) (best : Table Record)
    (key : String) : (records.foldl (noteBest period field) best).get? key =
      (records.filter (period.keyOf · = key)).foldl (greaterBy field) (best.get? key) := by
  -- Records of other keys come in between, and leave the key alone.
  induction records generalizing best with
  | nil => rfl
  | cons r rest ih =>
    rw [List.foldl_cons, ih, get?_noteBest]
    by_cases here : period.keyOf r = key <;> simp [here]

/-- For each key the greatest record is found among its own records in the order of time. -/
theorem maxByDate_eq_map (records : List Record) (period : Period) (field : String) :
    maxByDate records period field = (period.keys records).map fun key =>
      (key, ((Record.oldestFirst records).filter (period.keyOf · = key)).foldl (greaterBy field) none) := by
  -- Nothing has been noted at the start.
  unfold maxByDate
  simp only [get?_foldl_noteBest, Table.get?_empty]

/-- Where no record has a key, none is chosen. -/
theorem eq_none_of_mem_maxByDate {records : List Record} {period : Period} {field key : String}
    {chosen : Option Record} (member : (key, chosen) ∈ maxByDate records period field)
    (unused : ∀ r ∈ records, period.keyOf r ≠ key) : chosen = none := by
  -- Sorting brings in no record that would have the key.
  rw [maxByDate_eq_map] at member
  obtain ⟨other, -, same⟩ := List.mem_map.1 member
  obtain ⟨here, rfl⟩ := Prod.mk.inj same
  have empty : (Record.oldestFirst records).filter (period.keyOf · = other) = [] := by
    simp only [List.filter_eq_nil_iff, decide_eq_true_eq, here]
    intro r sorted
    exact unused r (List.mem_mergeSort.1 sorted)
  rw [empty]
  rfl

/-- A scan for the greater record finds the last of the greatest, if there is any record. -/
theorem lastGreatest_foldl_greaterBy (field : String) (records : List Record) :
    (records = [] ∧ records.foldl (greaterBy field) none = none) ∨
    ∃ best, records.foldl (greaterBy field) none = some best ∧ LastGreatest (·.count field) records best := by
  -- The last record replaces the best one of those before it when it is not smaller.
  induction records using List.reverseRecOn with
  | nil => exact .inl ⟨rfl, rfl⟩
  | append_singleton records r ih =>
    right
    rw [List.foldl_append, List.foldl_cons, List.foldl_nil]
    rcases ih with ⟨rfl, found⟩ | ⟨best, found, last⟩
    · exact ⟨r, by rw [found, greaterBy], .singleton r⟩
    · rw [found, greaterBy]
      by_cases greater : best.count field ≤ r.count field
      · exact ⟨r, if_pos greater, last.append_greater greater⟩
      · exact ⟨best, if_neg greater, last.append_smaller greater⟩

/-- A record at a place of a batch ranks below another one when it counts less, or when it counts as much and is earlier:
by its start, or by its place where both start at the same moment. -/
def RanksBelow (field : String) (a b : Record × Nat) : Prop :=
  a.1.count field < b.1.count field ∨ a.1.count field = b.1.count field ∧ Record.Earlier a b

/-- A choice from the records of a key: none where there are none, and else the record above which no other one ranks. -/
def IsGreatest (records : List Record) (period : Period) (field key : String) : Option Record → Prop
  | none => ∀ r ∈ records, period.keyOf r ≠ key
  | some r => ∃ place, records[place]? = some r ∧ period.keyOf r = key ∧
    ∀ (other : Record) (otherPlace : Nat), records[otherPlace]? = some other → period.keyOf other = key →
      otherPlace ≠ place → RanksBelow field (other, otherPlace) (r, place)

/-- The scan of the records of a key in the order of time makes such a choice. -/
theorem isGreatest_foldl_greaterBy (records : List Record) (period : Period) (field key : String) :
    IsGreatest records period field key
      (((Record.oldestFirst records).filter (period.keyOf · = key)).foldl (greaterBy field) none) := by
  -- Either there is no record of the key, or the scan has found the last of the greatest.
  rcases lastGreatest_foldl_greaterBy field ((Record.oldestFirst records).filter (period.keyOf · = key)) with
    ⟨empty, found⟩ | ⟨r, found, last⟩
  · rw [found]
    intro r stored
    have other := List.filter_eq_nil_iff.1 empty r (List.mem_mergeSort.2 stored)
    simpa using other
  · obtain ⟨place, stands, keyed, others⟩ := last.exists_place_oldestFirst
    rw [found]
    refine ⟨place, stands, of_decide_eq_true keyed, fun other otherPlace otherStands otherKeyed apart => ?_⟩
    -- A record that counts no more either counts less or is earlier.
    rcases others other otherPlace otherStands (decide_eq_true otherKeyed) apart with smaller | ⟨noGreater, earlier⟩
    · exact .inl (Int.not_le.1 smaller)
    · exact (Int.lt_or_eq_of_le noGreater).imp_right fun same => ⟨same, earlier⟩

/-- Nothing is chosen exactly where no record has the key. -/
theorem IsGreatest.eq_none_iff {records : List Record} {period : Period} {field key : String} {chosen : Option Record}
    (greatest : IsGreatest records period field key chosen) :
    chosen = none ↔ ∀ r ∈ records, period.keyOf r ≠ key := by
  -- A chosen record has the key itself.
  cases chosen with
  | none => exact iff_of_true rfl greatest
  | some r =>
    obtain ⟨place, stands, keyed, -⟩ := greatest
    exact iff_of_false (by simp) fun unused => unused r (List.mem_of_getElem? stands) keyed

/-- Along the keys of a batch there is a choice for each key: its greatest record, and none exactly where no record has
the key. -/
theorem maxByDate_isGreatest (records : List Record) (period : Period) (field : String) :
    (maxByDate records period field).map Prod.fst = period.keys records ∧
    ∀ entry ∈ maxByDate records period field, IsGreatest records period field entry.1 entry.2 ∧
      (entry.2 = none ↔ ∀ r ∈ records, period.keyOf r ≠ entry.1) := by
  refine ⟨map_fst_maxByDate records period field, fun entry member => ?_⟩
  -- The choice at a key is what the scan of its own records found.
  rw [maxByDate_eq_map] at member
  obtain ⟨key, -, rfl⟩ := List.mem_map.1 member
  have greatest := isGreatest_foldl_greaterBy records period field key
  exact ⟨greatest, greatest.eq_none_iff⟩

/-- Two launches of the leap day with equal totals and starts, and a smaller one behind them. -/
def tiedRuns : List Record :=
  [(Sample.run "1" "Smoke" (Sample.midnight Sample.leapDay)).withCounter Field.total 5,
    (Sample.run "2" "Smoke" (Sample.midnight Sample.leapDay)).withCounter Field.total 5,
    (Sample.run "3" "Smoke" (Sample.midnight Sample.leapDay)).withCounter Field.total (-7)]

/-- Of the two launches that tie for the leap day the later one in the batch is chosen. -/
theorem maxByDate_isGreatest_tiedRuns : ∃ r, ("2024-02-29", some r) ∈ maxByDate tiedRuns (.span .day) Field.total ∧
    r.id = "2" ∧ IsGreatest tiedRuns (.span .day) Field.total "2024-02-29" (some r) := by
  -- Nothing starts earlier than what stands before it, so that sorting leaves the batch as it is.
  have sorted : Record.oldestFirst tiedRuns = tiedRuns := List.mergeSort_of_pairwise (by decide)
  have member : ("2024-02-29",
      some ((Sample.run "2" "Smoke" (Sample.midnight Sample.leapDay)).withCounter Field.total 5)) ∈
      maxByDate tiedRuns (.span .day) Field.total := by
    unfold maxByDate
    rw [sorted]
    decide +kernel
  exact ⟨_, member, rfl, ((maxByDate_isGreatest tiedRuns (.span .day) Field.total).2 _ member).1⟩

/-- One record on each day from some day to another, the newest first. -/
structure Daily (records : List Record) : Prop where
  newestFirst : records.Pairwise fun newer older => older.start ≤ newer.start
  single : ∃ first last : Date, (∀ r ∈ records, first ≤ r.date ∧ r.date ≤ last) ∧
    ∀ day, first ≤ day → day ≤ last → records.countP (·.date = day) = 1

namespace Daily

variable {records : List Record} (daily : Daily records)
include daily

/-- The day of a record is that of no other. -/
theorem filter_date {r : Record} (member : r ∈ records) : records.filter (·.date = r.date) = [r] := by
  -- There is one record on each day, so on the day of this record it is this one.
  obtain ⟨first, last, within, single⟩ := daily.single
  obtain ⟨above, below⟩ := within r member
  have one := single r.date above below
  rw [List.countP_eq_length_filter] at one
  obtain ⟨only, shape⟩ := List.length_eq_one_iff.1 one
  have listed : r ∈ records.filter (·.date = r.date) := by simp [member]
  rw [shape, List.mem_singleton] at listed
  rw [shape, listed]

/-- From the last record on the days are in order. -/
theorem pairwise_reverse : (records.reverse.map Record.date).Pairwise (· < ·) := by
  obtain ⟨first, last, within, single⟩ := daily.single
  rw [List.pairwise_map, List.pairwise_reverse]
  -- Records of one day would make two of them on that day.
  have distinct : (records.map Record.date).Nodup := by
    rw [List.nodup_iff_count_le_one]
    intro day
    by_cases listed : day ∈ records.map Record.date
    · obtain ⟨r, member, rfl⟩ := List.mem_map.1 listed
      obtain ⟨above, below⟩ := within r member
      have one := single r.date above below
      rw [List.count, List.countP_map]
      simp only [Function.comp_def, beq_eq_decide]
      omega
    · rw [List.count_eq_zero_of_not_mem listed]
      omega
  have ordered := daily.newestFirst.and (List.pairwise_map.1 distinct)
  refine ordered.imp ?_
  rintro newer older ⟨later, different⟩
  have order : older.date ≤ newer.date := Calendar.Moment.date_le_of_le later
  rw [Date.le_iff] at order
  rw [Date.lt_iff]
  -- Equal numbers would make the two days one.
  have apart : older.date.dayNumber ≠ newer.date.dayNumber := fun same => different (Date.eq_of_dayNumber_eq same.symm)
  omega

/-- The timeline has a point for each record, from the last one on. -/
theorem keys_eq : (Period.span .day).keys records = records.reverse.map (·.date.dayLabel) := by
  by_cases empty : records = []
  · subst empty
    rfl
  obtain ⟨earliest, latest, range, ⟨r, member, rfl⟩, ⟨s, lastMember, rfl⟩, within⟩ := exists_dateRange? empty
  obtain ⟨first, last, inside, single⟩ := daily.single
  -- Both lists of days are in order, so they are equal when they have the same days.
  have days : Span.day.points r.date s.date = records.reverse.map Record.date := by
    refine List.Pairwise.eq_of_mem_iff (Span.day.points_pairwise _ _) daily.pairwise_reverse fun day => ?_
    rw [Span.mem_points (within r member).2, List.mem_map]
    constructor
    · rintro ⟨e, above, below, rfl⟩
      -- A day of the timeline lies within the daily batch, where it has its one record.
      have one := single e (Std.le_trans (inside r member).1 above) (Std.le_trans below (inside s lastMember).2)
      have found : 0 < records.countP (·.date = e) := by omega
      obtain ⟨other, listed, dated⟩ := List.countP_pos_iff.1 found
      exact ⟨other, List.mem_reverse.2 listed, of_decide_eq_true dated⟩
    · rintro ⟨other, listed, rfl⟩
      obtain ⟨above, below⟩ := within other (List.mem_reverse.1 listed)
      exact ⟨other.date, above, below, rfl⟩
  rw [Period.keys_span .day range, Span.timeline_eq_map, days, List.map_map]
  rfl

/-- Each day has its only record as its greatest one. -/
theorem maxByDate_eq (field : String) :
    maxByDate records (.span .day) field = records.reverse.map fun r => (r.date.dayLabel, some r) := by
  rw [maxByDate_eq_map, daily.keys_eq, List.map_map]
  refine List.map_congr_left fun r member => ?_
  -- Sorting the records leaves the only one of the day alone.
  have onDay : (fun other : Record => decide ((Period.span .day).keyOf other = r.date.dayLabel)) =
      fun other => decide (other.date = r.date) := by
    funext other
    exact decide_eq_decide.2 ⟨Date.dayLabel_injective, congrArg Date.dayLabel⟩
  have sorted := (List.mergeSort_perm records fun a b => a.start ≤ b.start).filter fun other => other.date = r.date
  rw [daily.filter_date (List.mem_reverse.1 member)] at sorted
  simp only [Function.comp_apply, Record.oldestFirst, onDay, List.perm_singleton.1 sorted]
  rfl

end Daily
end Dashboard
