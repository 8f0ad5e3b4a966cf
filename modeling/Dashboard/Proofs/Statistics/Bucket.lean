import Dashboard.Proofs.Calendar.Timeline
import Dashboard.Proofs.Grouped
import Dashboard.Proofs.Indexed
import Dashboard.Proofs.Sample
import Dashboard.Proofs.Statistics.Partition
import Dashboard.Proofs.Table
import Dashboard.Statistics.Bucket

/-! Buckets divide the records: a timeline has a bucket for each day or month, and each record falls into one. -/

namespace Dashboard

open Calendar (Date Span)

/-- Records have an earliest and a latest date. -/
theorem exists_dateRange? {records : List Record} (nonempty : records ≠ []) :
    ∃ earliest latest, dateRange? records = some (earliest, latest) ∧
      (∃ r ∈ records, r.date = earliest) ∧ (∃ r ∈ records, r.date = latest) ∧
      ∀ r ∈ records, earliest ≤ r.date ∧ r.date ≤ latest := by
  -- The least and the greatest of the dates are found among them.
  have someDates : records.map Record.date ≠ [] := by simpa using nonempty
  obtain ⟨earliest, foundEarliest⟩ := Option.isSome_iff_exists.1 (List.isSome_min?_of_ne_nil someDates)
  obtain ⟨latest, foundLatest⟩ := Option.isSome_iff_exists.1 (List.isSome_max?_of_ne_nil someDates)
  obtain ⟨earliestMember, below⟩ := List.min?_eq_some_iff.1 foundEarliest
  obtain ⟨latestMember, above⟩ := List.max?_eq_some_iff.1 foundLatest
  refine ⟨earliest, latest, ?_, List.mem_map.1 earliestMember, List.mem_map.1 latestMember, fun r member => ?_⟩
  · simp only [dateRange?, foundEarliest, foundLatest]
    rfl
  · have dated := List.mem_map_of_mem (f := Record.date) member
    exact ⟨below _ dated, above _ dated⟩

/-- Names are listed in the order of their first mention. -/
theorem distinctNames_eq (records : List Record) : distinctNames records = (records.map (·.name)).eraseDups := by
  -- The last record adds its name at the end, unless it was mentioned before.
  induction records using List.reverseRecOn with
  | nil => rfl
  | append_singleton records r ih =>
    have grown : distinctNames (records ++ [r]) =
        if (distinctNames records).contains r.name then distinctNames records
        else distinctNames records ++ [r.name] := by
      simp [distinctNames]
    rw [grown, ih, List.map_append, List.map_singleton, eraseDups_append_singleton]
    simp only [List.contains_iff_mem, List.mem_eraseDups]

namespace Period

/-- On a timeline the keys are the labels between the earliest and the latest date. -/
theorem keys_span {records : List Record} {earliest latest : Date} (span : Span)
    (range : dateRange? records = some (earliest, latest)) :
    (Period.span span).keys records = span.timeline earliest latest := by
  simp only [keys, range]

/-- On a timeline a record has the key of its date. -/
theorem keyOf_span (span : Span) (r : Record) : (Period.span span).keyOf r = span.pointLabel r.date := rfl

/-- No two buckets have the same key, neither along a timeline nor by name. -/
theorem keys_nodup (period : Period) (records : List Record) : (period.keys records).Nodup := by
  -- Names are listed without repetition, and a timeline only goes forward.
  unfold keys
  split
  · rw [distinctNames_eq]
    exact nodup_eraseDups _
  · -- Without any record there are no keys at all.
    rename_i span
    split
    · exact span.timeline_nodup _ _
    · exact List.nodup_nil

/-- Every record has its key on the timeline. -/
theorem keyOf_mem_keys_span (span : Span) {records : List Record} {r : Record} (member : r ∈ records) :
    (Period.span span).keyOf r ∈ (Period.span span).keys records := by
  -- The date of a record lies between the earliest and the latest one.
  obtain ⟨earliest, latest, range, -, -, within⟩ := exists_dateRange? (List.ne_nil_of_mem member)
  obtain ⟨above, below⟩ := within r member
  rw [keys_span span range, keyOf_span, Span.mem_timeline (Std.le_trans above below)]
  exact ⟨r.date, above, below, rfl⟩

end Period

/-- The counters of some records are those that one of them has. -/
theorem mem_fieldsIn {records : List Record} {field : String} :
    field ∈ fieldsIn records ↔ ∃ r ∈ records, field ∈ r.counters.keys := by
  -- The table only puts the names in order and drops repetitions.
  unfold fieldsIn
  rw [← List.map_flatMap, Table.mem_keys_ofList_const, List.mem_flatMap]

/-- No record counts below zero. -/
theorem Record.count_nonneg (r : Record) (field : String) : 0 ≤ r.count field := by
  -- What is stored below zero is read as zero.
  unfold count
  split
  · exact le_max_right _ 0
  · exact Int.le_refl 0

/-- No exact sum of counts is below zero. -/
theorem exactOver_nonneg (records : List Record) (field : String) : 0 ≤ exactOver records field := by
  -- No count is below zero, and the sum starts from zero.
  induction records with
  | nil => exact Int.le_refl 0
  | cons r rest ih =>
    rw [exactOver, List.map_cons, List.sum_cons]
    exact Int.add_nonneg (r.count_nonneg field) ih

/-- The exact sum over some of the records is no greater than that over all of them. -/
theorem exactOver_filter_le (keep : Record → Bool) (records : List Record) (field : String) :
    exactOver (records.filter keep) field ≤ exactOver records field := by
  -- What is left out counts no less than zero.
  induction records with
  | nil => exact Int.le_refl 0
  | cons r rest ih =>
    have counted := r.count_nonneg field
    have grown : exactOver (r :: rest) field = r.count field + exactOver rest field := List.sum_cons
    rw [List.filter_cons]
    split
    · have kept : exactOver (r :: rest.filter keep) field = r.count field + exactOver (rest.filter keep) field :=
        List.sum_cons
      omega
    · omega

/-- No record counts beyond a signed word. -/
theorem Record.count_le (r : Record) (field : String) : r.count field ≤ Int64.maxValue.toInt := by
  -- A stored counter is a signed word itself.
  unfold count
  split
  · exact max_le (Int64.toInt_le _) (by decide)
  · decide

namespace Bucket

/-- Adding a record leaves the key as it is. -/
@[simp] theorem add_key (fields : List String) (bucket : Bucket) (r : Record) :
    (add fields bucket r).key = bucket.key := rfl

/-- Adding a record makes the bucket larger by one. -/
@[simp] theorem add_size (fields : List String) (bucket : Bucket) (r : Record) :
    (add fields bucket r).size = bucket.size + 1 := rfl

/-- A field that is named several times is added as many times, and the total wrapped. -/
theorem get?_foldl_add_field (fields : List String) (count : String → Int) (totals : Table Int) (field : String) :
    (fields.foldl (fun totals field => totals.insert field (Word.add ((totals.get? field).getD 0) (count field)))
      totals).get? field = if field ∈ fields then
        some (Word.wrap ((totals.get? field).getD 0 + fields.count field * count field)) else totals.get? field := by
  -- Only a mention of the field itself changes its total.
  -- A first mention adds the count to what is there, and further mentions add it again.
  induction fields generalizing totals with
  | nil => simp
  | cons name rest ih =>
    rw [List.foldl_cons, ih, Table.get?_insert]
    by_cases here : field = name
    · subst here
      rw [if_pos rfl, if_pos List.mem_cons_self, List.count_cons_self, Option.getD_some, Word.add_eq_wrap]
      by_cases again : field ∈ rest
      · rw [if_pos again, Word.wrap_wrap_add]
        push_cast
        ring_nf
      · rw [if_neg again, List.count_eq_zero_of_not_mem again]
        simp
    · rw [List.count_cons_of_ne (Ne.symm here)]
      simp only [List.mem_cons, here, false_or, if_false]

/-- The bucket that some records make together. -/
def gathered (fields : List String) (key : String) (records : List Record) : Bucket :=
  records.foldl (add fields) (placeholder fields key)

/-- Adding records leaves the key as it is. -/
theorem foldl_add_key (fields : List String) (records : List Record) (bucket : Bucket) :
    (records.foldl (add fields) bucket).key = bucket.key := by
  -- One record after another is added.
  induction records generalizing bucket with
  | nil => rfl
  | cons r rest ih => rw [List.foldl_cons, ih, add_key]

/-- Adding records makes the bucket larger by their number. -/
theorem foldl_add_size (fields : List String) (records : List Record) (bucket : Bucket) :
    (records.foldl (add fields) bucket).size = bucket.size + records.length := by
  -- Each record makes it larger by one.
  induction records generalizing bucket with
  | nil => rfl
  | cons r rest ih =>
    rw [List.foldl_cons, ih, add_size, List.length_cons]
    omega

/-- Adding records adds the exact sum of their counts to each total, once for each mention of its field, and wraps it. -/
theorem get?_foldl_add (fields : List String) (records : List Record) {bucket : Bucket} {field : String} {total : Int}
    (held : bucket.totals.get? field = some (Word.wrap total)) :
    (records.foldl (add fields) bucket).totals.get? field =
      some (Word.wrap (total + fields.count field * exactOver records field)) := by
  -- A field that is not named is mentioned no times, so nothing is added to it.
  induction records generalizing bucket total with
  | nil => simp [held, exactOver]
  | cons r rest ih =>
    -- One record adds its count to the total, as often as the field is mentioned.
    have grown : (add fields bucket r).totals.get? field =
        some (Word.wrap (total + fields.count field * r.count field)) := by
      simp only [add]
      rw [get?_foldl_add_field, held]
      by_cases named : field ∈ fields
      · rw [if_pos named, Option.getD_some, Word.wrap_wrap_add]
      · rw [if_neg named, List.count_eq_zero_of_not_mem named]
        simp
    have split : exactOver (r :: rest) field = r.count field + exactOver rest field := List.sum_cons
    rw [List.foldl_cons, ih grown, split, mul_add, add_assoc]

/-- Adding records makes no totals for fields that are not named. -/
theorem get?_foldl_add_of_not_mem {fields : List String} (records : List Record) {bucket : Bucket} {field : String}
    (unnamed : field ∉ fields) :
    (records.foldl (add fields) bucket).totals.get? field = bucket.totals.get? field := by
  -- Each record adds to the named fields only.
  induction records generalizing bucket with
  | nil => rfl
  | cons r rest ih =>
    rw [List.foldl_cons, ih]
    simp only [add]
    rw [get?_foldl_add_field, if_neg unnamed]

/-- A placeholder holds zero under each of its fields and nothing else. -/
theorem get?_placeholder (fields : List String) (key field : String) :
    (placeholder fields key).totals.get? field = if field ∈ fields then some 0 else none :=
  Table.get?_ofList_const fields 0 field

/-- The bucket of some records holds the exact sums of their counts, once for each mention of a field, and wrapped. -/
theorem get?_gathered (fields : List String) (key : String) (records : List Record) (field : String) :
    (gathered fields key records).totals.get? field =
      if field ∈ fields then some (Word.wrap (fields.count field * exactOver records field)) else none := by
  -- The placeholder starts every named field at zero.
  by_cases named : field ∈ fields
  · have held : (placeholder fields key).totals.get? field = some (Word.wrap 0) := by
      rw [get?_placeholder, if_pos named, Word.wrap_zero]
    rw [if_pos named, gathered, get?_foldl_add fields records held, zero_add]
  · rw [gathered, get?_foldl_add_of_not_mem records named, get?_placeholder, if_neg named, if_neg named]

/-- A total that a bucket was asked for once is the sum over its records. -/
theorem get?_gathered_of_once {fields : List String} {field : String} (once : fields.count field = 1)
    (key : String) (records : List Record) :
    (gathered fields key records).totals.get? field = some (sumOver records field) := by
  -- What is wrapped is the exact sum itself, taken once.
  have named : field ∈ fields := List.count_pos_iff.1 (by omega)
  rw [get?_gathered, if_pos named, once, sumOver_eq_wrap, Int.natCast_one, one_mul]

/-- The bucket of some records has the key it was made for. -/
@[simp] theorem gathered_key (fields : List String) (key : String) (records : List Record) :
    (gathered fields key records).key = key := foldl_add_key fields records _

/-- The bucket of some records has their number as its size. -/
@[simp] theorem gathered_size (fields : List String) (key : String) (records : List Record) :
    (gathered fields key records).size = records.length := by
  rw [gathered, foldl_add_size]
  exact Nat.zero_add _

/-- The fields that a bucket adds up. -/
def summed (records : List Record) (fields : List String) : List String :=
  if fields = [] then fieldsIn records else fields

/-- Each bucket is made of the records of its key. -/
theorem ofRecords_eq_map (records : List Record) (period : Period) (fields : List String) :
    ofRecords records period fields = (period.keys records).map fun key =>
      gathered (summed records fields) key (records.filter (period.keyOf · = key)) :=
  congrArg Indexed.items (Indexed.foldl_change_ofKeys (period.keys_nodup records) period.keyOf
    (add (summed records fields)) records (placeholder (summed records fields)))

/-- Buckets stand under the keys they are made for. -/
theorem map_key_ofRecords (records : List Record) (period : Period) (fields : List String) :
    (ofRecords records period fields).map key = period.keys records := by
  -- There is one bucket for each key, and it carries its key.
  rw [ofRecords_eq_map, List.map_map]
  refine (List.map_congr_left fun key _ => ?_).trans (List.map_id _)
  exact gathered_key _ key _

/-- A bucket of some records is made of those that have its key. -/
theorem eq_gathered_of_mem {records : List Record} {period : Period} {fields : List String} {bucket : Bucket}
    (member : bucket ∈ ofRecords records period fields) :
    bucket.key ∈ period.keys records ∧
      bucket = gathered (summed records fields) bucket.key (records.filter (period.keyOf · = bucket.key)) := by
  -- The bucket made for a key carries this key.
  rw [ofRecords_eq_map] at member
  obtain ⟨key, listed, rfl⟩ := List.mem_map.1 member
  rw [gathered_key]
  exact ⟨listed, rfl⟩

/-- Whether buckets are to hold a field: one that is asked for, or else one that some record has. -/
def Requested (records : List Record) (fields : List String) (field : String) : Prop :=
  if fields = [] then ∃ r ∈ records, field ∈ r.counters.keys else field ∈ fields

/-- The requested fields are those that are added up. -/
theorem mem_summed {records : List Record} {fields : List String} {field : String} :
    field ∈ summed records fields ↔ Requested records fields field := by
  -- Without any field named, those of the records are both.
  unfold summed Requested
  split
  · exact mem_fieldsIn
  · exact Iff.rfl

/-- Buckets divide records along a timeline when none of its days or months and none of the records is lost. -/
structure DivideTimeline (span : Span) (records : List Record) (fields : List String)
    (buckets : List Bucket) : Prop where
  /-- There is one bucket for each day or month from the earliest to the latest record, in the order of time. -/
  contiguous : ∃ (earliest latest : Date) (points : List Date),
    (∃ r ∈ records, r.date = earliest) ∧ (∃ r ∈ records, r.date = latest) ∧
    (∀ r ∈ records, earliest ≤ r.date ∧ r.date ≤ latest) ∧
    points.Pairwise (· < ·) ∧ (∀ d, d ∈ points ↔ ∃ e, earliest ≤ e ∧ e ≤ latest ∧ span.firstPoint e = d) ∧
    buckets.map key = points.map span.pointLabel
  /-- No two buckets have the same key. -/
  distinct : (buckets.map key).Nodup
  /-- Each record falls into exactly one bucket. -/
  placed : ∀ r ∈ records, ∃! bucket, bucket ∈ buckets ∧ bucket.key = (Period.span span).keyOf r
  /-- The size of a bucket is the number of records that have its key. -/
  counted : ∀ bucket ∈ buckets, bucket.size = records.countP ((Period.span span).keyOf · = bucket.key)
  /-- All sizes together make the number of records. -/
  complete : (buckets.map size).sum = records.length
  /-- A placeholder is a bucket whose key no record has. -/
  gaps : ∀ bucket ∈ buckets, bucket.isPlaceholder = true ↔ ∀ r ∈ records, (Period.span span).keyOf r ≠ bucket.key
  /-- A placeholder holds zero under each requested field. -/
  zeros : ∀ bucket ∈ buckets, bucket.isPlaceholder = true →
    ∀ field, Requested records fields field → bucket.totals.get? field = some 0

/-- The buckets of records along a timeline divide them, whatever the order of the records. -/
theorem ofRecords_divideTimeline {records : List Record} (nonempty : records ≠ []) (span : Span)
    (fields : List String) : DivideTimeline span records fields (ofRecords records (.span span) fields) where
  contiguous := by
    -- The walk from the earliest to the latest date meets all points between them.
    obtain ⟨earliest, latest, range, ofEarliest, ofLatest, within⟩ := exists_dateRange? nonempty
    obtain ⟨r, member, rfl⟩ := ofEarliest
    have order := (within r member).2
    refine ⟨r.date, latest, span.points r.date latest, ⟨r, member, rfl⟩, ofLatest, within,
      span.points_pairwise _ _, fun d => Span.mem_points order, ?_⟩
    rw [map_key_ofRecords, Period.keys_span span range, Span.timeline_eq_map]
  distinct := by
    -- The keys are the labels of the timeline.
    rw [map_key_ofRecords]
    exact Period.keys_nodup (.span span) records
  placed := by
    -- The timeline lists the key of every record, and a key determines its bucket.
    intro r member
    refine ⟨gathered (summed records fields) ((Period.span span).keyOf r) (records.filter fun other =>
      (Period.span span).keyOf other = (Period.span span).keyOf r), ⟨?_, gathered_key _ _ _⟩, ?_⟩
    · rw [ofRecords_eq_map]
      exact List.mem_map_of_mem (Period.keyOf_mem_keys_span span member)
    · rintro bucket ⟨listed, sameKey⟩
      rw [(eq_gathered_of_mem listed).2, sameKey]
  counted := by
    -- A bucket is made of the records of its key, each of which makes it larger by one.
    intro bucket member
    rw [(eq_gathered_of_mem member).2, gathered_size, gathered_key, List.countP_eq_length_filter]
  complete := by
    -- The timeline covers the keys of all records, so that their groups make up the batch.
    rw [ofRecords_eq_map, List.map_map]
    have sizes : size ∘ (fun key => gathered (summed records fields) key
        (records.filter ((Period.span span).keyOf · = key))) =
        fun key => (records.filter ((Period.span span).keyOf · = key)).length := by
      funext key
      exact gathered_size _ _ _
    rw [sizes]
    exact sum_map_length_filter (Period.keys_nodup (.span span) records) (Period.span span).keyOf records
      fun r member => Period.keyOf_mem_keys_span span member
  gaps := by
    -- A bucket has size zero when it is made of no records.
    intro bucket member
    have made := (eq_gathered_of_mem member).2
    unfold isPlaceholder
    rw [decide_eq_true_iff, made, gathered_size, gathered_key, List.length_eq_zero_iff, List.filter_eq_nil_iff]
    simp
  zeros := by
    -- The sum over no records is zero, however often a field is mentioned.
    intro bucket member empty field requested
    have made := (eq_gathered_of_mem member).2
    unfold isPlaceholder at empty
    rw [decide_eq_true_iff, made, gathered_size, List.length_eq_zero_iff] at empty
    rw [made, empty, get?_gathered, if_pos (mem_summed.2 requested)]
    simp [exactOver]

/-- Launches in the last two months of the calendar, the later one first. -/
def lastRuns : List Record :=
  [Sample.run "2" "Smoke" (Sample.midnight Sample.lastDay), Sample.run "1" "Smoke" (Sample.midnight Sample.lateDay)]

/-- The last months of the calendar divide their launches. -/
theorem ofRecords_divideTimeline_lastRuns :
    lastRuns ≠ [] ∧ DivideTimeline .month lastRuns [Field.total] (ofRecords lastRuns (.span .month) [Field.total]) := by
  have nonempty : lastRuns ≠ [] := by decide
  exact ⟨nonempty, ofRecords_divideTimeline nonempty .month [Field.total]⟩

end Bucket
end Dashboard
