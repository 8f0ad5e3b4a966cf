import Dashboard.Proofs.Record.Field
import Dashboard.Proofs.Sample
import Dashboard.Proofs.Statistics.Ranking
import Dashboard.Statistics.Failures

/-! Failures: flags say which entries of a history have a status up to case, and the items that have it at all are
ranked by how often they do. -/

namespace Dashboard

/-- The last item of a list that a test accepts stands before items that it does not accept. -/
theorem exists_eq_append_of_getLast?_filter {α : Type} {p : α → Bool} {items : List α} {last : α}
    (found : (items.filter p).getLast? = some last) : ∃ front behind, items = front ++ last :: behind ∧
      p last = true ∧ ∀ item ∈ behind, ¬ p item = true := by
  -- Behind the last accepted item the filter has found nothing, so that none of the items there is accepted.
  obtain ⟨accepted, shape⟩ := List.getLast?_eq_some_iff.1 found
  obtain ⟨front, back, rfl, -, backShape⟩ := List.filter_eq_append_iff.1 shape
  obtain ⟨between, behind, rfl, -, isLast, others⟩ := List.filter_eq_cons_iff.1 backShape
  exact ⟨front ++ between, behind, by simp, isLast, List.filter_eq_nil_iff.1 others⟩

/-- A counter in either spelling names the status that its last segment is in capitals. -/
theorem criterion_internal {field : String} (valid : Field.isValid field = true) :
    criterion (some (Field.internal field)) = Text.upper (Field.lastSegment field) := by
  obtain ⟨segment, found⟩ := Option.ne_none_iff_exists'.1
    (mt List.getLast?_eq_none_iff.1 (Field.segments_ne_nil field.toList))
  -- No segment of a valid name is empty.
  have isSegment := List.all_eq_true.1 valid segment (List.mem_of_getLast? found)
  unfold criterion Field.lastSegment
  rw [Option.bind_some, Field.getLast?_segments_internal, List.getLastD_eq_getLast?, found]
  cases segment with
  | nil => cases isSegment
  | cons c cs => rfl

/-- Some counters ask for a status when it is a known one that one of them names. -/
def AsksFor (fields : List String) (status : String) : Prop :=
  status ∈ knownStatuses ∧ ∃ field ∈ fields, Text.upper (Field.lastSegment field) = status

/-- The criteria of some counters are the statuses that they ask for. -/
theorem mem_criteria_internal {fields : List String} (valid : ∀ field ∈ fields, Field.isValid field = true)
    {status : String} : status ∈ criteria (fields.map Field.internal) ↔ AsksFor fields status := by
  -- A status is asked for by a field when it is the last segment of the field in capitals.
  unfold criteria AsksFor
  rw [List.mem_filter, List.map_map, List.mem_map, List.contains_iff_mem, and_comm]
  refine and_congr_right fun _ => exists_congr fun field => and_congr_right fun member => ?_
  rw [Function.comp_apply, criterion_internal (valid field member)]

namespace FailingItem

/-- A record fails when some entry of its history has the status of failures, up to case. -/
def Fails (status : String) (r : Record) : Prop :=
  ∃ entry ∈ r.history, Text.sameUpToCase entry.status status = true

/-- An item is the summary of a record's failures: one flag for each entry of the history says whether this is a
failure, the flags that are set are counted, and the time is that of the last entry whose flag is set. -/
structure Summarizes (status : String) (r : Record) (item : FailingItem) : Prop where
  id : item.id = r.id
  name : item.name = r.name
  flags : item.flags = r.history.map fun entry => Text.sameUpToCase entry.status status
  total : item.total = r.history.length
  failures : item.failures = item.flags.count true
  within : 1 ≤ item.failures ∧ item.failures ≤ item.total
  lastFailure : ∃ front last behind, r.history = front ++ last :: behind ∧
    Text.sameUpToCase last.status status = true ∧ (∀ entry ∈ behind, ¬ Text.sameUpToCase entry.status status = true) ∧
    item.lastFailure = some last.time

/-- A record makes no item exactly when it does not fail. -/
theorem ofRecord?_eq_none_iff {status : String} {r : Record} : ofRecord? status r = none ↔ ¬ Fails status r := by
  simp [ofRecord?, Fails]

/-- What is made of a record that fails is the summary of its failures. -/
theorem summarizes_of_ofRecord? {status : String} {r : Record} {item : FailingItem}
    (made : ofRecord? status r = some item) : Fails status r ∧ Summarizes status r item := by
  -- A record without failures would make no item.
  have fails : Fails status r := by
    by_contra never
    rw [ofRecord?_eq_none_iff.2 never] at made
    cases made
  refine ⟨fails, ?_⟩
  -- One failure there is, so that there is a last one, with none behind it.
  obtain ⟨entry, member, isFailure⟩ := fails
  have failing : r.history.filter (fun entry => Text.sameUpToCase entry.status status) ≠ [] :=
    List.ne_nil_of_mem (List.mem_filter.2 ⟨member, isFailure⟩)
  obtain ⟨last, found⟩ := Option.ne_none_iff_exists'.1 (mt List.getLast?_eq_none_iff.1 failing)
  obtain ⟨front, behind, shape, isLast, others⟩ := exists_eq_append_of_getLast?_filter found
  simp only [ofRecord?, failing, if_false, found, Option.map_some, Option.some.injEq] at made
  subst made
  refine ⟨rfl, rfl, rfl, List.length_map _, rfl, ⟨?_, List.count_le_length⟩, ?_⟩
  · exact List.count_pos_iff.2 (List.mem_map.2 ⟨entry, member, isFailure⟩)
  · exact ⟨front, last, behind, shape, isLast, others, rfl⟩

/-- The items that failed are ranked by their failures, most of them first, then by their names and then in the order of
the batch. What they are cut to is the front of this ranking, and nothing that is left out ranks before it. -/
theorem exists_ranking_byFailures (records : List Record) (status : String) : ∃ ranking,
    IsRanking (Fails status) (Summarizes status) (GreaterFirst failures name) records ranking ∧
    ∀ limit, rank records status limit = (ranking.take limit).map Prod.fst ∧
      ∀ kept ∈ ranking.take limit, ∀ leftOut ∈ ranking.drop limit, ¬ GreaterFirst failures name leftOut kept := by
  -- A record that fails has an entry to make an item of, and sorting compares failures before names.
  have made : ∀ r, Fails status r → ∃ item, ofRecord? status r = some item := by
    intro r fails
    exact Option.ne_none_iff_exists'.1 fun never => ofRecord?_eq_none_iff.1 never fails
  have compared : ∀ a b : FailingItem, ranksBefore a b = true ↔
      b.failures < a.failures ∨ a.failures = b.failures ∧ a.name ≤ b.name := by
    simp [ranksBefore]
  obtain ⟨ranking, isRanking, sorted⟩ := exists_isRanking_greaterFirst failures name made
    (fun _ _ => summarizes_of_ofRecord?) compared records
  refine ⟨ranking, isRanking, fun limit => ⟨?_, fun kept isKept leftOut isLeft => ?_⟩⟩
  · rw [List.map_take, sorted]
    rfl
  · -- What is kept ranks before what is left out, and two items cannot rank before each other.
    exact (isRanking.before_of_cut limit kept isKept leftOut isLeft).asymm

/-- Of two items that failed once the one with the smaller name comes first, although it is the later one. -/
theorem exists_ranking_byFailures_testItems : (rank Sample.testItems "Failed" 2).map (·.id) = ["2", "4"] ∧
    ∃ ranking kept leftOut, IsRanking (Fails "Failed") (Summarizes "Failed") (GreaterFirst failures name)
        Sample.testItems ranking ∧
      kept ∈ ranking.take 2 ∧ leftOut ∈ ranking.drop 2 ∧ ¬ GreaterFirst failures name leftOut kept := by
  obtain ⟨ranking, isRanking, cuts⟩ := exists_ranking_byFailures Sample.testItems "Failed"
  have made : Sample.testItems.filterMap (ofRecord? "Failed") =
      [⟨"1", "order", [false, true, false], some (Sample.leapHour 1)⟩,
        ⟨"2", "logout", [true, true], some (Sample.leapHour 1)⟩,
        ⟨"4", "login", [false, true], some (Sample.leapHour 1)⟩] := by
    decide +kernel
  have named : ¬ "order" ≤ "login" := by decide +kernel
  -- Two failures rank before one, and of the others the one with the smaller name comes first.
  have sorted : ∀ limit, (rank Sample.testItems "Failed" limit).map (·.id) = ["2", "4", "1"].take limit := by
    intro limit
    rw [rank, made, List.map_take]
    simp [List.mergeSort, ranksBefore, failures, named]
  -- Three of the five items are ranked.
  have ranked := congrArg List.length (sorted 5)
  rw [(cuts 5).1] at ranked
  simp only [List.length_map, List.length_take, List.length_cons, List.length_nil] at ranked
  obtain ⟨a, b, c, rfl⟩ := List.length_eq_three.1 (by omega : ranking.length = 3)
  exact ⟨sorted 2, _, b, c, isRanking, by simp, by simp, (cuts 2).2 b (by simp) c (by simp)⟩

end FailingItem
end Dashboard
