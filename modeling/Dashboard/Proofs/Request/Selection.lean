import Dashboard.Proofs.Request.Query
import Dashboard.Proofs.Sample
import Mathlib

/-! Queries: what is fetched are the first of the records asked for, and fetching from what was fetched before changes
nothing more than the limit does. -/

namespace Dashboard

namespace Record

/-- The number of records that are left of some number of them under a limit. -/
def atMost (limit? : Option UInt64) (number : Nat) : Nat :=
  match limit? with
  | some limit => min limit.toNat number
  | none => number

/-- A limit leaves as many records as it allows, or all of them. -/
theorem length_limit (limit? : Option UInt64) (records : List Record) :
    (limit limit? records).length = atMost limit? records.length := by
  cases limit? with
  | none => rfl
  | some quantity => exact List.length_take

/-- Whatever a limit leaves out stands behind what it leaves. -/
theorem exists_limit_append (limit? : Option UInt64) (records : List Record) :
    ∃ leftOut, limit limit? records ++ leftOut = records := by
  cases limit? with
  | none => exact ⟨[], List.append_nil records⟩
  | some quantity => exact ⟨records.drop quantity.toNat, List.take_append_drop quantity.toNat records⟩

/-- A limit that is no wider than another one may come behind it. -/
theorem limit_limit_of_le {narrow : UInt64} {wide? : Option UInt64} (within : ∀ wide, wide? = some wide → narrow ≤ wide)
    (records : List Record) : limit (some narrow) (limit wide? records) = limit (some narrow) records := by
  cases wide? with
  | none => rfl
  | some wide =>
    have order := UInt64.le_iff_toNat_le.1 (within wide rfl)
    simp only [limit, List.take_take, Nat.min_eq_left order]

/-- Sorting records that are in the order of time already, or need not be, changes nothing. -/
theorem sortBy_eq_self {order : SortOrder} {records : List Record}
    (sorted : order.isBy startTimeField = true → records.Pairwise (Precedes order.direction)) :
    sortBy order records = records := by
  unfold sortBy
  by_cases byStart : order.isBy startTimeField = true
  · have sorted := sorted byStart
    rw [if_pos byStart]
    -- Each direction has a comparison of its own.
    cases direction : order.direction with
    | ascending =>
      rw [direction] at sorted
      exact List.mergeSort_of_pairwise (sorted.imp fun before => decide_eq_true before)
    | descending =>
      rw [direction] at sorted
      exact List.mergeSort_of_pairwise (sorted.imp fun before => decide_eq_true before)
  · rw [if_neg byStart]

/-- Sorting changes the order of records only. -/
theorem sortBy_perm (order : SortOrder) (records : List Record) : (sortBy order records).Perm records := by
  -- Whatever the order is, what is fetched has been put in order only.
  have fetched := fetched_sortBy order records
  unfold Fetched at fetched
  split at fetched
  · exact fetched.perm
  · rw [fetched]

end Record

namespace Query

/-- Some records are the first of others by time when they are in this order, records of one moment as they were stored,
and nothing that is left out is ahead of any of them. -/
structure FirstByTime (direction : SortDirection) (found answer : List Record) : Prop where
  ordered : answer.Pairwise (Record.Precedes direction)
  stable : ∀ moment, answer.filter (·.start = moment) <+: found.filter (·.start = moment)
  first : ∃ leftOut, (answer ++ leftOut).Perm found ∧
    ∀ kept ∈ answer, ∀ r ∈ leftOut, Record.Precedes direction kept r

/-- A query is answered by records of the name that it asks for, each no more often than it is stored and as many as its
limit allows: by the first of them in an order by time, and else by those that are stored first. -/
structure IsAnswered (q : Query) (stored answer : List Record) : Prop where
  named : ∀ r ∈ answer, ∀ name, q.name = some name → r.name = name
  taken : answer.Subperm stored
  length : answer.length = Record.atMost q.limit (stored.countP q.admits)
  byTime : q.sort.isBy startTimeField = true → FirstByTime q.sort.direction (stored.filter q.admits) answer
  asStored : q.sort.isBy startTimeField = false → answer <+: stored.filter q.admits

/-- A query admits the records with the name that it asks for, or all records. -/
theorem admits_iff {q : Query} {r : Record} : q.admits r = true ↔ ∀ name, q.name = some name → r.name = name := by
  unfold admits
  cases q.name with
  | none => simp
  | some name => simp

/-- A query filters, sorts and cuts. -/
theorem apply_eq (q : Query) (records : List Record) :
    q.apply records = Record.limit q.limit (Record.sortBy q.sort (records.filter q.admits)) := rfl

/-- What is fetched are some of the sorted records, in their order. -/
theorem apply_sublist (q : Query) (records : List Record) :
    (q.apply records).Sublist (Record.sortBy q.sort (records.filter q.admits)) :=
  Record.limit_sublist q.limit _

/-- What is fetched has the name that is asked for. -/
theorem admits_of_mem_apply {q : Query} {records : List Record} {r : Record} (member : r ∈ q.apply records) :
    q.admits r = true := by
  have sorted := (apply_sublist q records).subset member
  exact (List.mem_filter.1 ((Record.sortBy_perm q.sort _).mem_iff.1 sorted)).2

/-- What is fetched in an order by time is the first of what is found. -/
theorem firstByTime_apply {q : Query} (byStart : q.sort.isBy startTimeField = true) (records : List Record) :
    FirstByTime q.sort.direction (records.filter q.admits) (q.apply records) := by
  have sorted := Record.stablySorted_sortBy byStart (records.filter q.admits)
  obtain ⟨leftOut, whole⟩ := Record.exists_limit_append q.limit (Record.sortBy q.sort (records.filter q.admits))
  rw [← apply_eq] at whole
  -- The sorted records are those that are fetched and behind them those that are left out.
  rw [← whole] at sorted
  refine ⟨(List.pairwise_append.1 sorted.ordered).1, fun moment => ?_, leftOut, sorted.perm, ?_⟩
  · rw [← sorted.stable moment, List.filter_append]
    exact List.prefix_append _ _
  · exact (List.pairwise_append.1 sorted.ordered).2.2

/-- What is fetched is an answer to the query. -/
theorem isAnswered_apply (q : Query) (records : List Record) : q.IsAnswered records (q.apply records) where
  named r member := admits_iff.1 (admits_of_mem_apply member)
  taken := (apply_sublist q records).subperm.trans
    ((Record.sortBy_perm q.sort _).subperm.trans List.filter_sublist.subperm)
  length := by rw [apply_eq, Record.length_limit, Record.length_sortBy, List.countP_eq_length_filter]
  byTime byStart := firstByTime_apply byStart records
  asStored otherwise := by
    -- Nothing is moved, so that the limit leaves the first of what is found.
    obtain ⟨leftOut, whole⟩ := Record.exists_limit_append q.limit (Record.sortBy q.sort (records.filter q.admits))
    have unmoved : Record.sortBy q.sort (records.filter q.admits) = records.filter q.admits :=
      Record.sortBy_eq_self fun byStart => absurd byStart (by simp [otherwise])
    rw [unmoved] at whole
    rw [apply_eq, unmoved]
    exact ⟨leftOut, whole⟩

/-- The query with another limit. -/
def withLimit (q : Query) (limit? : Option UInt64) : Query :=
  { q with limit := limit? }

/-- From what a query has fetched one that differs in its limit only fetches the first records. -/
theorem apply_withLimit_apply (q : Query) (limit? : Option UInt64) (records : List Record) :
    (q.withLimit limit?).apply (q.apply records) = Record.limit limit? (q.apply records) := by
  -- All of them have the name that is asked for, and they are in order already.
  have all : (q.apply records).filter (q.withLimit limit?).admits = q.apply records :=
    List.filter_eq_self.2 fun r member => (admits_of_mem_apply member : q.admits r = true)
  have sorted : Record.sortBy q.sort (q.apply records) = q.apply records :=
    Record.sortBy_eq_self fun byStart => (firstByTime_apply byStart records).ordered
  rw [apply_eq, all]
  exact congrArg (Record.limit limit?) sorted

/-- A query is answered by the first of the records that it asks for. Asking again changes nothing, and what was fetched
under a wider limit answers it as the stored records do. -/
theorem apply_isAnswered (q : Query) (records : List Record) : q.IsAnswered records (q.apply records) ∧
    q.apply (q.apply records) = q.apply records ∧
    ∀ (narrow : UInt64) (wide? : Option UInt64), (∀ wide, wide? = some wide → narrow ≤ wide) →
      (q.withLimit (some narrow)).apply ((q.withLimit wide?).apply records) =
        (q.withLimit (some narrow)).apply records := by
  refine ⟨isAnswered_apply q records, ?_, fun narrow wide? within => ?_⟩
  · calc q.apply (q.apply records)
      _ = Record.limit q.limit (q.apply records) := apply_withLimit_apply q q.limit records
      _ = q.apply records := Record.limit_limit q.limit _
  · -- The wider limit is cut down to the narrow one, which is all that matters.
    calc (q.withLimit (some narrow)).apply ((q.withLimit wide?).apply records)
      _ = Record.limit (some narrow) ((q.withLimit wide?).apply records) :=
        apply_withLimit_apply (q.withLimit wide?) (some narrow) records
      _ = (q.withLimit (some narrow)).apply records := Record.limit_limit_of_le within _

open Sample (leapDay leapEve midnight run)

/-- Runs of two launches on two days, most of them at the same moment as another one. -/
def leapBatch : List Record :=
  [run "1" "api" (midnight leapEve), run "2" "ui" (midnight leapDay), run "3" "api" (midnight leapDay),
    run "4" "api" (midnight leapEve), run "5" "api" (midnight leapDay)]

/-- The three newest runs of one launch, in a spelling of its own. -/
def newestOfApi : Query :=
  { name := some "api", sort := { field := "Start_Time" }, limit := some 3 }

/-- Of the two older runs the one that is stored first is fetched, and two of the three answer for the two newest. -/
theorem apply_isAnswered_leapBatch : (newestOfApi.apply leapBatch).map (·.id) = ["3", "5", "1"] ∧
    newestOfApi.IsAnswered leapBatch (newestOfApi.apply leapBatch) ∧
    (newestOfApi.withLimit (some 2)).apply (newestOfApi.apply leapBatch) =
      (newestOfApi.withLimit (some 2)).apply leapBatch := by
  obtain ⟨answered, -, narrowed⟩ := apply_isAnswered newestOfApi leapBatch
  refine ⟨by cbv, answered, narrowed 2 (some 3) ?_⟩
  rintro wide ⟨⟩
  decide

end Query
end Dashboard
