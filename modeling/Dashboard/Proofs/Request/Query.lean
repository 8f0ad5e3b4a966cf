import Dashboard.Proofs.Calendar.Moment
import Dashboard.Proofs.Sort
import Dashboard.Request.File
import Mathlib.Data.List.Nodup

/-! The records that a request is answered with: put in order by a stable sort, and cut to a limit. -/

namespace Dashboard

open Calendar (Moment)

deriving instance DecidableEq for RequestFile

namespace Record

/-- Whether a record may stand before another one in an order by time. -/
def Precedes (direction : SortDirection) (a b : Record) : Prop :=
  match direction with
  | .ascending => a.start ≤ b.start
  | .descending => b.start ≤ a.start

instance (direction : SortDirection) (a b : Record) : Decidable (Precedes direction a b) :=
  match direction with
  | .ascending => inferInstanceAs (Decidable (a.start ≤ b.start))
  | .descending => inferInstanceAs (Decidable (b.start ≤ a.start))

/-- Standing first passes on from record to record. -/
theorem Precedes.trans {direction : SortDirection} {a b c : Record} (first : Precedes direction a b)
    (second : Precedes direction b c) : Precedes direction a c := by
  cases direction with
  | ascending => exact Std.le_trans (α := Moment) first second
  | descending => exact Std.le_trans (α := Moment) second first

/-- Of two records one may stand before the other. -/
theorem precedes_total (direction : SortDirection) (a b : Record) : Precedes direction a b ∨ Precedes direction b a := by
  cases direction with
  | ascending => exact Std.le_total (α := Moment)
  | descending => exact Std.le_total (α := Moment)

/-- Of two records of one moment either may stand first. -/
theorem precedes_of_eq {direction : SortDirection} {a b : Record} (same : a.start = b.start) :
    Precedes direction a b := by
  cases direction with
  | ascending => exact Std.le_of_eq same
  | descending => exact Std.le_of_eq same.symm

/-- A batch is another one in the order of time, where records of one moment stay as they were stored. -/
structure StablySorted (direction : SortDirection) (stored sorted : List Record) : Prop where
  perm : sorted.Perm stored
  ordered : sorted.Pairwise (Precedes direction)
  stable : ∀ moment, sorted.filter (·.start = moment) = stored.filter (·.start = moment)

/-- Merging sorts a batch by time and keeps the records of one moment as they were stored. -/
theorem stablySorted_mergeSort (direction : SortDirection) (records : List Record) :
    StablySorted direction records (records.mergeSort fun a b => Precedes direction a b) := by
  have trans : ∀ a b c : Record, decide (Precedes direction a b) = true → decide (Precedes direction b c) = true →
      decide (Precedes direction a c) = true := by
    intro a b c first second
    exact decide_eq_true ((of_decide_eq_true first).trans (of_decide_eq_true second))
  have total : ∀ a b : Record, (decide (Precedes direction a b) || decide (Precedes direction b a)) = true := by
    intro a b
    -- Records of one moment are tied in either direction.
    simpa using precedes_total direction a b
  refine ⟨List.mergeSort_perm records _, ?_, fun moment => ?_⟩
  · simpa using List.pairwise_mergeSort trans total records
  · refine filter_mergeSort_of_tied trans total (fun a b first second => decide_eq_true ?_) records
    exact precedes_of_eq ((of_decide_eq_true first).trans (of_decide_eq_true second).symm)

/-- An order by time sorts its records so. -/
theorem stablySorted_sortBy {order : SortOrder} (byStart : order.isBy startTimeField = true)
    (records : List Record) : StablySorted order.direction records (sortBy order records) := by
  -- Each direction has a comparison of its own, and both are the one that was sorted by.
  have sorted := stablySorted_mergeSort order.direction records
  unfold sortBy
  rw [if_pos byStart]
  cases direction : order.direction with
  | ascending => rwa [direction] at sorted
  | descending => rwa [direction] at sorted

/-- A batch as it is fetched: in the order of time where it is to be in one, and else as it is stored. -/
def Fetched (order : SortOrder) (stored batch : List Record) : Prop :=
  if order.isBy startTimeField then StablySorted order.direction stored batch else batch = stored

/-- Putting a batch in order gives the batch as it is fetched. -/
theorem fetched_sortBy (order : SortOrder) (records : List Record) : Fetched order records (sortBy order records) := by
  -- Only an order by time moves the records.
  unfold Fetched
  by_cases byStart : order.isBy startTimeField = true
  · rw [if_pos byStart]
    exact stablySorted_sortBy byStart records
  · rw [if_neg byStart]
    exact if_neg byStart

/-- Records of different moments have one order by time only. -/
theorem eq_of_ordered {direction : SortDirection} {sorted others : List Record}
    (ordered : sorted.Pairwise (Precedes direction)) (otherOrdered : others.Pairwise (Precedes direction))
    (perm : others.Perm sorted) (distinct : (sorted.map Record.start).Nodup) : others = sorted := by
  refine perm.eq_of_pairwise ?_ otherOrdered ordered
  intro a b aMember bMember before after
  -- Each of the two starts no later than the other, so that they are the same record.
  refine List.inj_on_of_nodup_map distinct (perm.mem_iff.1 aMember) bMember ?_
  cases direction with
  | ascending => exact Std.le_antisymm (α := Moment) before after
  | descending => exact Std.le_antisymm (α := Moment) after before

/-- Records in an order by time, from the oldest on. -/
def chronological : SortDirection → List Record → List Record
  | .ascending, records => records
  | .descending, records => records.reverse

/-- From the oldest on no record starts before the one in front of it. -/
theorem pairwise_chronological {direction : SortDirection} {records : List Record}
    (ordered : records.Pairwise (Precedes direction)) :
    (chronological direction records).Pairwise fun a b => a.start ≤ b.start := by
  cases direction with
  | ascending => exact ordered
  | descending => exact List.pairwise_reverse.2 ordered

/-- Sorting loses no record. -/
@[simp] theorem length_sortBy (order : SortOrder) (records : List Record) :
    (sortBy order records).length = records.length := by
  unfold sortBy oldestFirst newestFirst
  split
  · split <;> simp
  · rfl

/-- The first of some records, as many as a limit allows. -/
def limit (limit? : Option UInt64) (records : List Record) : List Record :=
  match limit? with
  | some limit => records.take limit.toNat
  | none => records

/-- Cutting twice to the same limit cuts once. -/
theorem limit_limit (limit? : Option UInt64) (records : List Record) :
    limit limit? (limit limit? records) = limit limit? records := by
  cases limit? <;> simp [limit, List.take_take]

/-- What a limit leaves are some of the records, in their order. -/
theorem limit_sublist (limit? : Option UInt64) (records : List Record) : (limit limit? records).Sublist records := by
  cases limit? with
  | none => exact .refl records
  | some quantity => exact List.take_sublist quantity.toNat records

end Record

/-- Without a name a query asks for all records, in order and up to its limit. -/
theorem Query.apply_unnamed (order : SortOrder) (limit? : Option UInt64) (records : List Record) :
    ({ sort := order, limit := limit? } : Query).apply records = Record.limit limit? (Record.sortBy order records) := by
  have all : records.filter ({ sort := order, limit := limit? } : Query).admits = records :=
    List.filter_eq_self.2 fun _ _ => rfl
  unfold apply
  rw [all]
  -- What is left is the sort and the cut.
  rfl

namespace Request

/-- A request as it is loaded: with its records in order and cut to its own quantity. -/
def fetched (r : Request) : List Record :=
  Record.limit r.quantity (Record.sortBy r.sort r.records)

/-- A request considers the first of its records, as many as it asks for. -/
theorem limitedRecords_eq (r : Request) : r.limitedRecords = Record.limit r.quantity r.records := rfl

end Request

/-- A request that can be read and names a widget, if only on the command line, is loaded. -/
theorem RequestFile.load_eq_ok {path : String} {file : File} {widget? : Option String} {held : RequestFile}
    {request : Request} (readable : parse path file = .ok held)
    (accepted : held.toRequest path widget? = .ok request) :
    load path file widget? = .ok { request with records := request.fetched } := by
  simp only [load, readable, accepted, Bind.bind, Except.bind, Pure.pure, Except.pure, Query.apply_unnamed]
  rfl

/-- A loaded request is the one that its file makes, with the records of the file in order and cut to its quantity. -/
theorem RequestFile.exists_of_load {path : String} {file : File} {widget? : Option String} {request : Request}
    (loaded : load path file widget? = .ok request) : ∃ (held : RequestFile) (own : Request), parse path file = .ok held ∧
      own.records = held.allRecords ∧ request = { own with records := own.fetched } := by
  -- A file that cannot be parsed, or makes no request, is not loaded.
  cases readable : parse path file with
  | error failure => simp [load, readable, Bind.bind, Except.bind] at loaded
  | ok held =>
    cases accepted : held.toRequest path widget? with
    | error failure => simp [load, readable, accepted, Bind.bind, Except.bind] at loaded
    | ok own =>
      rw [load_eq_ok readable accepted] at loaded
      cases loaded
      refine ⟨held, own, rfl, ?_, rfl⟩
      -- A request keeps its records, and bare records become those of the request that the widget names.
      cases held with
      | whole request =>
        cases accepted
        rfl
      | batch records =>
        cases widget? with
        | none => cases accepted
        | some widget =>
          cases accepted
          rfl

end Dashboard
