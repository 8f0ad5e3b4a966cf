import Dashboard.Proofs.Statistics.Ranking
import Dashboard.Statistics.Durations

/-! Durations: the finished items that are asked for are ranked by how long they took. -/

namespace Dashboard

/-- A record is a step when it has no type or that of a step, and where methods count also when it has that of one. -/
theorem Record.isStep_iff {r : Record} {includeMethods : Bool} : r.isStep includeMethods = true ↔
    r.itemType = none ∨ ∃ itemType, r.itemType = some itemType ∧ (Text.sameUpToCase itemType "STEP" = true ∨
      includeMethods = true ∧ ∃ method ∈ ["BEFORE_METHOD", "AFTER_METHOD"],
        Text.sameUpToCase itemType method = true) := by
  -- A record without a type counts as a step.
  unfold isStep
  cases r.itemType <;> simp

namespace TimedItem

/-- Where statuses are asked for an item needs one of them up to case, and else any item will do. -/
theorem hasStatus_iff {statuses : List String} {r : Record} : hasStatus statuses r = true ↔
    ((∃ wanted, wanted ∈ statuses) → ∃ status wanted, r.status = some status ∧ wanted ∈ statuses ∧
      Text.sameUpToCase wanted status = true) := by
  -- Without any status there is nothing to be compared with.
  unfold hasStatus
  cases statuses with
  | nil => simp
  | cons first rest =>
    have asked : ∃ wanted, wanted ∈ first :: rest := ⟨first, List.mem_cons_self⟩
    rw [List.isEmpty_cons, Bool.false_or, Option.any_eq_true]
    simp only [asked, forall_const, List.any_eq_true, exists_and_left]

/-- An item tells how long a record took that has ended. -/
structure Times (r : Record) (item : TimedItem) : Prop where
  record : item.record = r
  duration : r.duration? = some item.duration

/-- The item of a record, unless the record has not ended or is not asked for. -/
def ofRecord? (statuses : List String) (includeMethods : Bool) (r : Record) : Option TimedItem :=
  if r.isStep includeMethods && hasStatus statuses r then r.duration?.map fun duration => { record := r, duration }
  else none

/-- The items that are ranked are those of the records one after another. -/
theorem rank_eq (records : List Record) (statuses : List String) (includeMethods : Bool) (limit : Nat) :
    rank records statuses includeMethods limit =
      ((records.filterMap (ofRecord? statuses includeMethods)).mergeSort ranksBefore).take limit := by
  simp only [rank, List.filterMap_filter]
  rfl

/-- A record makes an item when it has ended and is asked for, and this tells how long it took. -/
theorem ofRecord?_eq_some_iff {statuses : List String} {includeMethods : Bool} {r : Record} {item : TimedItem} :
    ofRecord? statuses includeMethods r = some item ↔
      (r.isStep includeMethods = true ∧ hasStatus statuses r = true) ∧ Times r item := by
  unfold ofRecord?
  rw [← Bool.and_eq_true]
  by_cases asked : (r.isStep includeMethods && hasStatus statuses r) = true
  · rw [if_pos asked, Option.map_eq_some_iff]
    constructor
    · rintro ⟨duration, took, rfl⟩
      exact ⟨asked, rfl, took⟩
    · rintro ⟨-, rfl, took⟩
      exact ⟨item.duration, took, rfl⟩
  · -- What is not asked for makes no item.
    simp [asked]

/-- The finished items that qualify are ranked by their durations, longest first, then by their names and then in the
order of the batch. -/
theorem exists_isRanking_rank {qualifies : Record → Prop} {statuses : List String} {includeMethods : Bool}
    (qualifying : ∀ r, qualifies r ↔ r.finish ≠ none ∧ r.isStep includeMethods = true ∧ hasStatus statuses r = true)
    (records : List Record) : ∃ ranking,
      IsRanking qualifies Times (GreaterFirst duration (·.record.name)) records ranking ∧
      ∀ limit, rank records statuses includeMethods limit = (ranking.take limit).map Prod.fst := by
  -- A finished item that is asked for takes some time, and makes an item of this duration.
  have made : ∀ r, qualifies r → ∃ item, ofRecord? statuses includeMethods r = some item := by
    intro r qualified
    obtain ⟨ended, asked⟩ := (qualifying r).1 qualified
    obtain ⟨finish, isEnd⟩ := Option.ne_none_iff_exists'.1 ended
    exact ⟨⟨r, r.start.millisUntil finish⟩, ofRecord?_eq_some_iff.2 ⟨asked, rfl, by rw [Record.duration?, isEnd]; rfl⟩⟩
  have described : ∀ r item, ofRecord? statuses includeMethods r = some item → qualifies r ∧ Times r item := by
    intro r item isItem
    obtain ⟨asked, times⟩ := ofRecord?_eq_some_iff.1 isItem
    -- Only what has ended has a duration.
    refine ⟨(qualifying r).2 ⟨fun running => ?_, asked⟩, times⟩
    have took := times.duration
    rw [Record.duration?, running] at took
    cases took
  have compared : ∀ a b : TimedItem, ranksBefore a b = true ↔
      b.duration < a.duration ∨ a.duration = b.duration ∧ a.record.name ≤ b.record.name := by
    simp [ranksBefore]
  obtain ⟨ranking, isRanking, sorted⟩ := exists_isRanking_greaterFirst duration (·.record.name) made described compared
    records
  refine ⟨ranking, isRanking, fun limit => ?_⟩
  rw [rank_eq, List.map_take, sorted]

end TimedItem
end Dashboard
