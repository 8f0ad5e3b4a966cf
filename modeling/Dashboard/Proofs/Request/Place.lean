import Dashboard.Proofs.Request.Query

/-! Records with their places in a batch: the order of time, in which records of one moment follow their places, and
the last of the greatest items of a list. -/

namespace Dashboard

/-- An item is the last of the greatest when no item before it is greater and every item behind it is smaller. -/
def LastGreatest {α β : Type} [LE β] (size : α → β) (items : List α) (best : α) : Prop :=
  ∃ before behind, items = before ++ best :: behind ∧ (∀ item ∈ before, size item ≤ size best) ∧
    ∀ item ∈ behind, ¬ size best ≤ size item

namespace LastGreatest

variable {α β : Type} [LE β] {size : α → β} {items : List α} {best : α}

/-- A single item is the last of the greatest. -/
theorem singleton (item : α) : LastGreatest size [item] item :=
  ⟨[], [], rfl, by simp, by simp⟩

/-- The last of the greatest is one of the items. -/
theorem mem (last : LastGreatest size items best) : best ∈ items := by
  obtain ⟨before, behind, rfl, -, -⟩ := last
  simp

/-- A smaller item at the end changes nothing. -/
theorem append_smaller (last : LastGreatest size items best) {item : α} (smaller : ¬ size best ≤ size item) :
    LastGreatest size (items ++ [item]) best := by
  -- The smaller item stands behind the best one, as those before it do.
  obtain ⟨before, behind, rfl, above, below⟩ := last
  refine ⟨before, behind ++ [item], by simp, above, fun other member => ?_⟩
  rcases List.mem_append.1 member with older | new
  · exact below other older
  · rwa [List.mem_singleton.1 new]

/-- Any other item at the end is the last of the greatest. -/
theorem append_greater [Std.IsLinearPreorder β] (last : LastGreatest size items best) {item : α}
    (greater : size best ≤ size item) : LastGreatest size (items ++ [item]) item := by
  obtain ⟨before, behind, rfl, above, below⟩ := last
  refine ⟨before ++ best :: behind, [], rfl, fun other member => ?_, by simp⟩
  -- What is behind the best item is smaller than it, and what is before it no greater.
  rcases List.mem_append.1 member with older | later
  · exact Std.le_trans (above other older) greater
  · rcases List.mem_cons.1 later with rfl | behindBest
    · exact greater
    · exact Std.le_trans (Std.le_of_not_ge (below other behindBest)) greater

end LastGreatest

namespace Record

/-- A record with its place in a batch is earlier than another one when it starts earlier, or when both start at the same
moment and it stands earlier in the batch. -/
def Earlier (a b : Record × Nat) : Prop :=
  a.1.start < b.1.start ∨ a.1.start = b.1.start ∧ a.2 < b.2

/-- The records of a batch with their places, from the earliest on. -/
def chronicle (records : List Record) : List (Record × Nat) :=
  records.zipIdx.mergeSort (List.zipIdxLE fun a b => a.start ≤ b.start)

/-- Without their places the records are sorted by time. -/
theorem map_fst_chronicle (records : List Record) : (chronicle records).map Prod.fst = oldestFirst records :=
  List.mergeSort_zipIdx

/-- Each record is there with its place. -/
theorem mem_chronicle {records : List Record} {entry : Record × Nat} :
    entry ∈ chronicle records ↔ records[entry.2]? = some entry.1 := by
  rw [chronicle, List.mem_mergeSort, List.mem_zipIdx_iff_getElem?]

/-- From the earliest record on each one is earlier than those behind it. -/
theorem pairwise_chronicle (records : List Record) : (chronicle records).Pairwise Earlier := by
  -- The sort compares the moments, and the places where these are the same.
  have sorted : (chronicle records).Pairwise fun a b =>
      List.zipIdxLE (fun a b : Record => decide (a.start ≤ b.start)) a b = true := by
    refine List.pairwise_mergeSort (List.zipIdxLE_trans ?_) (List.zipIdxLE_total ?_) _
    · intro a b c first second
      exact decide_eq_true (Std.le_trans (of_decide_eq_true first) (of_decide_eq_true second))
    · intro a b
      simpa using Std.le_total (α := Calendar.Moment)
  -- No two entries have the same place.
  have places : ((chronicle records).map Prod.snd).Nodup := by
    refine (((List.mergeSort_perm _ _).map Prod.snd).nodup_iff).2 ?_
    rw [List.zipIdx_map_snd]
    exact List.nodup_range'
  refine (sorted.and (List.pairwise_map.1 places)).imp ?_
  rintro a b ⟨order, apart⟩
  unfold List.zipIdxLE at order
  -- Of two records that are not apart in time the places decide.
  by_cases before : a.1.start ≤ b.1.start
  · by_cases behind : b.1.start ≤ a.1.start
    · simp only [before, behind, decide_true, if_true, decide_eq_true_eq] at order
      exact .inr ⟨Std.le_antisymm before behind, by omega⟩
    · exact .inl (Int.not_le.1 behind)
  · simp [before] at order

end Record

/-- Among records in the order of time the last of the greatest has a place: every other record is smaller, or is no
greater and earlier. -/
theorem LastGreatest.exists_place {β : Type} [LE β] {size : Record → β} {entries : List (Record × Nat)}
    (ordered : entries.Pairwise Record.Earlier) {best : Record}
    (last : LastGreatest size (entries.map Prod.fst) best) : ∃ place, (best, place) ∈ entries ∧
      ∀ other ∈ entries, other ≠ (best, place) →
        ¬ size best ≤ size other.1 ∨ size other.1 ≤ size best ∧ Record.Earlier other (best, place) := by
  obtain ⟨before, behind, shape, above, below⟩ := last
  obtain ⟨front, rest, rfl, rfl, split⟩ := List.map_eq_append_iff.1 shape
  obtain ⟨⟨_, place⟩, back, rfl, rfl, rfl⟩ := List.map_eq_cons_iff.1 split
  refine ⟨place, by simp, fun other member different => ?_⟩
  -- Those in front of it are earlier and no greater, and those behind it are smaller.
  rcases List.mem_append.1 member with older | later
  · exact .inr ⟨above _ (List.mem_map_of_mem older),
      (List.pairwise_append.1 ordered).2.2 other older _ List.mem_cons_self⟩
  · rcases List.mem_cons.1 later with same | newer
    · exact absurd same different
    · exact .inl (below _ (List.mem_map_of_mem newer))

/-- In the order of time the last of the greatest records of some kind has a place in the batch: every other record of
its kind is smaller, or is no greater and earlier. -/
theorem LastGreatest.exists_place_oldestFirst {β : Type} [LE β] {size : Record → β} {records : List Record}
    {kind : Record → Bool} {best : Record}
    (last : LastGreatest size ((Record.oldestFirst records).filter kind) best) : ∃ place,
      records[place]? = some best ∧ kind best = true ∧
      ∀ (other : Record) (otherPlace : Nat), records[otherPlace]? = some other → kind other = true →
        otherPlace ≠ place →
        ¬ size best ≤ size other ∨ size other ≤ size best ∧ Record.Earlier (other, otherPlace) (best, place) := by
  have entries : (Record.oldestFirst records).filter kind =
      ((Record.chronicle records).filter (kind ·.1)).map Prod.fst := by
    rw [← Record.map_fst_chronicle, List.filter_map]
    rfl
  rw [entries] at last
  obtain ⟨place, here, others⟩ := last.exists_place ((Record.pairwise_chronicle records).filter _)
  obtain ⟨entry, isKind⟩ := List.mem_filter.1 here
  refine ⟨place, Record.mem_chronicle.1 entry, isKind, fun other otherPlace stands otherIsKind apart => ?_⟩
  -- Entries of different places differ.
  refine others (other, otherPlace) ?_ fun same => apart (congrArg Prod.snd same)
  exact List.mem_filter.2 ⟨Record.mem_chronicle.2 stands, otherIsKind⟩

end Dashboard
