import Dashboard.Proofs.Sort
import Dashboard.Record.Basic
import Mathlib

/-! Rankings of a batch: the items that its records make, each with the place of its record, from the first in rank
on. -/

namespace Dashboard

section Items

variable {α β : Type} (item? : α → Option β)

/-- The items that some records make, each with the place of its record. -/
def placedItems (records : List α) : List (β × Nat) :=
  records.zipIdx.filterMap fun (r, place) => (item? r).map (·, place)

variable {item?}

/-- An item has a place when it is what the record at this place makes. -/
theorem mem_placedItems {records : List α} {entry : β × Nat} :
    entry ∈ placedItems item? records ↔ ∃ r, records[entry.2]? = some r ∧ item? r = some entry.1 := by
  unfold placedItems
  rw [List.mem_filterMap]
  -- A record is listed with its place, which is looked up again.
  constructor
  · rintro ⟨⟨r, place⟩, member, made⟩
    obtain ⟨item, isItem, rfl⟩ := Option.map_eq_some_iff.1 made
    exact ⟨r, List.mem_zipIdx_iff_getElem?.1 member, isItem⟩
  · rintro ⟨r, stands, isItem⟩
    exact ⟨(r, entry.2), List.mem_zipIdx_iff_getElem?.2 stands, Option.map_eq_some_iff.2 ⟨entry.1, isItem, rfl⟩⟩

variable (item?)

/-- Without their places they are the items of the records one after another. -/
theorem map_fst_placedItems (records : List α) :
    (placedItems item? records).map Prod.fst = records.filterMap item? := by
  -- The places are added to the records first, and passed through by the filter.
  have entries : records.filterMap item? = records.zipIdx.filterMap (item? ·.1) := by
    rw [← List.zipIdx_map_fst 0 records, List.filterMap_map, List.zipIdx_map_fst]
    rfl
  rw [entries, placedItems, List.map_filterMap]
  simp [Function.comp_def]

/-- Their places ascend. -/
theorem pairwise_placedItems (records : List α) : (placedItems item? records).Pairwise fun a b => a.2 < b.2 := by
  -- The places of the records ascend, and the items are made of some of them in their order.
  have places : (records.zipIdx.map Prod.snd).Pairwise (· < ·) := by
    rw [List.zipIdx_map_snd]
    exact List.pairwise_lt_range'
  refine List.pairwise_filterMap.2 ((List.pairwise_map.1 places).imp ?_)
  rintro a b before first made second alsoMade
  obtain ⟨-, -, rfl⟩ := Option.map_eq_some_iff.1 made
  obtain ⟨-, -, rfl⟩ := Option.map_eq_some_iff.1 alsoMade
  exact before

end Items

/-- A ranking of a batch has one item for each record that qualifies, together with the place of the record, and each
item stands before those that rank behind it. -/
structure IsRanking {β : Type} (qualifies : Record → Prop) (describes : Record → β → Prop)
    (before : β × Nat → β × Nat → Prop) (records : List Record) (ranking : List (β × Nat)) : Prop where
  distinct : (ranking.map Prod.snd).Nodup
  complete : ∀ (r : Record) (place : Nat), records[place]? = some r → qualifies r → place ∈ ranking.map Prod.snd
  sound : ∀ entry ∈ ranking, ∃ r, records[entry.2]? = some r ∧ qualifies r ∧ describes r entry.1
  ordered : ranking.Pairwise before

namespace IsRanking

variable {β : Type} {qualifies : Record → Prop} {describes : Record → β → Prop}
  {before : β × Nat → β × Nat → Prop} {records : List Record} {ranking : List (β × Nat)}

/-- What a ranking is cut to comes before all that is left out. -/
theorem before_of_cut (ranks : IsRanking qualifies describes before records ranking) (limit : Nat) :
    ∀ kept ∈ ranking.take limit, ∀ leftOut ∈ ranking.drop limit, before kept leftOut := by
  -- Whatever precedes the cut was sorted before what follows it.
  have split := ranks.ordered
  rw [← List.take_append_drop limit ranking] at split
  exact (List.pairwise_append.1 split).2.2

end IsRanking

/-- The stable sort of the items of a batch is a ranking of it. -/
theorem exists_isRanking {β : Type} {qualifies : Record → Prop} {describes : Record → β → Prop}
    {before : β × Nat → β × Nat → Prop} {item? : Record → Option β} {le : β → β → Bool}
    (made : ∀ r, qualifies r → ∃ item, item? r = some item)
    (described : ∀ r item, item? r = some item → qualifies r ∧ describes r item)
    (trans : ∀ a b c, le a b = true → le b c = true → le a c = true) (total : ∀ a b, (le a b || le b a) = true)
    (ranked : ∀ a b : β × Nat, le a.1 b.1 = true → (le b.1 a.1 = true → a.2 < b.2) → before a b)
    (records : List Record) : ∃ ranking, IsRanking qualifies describes before records ranking ∧
      ranking.map Prod.fst = (records.filterMap item?).mergeSort le := by
  have ascending := pairwise_placedItems item? records
  have perm := List.mergeSort_perm (placedItems item? records) fun a b => le a.1 b.1
  -- The places are sorted along with the items, so that each item still tells the record that it is of.
  refine ⟨(placedItems item? records).mergeSort fun a b => le a.1 b.1, ⟨?_, ?_, ?_, ?_⟩, ?_⟩
  · refine ((perm.map Prod.snd).nodup_iff).2 (List.pairwise_map.2 (ascending.imp ?_))
    exact Nat.ne_of_lt
  · -- No record that qualifies is missing.
    intro r place stands qualified
    obtain ⟨item, isItem⟩ := made r qualified
    exact ((perm.map Prod.snd).mem_iff).2
      (List.mem_map.2 ⟨(item, place), mem_placedItems.2 ⟨r, stands, isItem⟩, rfl⟩)
  · -- Each entry is an item of the record at its place.
    intro entry member
    obtain ⟨r, stands, isItem⟩ := mem_placedItems.1 (perm.mem_iff.1 member)
    exact ⟨r, stands, described r entry.1 isItem⟩
  · refine (pairwise_mergeSort_places trans total ascending).imp ?_
    rintro a b ⟨order, tied⟩
    exact ranked a b order tied
  · rw [← map_fst_placedItems]
    exact List.map_mergeSort fun _ _ _ _ => rfl

section Greatest

variable {β : Type} (size : β → Nat) (name : β → String)

/-- An item ranks before a smaller one, before another one of its size by its name, and if both have one name by its
place in the batch. -/
def GreaterFirst (a b : β × Nat) : Prop :=
  size b.1 < size a.1 ∨ size a.1 = size b.1 ∧ (name a.1 < name b.1 ∨ name a.1 = name b.1 ∧ a.2 < b.2)

/-- Of two items only one ranks before the other. -/
theorem GreaterFirst.asymm {a b : β × Nat} (first : GreaterFirst size name a b) : ¬ GreaterFirst size name b a := by
  -- Each of the three ways to rank first rules out each of the three ways back.
  rintro (larger | ⟨same, second⟩)
  · rcases first with smaller | ⟨same, -⟩ <;> omega
  · rcases first with smaller | ⟨-, before | ⟨named, placed⟩⟩
    · omega
    · rcases second with after | ⟨named, -⟩
      · exact lt_asymm before after
      · exact absurd before (named ▸ lt_irrefl _)
    · rcases second with after | ⟨-, behind⟩
      · exact absurd after (named ▸ lt_irrefl _)
      · omega

/-- Items sorted by their sizes, greatest first, and then by their names make a ranking. -/
theorem exists_isRanking_greaterFirst {qualifies : Record → Prop} {describes : Record → β → Prop}
    {item? : Record → Option β} {le : β → β → Bool}
    (made : ∀ r, qualifies r → ∃ item, item? r = some item)
    (described : ∀ r item, item? r = some item → qualifies r ∧ describes r item)
    (compared : ∀ a b, le a b = true ↔ size b < size a ∨ size a = size b ∧ name a ≤ name b)
    (records : List Record) : ∃ ranking, IsRanking qualifies describes (GreaterFirst size name) records ranking ∧
      ranking.map Prod.fst = (records.filterMap item?).mergeSort le := by
  -- By sizes and names the order is total, and where both are equal the sort keeps the order of the batch.
  refine exists_isRanking made described ?_ ?_ ?_ records
  · intro a b c first second
    rw [compared] at *
    rcases first with smaller | ⟨same, named⟩
    · exact .inl (by omega)
    · rcases second with smaller | ⟨sameToo, namedToo⟩
      · exact .inl (by omega)
      · exact .inr ⟨same.trans sameToo, named.trans namedToo⟩
  · intro a b
    rw [Bool.or_eq_true, compared, compared]
    rcases Nat.lt_trichotomy (size a) (size b) with smaller | same | greater
    · exact .inr (.inl smaller)
    · exact (le_total (name a) (name b)).imp (.inr ⟨same, ·⟩) (.inr ⟨same.symm, ·⟩)
    · exact .inl (.inl greater)
  · intro a b order tied
    rw [compared] at order tied
    refine order.imp_right fun ⟨same, named⟩ => ⟨same, ?_⟩
    -- Items of one size and one name tie, and the batch decides.
    rcases named.lt_or_eq with before | equal
    · exact .inl before
    · exact .inr ⟨equal, tied (.inr ⟨same.symm, equal.ge⟩)⟩

end Greatest
end Dashboard
