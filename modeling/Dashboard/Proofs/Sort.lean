/-! Stable sorting: items of which each may stand before the others keep their order. -/

namespace Dashboard

variable {α : Type} {le : α → α → Bool} (trans : ∀ a b c, le a b = true → le b c = true → le a c = true)
  (total : ∀ a b, (le a b || le b a) = true)
include trans total

/-- Among items each of which may stand before any other of them sorting changes nothing. -/
theorem filter_mergeSort_of_tied {kind : α → Bool}
    (tied : ∀ a b, kind a = true → kind b = true → le a b = true) (items : List α) :
    (items.mergeSort le).filter kind = items.filter kind := by
  -- They are in order already, so that the sorted list has them in this order.
  have ordered : (items.filter kind).Pairwise fun a b => le a b = true :=
    List.pairwise_filter.2 (List.pairwise_of_forall fun a b => tied a b)
  have kept := (List.sublist_mergeSort trans total ordered List.filter_sublist).filter kind
  simp only [List.filter_filter, Bool.and_self] at kept
  -- It has no others of their kind.
  exact (kept.eq_of_length ((List.mergeSort_perm items le).filter _).length_eq.symm).symm

/-- Items with ascending places that are sorted by a comparison stand in its order, and where it does not tell two of
them apart in that of their places. -/
theorem pairwise_mergeSort_places {entries : List (α × Nat)} (ascending : entries.Pairwise fun a b => a.2 < b.2) :
    (entries.mergeSort fun a b => le a.1 b.1).Pairwise fun a b =>
      le a.1 b.1 = true ∧ (le b.1 a.1 = true → a.2 < b.2) := by
  -- The places are left out of the comparison, so it compares as it does without them.
  have transPlaced : ∀ a b c : α × Nat, le a.1 b.1 = true → le b.1 c.1 = true → le a.1 c.1 = true :=
    fun a b c => trans a.1 b.1 c.1
  have totalPlaced : ∀ a b : α × Nat, (le a.1 b.1 || le b.1 a.1) = true := fun a b => total a.1 b.1
  have sorted := List.pairwise_mergeSort transPlaced totalPlaced entries
  refine List.pairwise_iff_forall_sublist.2 fun {a b} both => ?_
  have order := List.pairwise_iff_forall_sublist.1 sorted both
  refine ⟨order, fun tied => ?_⟩
  -- The items that tie with the first of the two are in the order of their places before and after.
  have stable : (entries.mergeSort fun a b => le a.1 b.1).filter (fun c => le a.1 c.1 && le c.1 a.1) =
      entries.filter fun c => le a.1 c.1 && le c.1 a.1 := by
    refine filter_mergeSort_of_tied transPlaced totalPlaced (fun c d first second => ?_) entries
    rw [Bool.and_eq_true] at first second
    exact trans _ _ _ first.2 second.1
  have pair := both.filter fun c => le a.1 c.1 && le c.1 a.1
  have itself : le a.1 a.1 = true := trans _ _ _ order tied
  simp only [List.filter_cons, itself, order, tied, Bool.and_self, if_true, List.filter_nil, stable] at pair
  exact List.pairwise_iff_forall_sublist.1 ascending (pair.trans List.filter_sublist)

end Dashboard
