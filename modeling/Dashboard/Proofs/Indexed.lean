import Dashboard.Indexed
import Dashboard.Proofs.Table
import Mathlib

/-! Items under distinct keys: the index leads to the item of a key and to no other one, and stays right when further items
are put behind the others. -/

namespace Dashboard.Indexed

variable {α β : Type}

/-- The slot that the index has for a key is a place at which the key stands. -/
theorem getElem?_of_slots {keys : List String} {make : String → α} {key : String} {slot : Nat}
    (found : (ofKeys keys make).slots.get? key = some slot) : keys[slot]? = some key := by
  -- Slots are numbered by place, and turning them around leaves them what they are.
  rw [ofKeys, Table.get?_ofList] at found
  obtain ⟨before, after, shape, -⟩ := List.lookup_eq_some_iff.1 found
  have member : (key, slot) ∈ keys.zipIdx.reverse := by simp [shape]
  exact List.mem_zipIdx_iff_getElem?.1 (List.mem_reverse.1 member)

/-- A key that the index does not have is not among the keys. -/
theorem not_mem_of_slots {keys : List String} {make : String → α} {key : String}
    (missing : (ofKeys keys make).slots.get? key = none) : key ∉ keys := by
  -- Each listed key has a slot, namely its place.
  rw [ofKeys, Table.get?_ofList] at missing
  intro listed
  obtain ⟨slot, standing⟩ := List.mem_iff_getElem?.1 listed
  have member : (key, slot) ∈ keys.zipIdx.reverse := List.mem_reverse.2 (List.mem_zipIdx_iff_getElem?.2 standing)
  have differs := List.lookup_eq_none_iff.1 missing _ member
  simp at differs

/-- The item in the slot of one of some distinct keys is the only one that a change of this slot reaches. -/
theorem modify_map {keys : List String} (distinct : keys.Nodup) {key : String} {slot : Nat}
    (standing : keys[slot]? = some key) (make : String → α) (f : α → α) :
    (keys.map make).modify slot f = keys.map fun k => if key = k then f (make k) else make k := by
  -- Distinct keys stand at distinct places.
  obtain ⟨within, atSlot⟩ := List.getElem?_eq_some_iff.1 standing
  refine List.ext_getElem (by simp) fun place inMade inMapped => ?_
  have inKeys : place < keys.length := by simpa using inMapped
  simp only [List.getElem_modify, List.getElem_map]
  by_cases here : slot = place
  · subst here
    rw [if_pos rfl, if_pos atSlot.symm]
  · have elsewhere : key ≠ keys[place] := fun same => here ((List.getElem_inj distinct).1 (atSlot.trans same))
    rw [if_neg here, if_neg elsewhere]

/-- Changing the item of a key leaves the items of all other keys as they are. -/
theorem change_ofKeys {keys : List String} (distinct : keys.Nodup) (make : String → α) (key : String) (f : α → α) :
    (ofKeys keys make).change key f = ofKeys keys fun k => if key = k then f (make k) else make k := by
  -- With a slot its item changes, and without one nothing does.
  unfold change
  cases found : (ofKeys keys make).slots.get? key with
  | some slot =>
    rw [ofKeys, ofKeys, Indexed.mk.injEq]
    exact ⟨modify_map distinct (getElem?_of_slots found) make f, rfl⟩
  | none =>
    -- No item has the key, so none changes.
    have absent := not_mem_of_slots found
    rw [ofKeys, ofKeys, Indexed.mk.injEq]
    refine ⟨List.map_congr_left fun k listed => ?_, rfl⟩
    rw [if_neg (ne_of_mem_of_not_mem listed absent).symm]

/-- Changing the item of a key that has one does the same, and the item of a further key goes behind all others. -/
theorem upsert_ofKeys {keys : List String} (distinct : keys.Nodup) (make : String → α) (key : String) (f : α → α)
    (fresh : α) : (ofKeys keys make).upsert key f fresh =
      ofKeys (if key ∈ keys then keys else keys ++ [key]) fun k =>
        if key = k then (if key ∈ keys then f (make k) else fresh) else make k := by
  -- A slot tells that the key is listed, and the lack of one that it is not.
  unfold upsert
  cases found : (ofKeys keys make).slots.get? key with
  | some slot =>
    have standing := getElem?_of_slots found
    have listed := List.mem_of_getElem? standing
    simp only [if_pos listed]
    rw [ofKeys, ofKeys, Indexed.mk.injEq]
    exact ⟨modify_map distinct standing make f, rfl⟩
  | none =>
    have absent := not_mem_of_slots found
    simp only [if_neg absent]
    rw [ofKeys, ofKeys, Indexed.mk.injEq]
    constructor
    · rw [List.map_append, List.map_singleton, if_pos rfl]
      refine congrArg (· ++ [fresh]) (List.map_congr_left fun k listed => ?_)
      rw [if_neg (ne_of_mem_of_not_mem listed absent).symm]
    · -- The place of the further key is the number of those before it.
      rw [List.length_map, List.zipIdx_append, Table.ofList, Table.ofList, List.foldl_append]
      simp

/-- Changing items one after another changes each by those whose key it has, in their order. -/
theorem foldl_change_ofKeys {keys : List String} (distinct : keys.Nodup) (keyOf : β → String) (f : α → β → α)
    (others : List β) (make : String → α) :
    others.foldl (fun indexed other => indexed.change (keyOf other) (f · other)) (ofKeys keys make) =
      ofKeys keys fun key => (others.filter (keyOf · = key)).foldl f (make key) := by
  -- The first one changes the item of its key, and those behind it follow.
  induction others generalizing make with
  | nil => rfl
  | cons other rest ih =>
    rw [List.foldl_cons, change_ofKeys distinct, ih]
    refine congrArg (ofKeys keys) (funext fun key => ?_)
    by_cases here : keyOf other = key <;> simp [here]

end Dashboard.Indexed
