import Dashboard.Table

/-! Items in slots, with an index from keys to the slots of their items. -/

namespace Dashboard

/-- Items in slots, and the slots in which the items of some keys stand. -/
structure Indexed (α : Type) where
  items : List α
  slots : Table Nat

namespace Indexed

variable {α : Type}

/-- No items. -/
def empty : Indexed α := ⟨[], .empty⟩

/-- An item for each key, in the order of the keys; of two equal keys the later one has its slot in the index. -/
def ofKeys (keys : List String) (make : String → α) : Indexed α :=
  ⟨keys.map make, .ofList keys.zipIdx⟩

/-- Changes the item in the slot of a key; a key without a slot is passed over. -/
def change (indexed : Indexed α) (key : String) (f : α → α) : Indexed α :=
  match indexed.slots.get? key with
  | some slot => { indexed with items := indexed.items.modify slot f }
  | none => indexed

/-- Changes the item in the slot of a key, or puts a new item into a slot behind all others. -/
def upsert (indexed : Indexed α) (key : String) (f : α → α) (fresh : α) : Indexed α :=
  match indexed.slots.get? key with
  | some slot => { indexed with items := indexed.items.modify slot f }
  | none => ⟨indexed.items ++ [fresh], indexed.slots.insert key indexed.items.length⟩

end Indexed
end Dashboard
