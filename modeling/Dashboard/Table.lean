/-! Tables from names to values, kept in the ascending order of their names. -/

namespace Dashboard

/-- Entries are in order when every name is smaller than the names behind it. -/
def Ascending {α : Type} (entries : List (String × α)) : Prop :=
  entries.Pairwise fun a b => a.1 < b.1

/-- A table from names to values, each name once and in ascending order. -/
structure Table (α : Type) where
  entries : List (String × α)
  ascending : Ascending entries

namespace Table

variable {α β : Type}

instance [DecidableEq α] : DecidableEq (Table α) := fun a b =>
  if same : a.entries = b.entries then
    .isTrue (by cases a; cases b; cases same; rfl)
  else .isFalse fun equal => same (equal ▸ rfl)

/-- The entries with one more value; a value under the same name is replaced. -/
def insertEntry (key : String) (value : α) : List (String × α) → List (String × α)
  | [] => [(key, value)]
  | (k, v) :: rest =>
    if key < k then (key, value) :: (k, v) :: rest
    else if key = k then (key, value) :: rest
    else (k, v) :: insertEntry key value rest

/-- Insertion brings in no name besides its own. -/
theorem mem_insertEntry {key : String} {value : α} {entry : String × α} {entries : List (String × α)}
    (member : entry ∈ insertEntry key value entries) : entry = (key, value) ∨ entry ∈ entries := by
  -- The new entry stands before the head, in its place, or behind it.
  induction entries with
  | nil => simpa [insertEntry] using member
  | cons head rest ih =>
    obtain ⟨k, v⟩ := head
    unfold insertEntry at member
    split at member
    · simpa using member
    · split at member
      · rcases List.mem_cons.1 member with same | older
        · exact .inl same
        · exact .inr (List.mem_cons_of_mem _ older)
      · rcases List.mem_cons.1 member with same | older
        · exact .inr (same ▸ List.mem_cons_self)
        · exact (ih older).imp_right (List.mem_cons_of_mem _)

/-- Insertion keeps the names in order. -/
theorem ascending_insertEntry (key : String) (value : α) {entries : List (String × α)}
    (ordered : Ascending entries) : Ascending (insertEntry key value entries) := by
  -- The same three places, each with what is known of its neighbours.
  induction entries with
  | nil => simp [insertEntry, Ascending]
  | cons head rest ih =>
    obtain ⟨k, v⟩ := head
    obtain ⟨first, restOrdered⟩ := List.pairwise_cons.1 ordered
    unfold insertEntry
    split
    · -- The new name is smaller than the head and so than all names.
      rename_i smaller
      refine List.pairwise_cons.2 ⟨fun entry member => ?_, ordered⟩
      rcases List.mem_cons.1 member with same | older
      · exact same ▸ smaller
      · exact String.lt_trans smaller (first entry older)
    · split
      · rename_i same
        exact List.pairwise_cons.2 ⟨same ▸ first, restOrdered⟩
      · -- The new name goes behind the head.
        rename_i notSmaller different
        have larger : k < key := Std.lt_of_le_of_ne (String.not_lt.1 notSmaller) (Ne.symm different)
        refine List.pairwise_cons.2 ⟨fun entry member => ?_, ih restOrdered⟩
        rcases mem_insertEntry member with same | older
        · exact same ▸ larger
        · exact first entry older

/-- The table without entries. -/
def empty : Table α := ⟨[], List.Pairwise.nil⟩

instance : Inhabited (Table α) := ⟨empty⟩

/-- The table with one more value; a value under the same name is replaced. -/
def insert (t : Table α) (key : String) (value : α) : Table α :=
  ⟨insertEntry key value t.entries, ascending_insertEntry key value t.ascending⟩

/-- The table without the value under a name. -/
def erase (t : Table α) (key : String) : Table α :=
  ⟨t.entries.filter (·.1 != key), t.ascending.filter _⟩

/-- The value under a name. -/
def get? (t : Table α) (key : String) : Option α :=
  t.entries.lookup key

/-- The names in ascending order. -/
def keys (t : Table α) : List String :=
  t.entries.map (·.1)

/-- Applies a function to every value. -/
def mapValues (f : α → β) (t : Table α) : Table β :=
  ⟨t.entries.map (Prod.map id f), List.pairwise_map.2 (t.ascending.imp id)⟩

/-- The table of a list of entries, where the last value under a name counts. -/
def ofList (entries : List (String × α)) : Table α :=
  entries.foldl (fun t (key, value) => t.insert key value) empty

end Table
end Dashboard
