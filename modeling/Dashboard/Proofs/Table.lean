import Dashboard.Table

/-! What a table holds under a name after each of its operations. -/

namespace Dashboard.Table

variable {α β : Type}

/-- The first entry answers for its own name, and the others for all other names. -/
theorem lookup_cons_eq (name k : String) (value : α) (rest : List (String × α)) :
    ((name, value) :: rest).lookup k = if k = name then some value else rest.lookup k := by
  -- The name is compared once, and the answer is either this entry's or that of the rest.
  rw [List.lookup_cons]
  by_cases here : k = name
  · rw [here, beq_self_eq_true, if_pos rfl]
  · rw [beq_eq_false_iff_ne.2 here, if_neg here]

/-- Insertion changes the lookup of its own name only. -/
theorem lookup_insertEntry (key k : String) (value : α) (entries : List (String × α)) :
    (insertEntry key value entries).lookup k = if k = key then some value else entries.lookup k := by
  -- Wherever the new entry goes, it stands before any older one of its name.
  induction entries with
  | nil => by_cases same : k = key <;> simp [insertEntry, lookup_cons_eq, same]
  | cons head rest ih =>
    obtain ⟨name, old⟩ := head
    unfold insertEntry
    split
    · -- Put in front, the new entry hides every older one.
      by_cases same : k = key <;> simp [lookup_cons_eq, same]
    · split
      · rename_i replaced
        subst replaced
        by_cases same : k = key <;> simp [lookup_cons_eq, same]
      · -- Behind another name, the lookup passes this name first and then goes on as in the rest.
        rename_i different
        by_cases here : k = name
        · subst here
          simp [Ne.symm different]
        · simp [lookup_cons_eq, here, ih]

/-- The empty table holds nothing. -/
@[simp] theorem get?_empty (k : String) : (empty : Table α).get? k = none := rfl

/-- After an insertion the table holds the new value under its name. -/
theorem get?_insert (t : Table α) (key k : String) (value : α) :
    (t.insert key value).get? k = if k = key then some value else t.get? k :=
  lookup_insertEntry key k value t.entries

/-- Entries of one name are left out of a lookup by leaving them out of the list. -/
theorem lookup_filter_ne (key k : String) (entries : List (String × α)) :
    (entries.filter (·.1 != key)).lookup k = if k = key then none else entries.lookup k := by
  -- An entry is left out with the name that is erased, and answers for its own name otherwise.
  induction entries with
  | nil => simp
  | cons head rest ih =>
    obtain ⟨name, value⟩ := head
    rw [List.filter_cons, lookup_cons_eq]
    by_cases erased : name = key
    · -- The head is dropped; its name is not found in the rest either, by induction.
      subst erased
      rw [if_neg (by simp), ih]
      by_cases same : k = name
      · rw [if_pos same, if_pos same]
      · rw [if_neg same, if_neg same, if_neg same]
    · rw [if_pos (by simpa using erased), lookup_cons_eq, ih]
      by_cases here : k = name
      · rw [if_pos here, if_pos here, if_neg (here ▸ erased)]
      · rw [if_neg here, if_neg here]

/-- After an erasure the table holds nothing under the name, and what it held under all others. -/
theorem get?_erase (t : Table α) (key k : String) :
    (t.erase key).get? k = if k = key then none else t.get? k :=
  lookup_filter_ne key k t.entries

/-- A function on the values of entries is a function on what is found. -/
theorem lookup_map_value (f : α → β) (k : String) (entries : List (String × α)) :
    (entries.map (Prod.map id f)).lookup k = (entries.lookup k).map f := by
  -- The names stay, and with them the entry that answers.
  induction entries with
  | nil => rfl
  | cons head rest ih =>
    obtain ⟨name, value⟩ := head
    by_cases here : k = name <;> simp_all [lookup_cons_eq]

/-- A function on all values is a function on what is found. -/
theorem get?_mapValues (f : α → β) (t : Table α) (k : String) : (t.mapValues f).get? k = (t.get? k).map f :=
  lookup_map_value f k t.entries

/-- The names of a table are those under which it holds something. -/
theorem mem_keys {t : Table α} {k : String} : k ∈ t.keys ↔ ∃ value, t.get? k = some value := by
  -- A lookup succeeds exactly when some entry has the name.
  rw [← Option.isSome_iff_exists]
  unfold get? keys
  rw [List.lookup_isSome_iff]
  simp only [List.mem_map, beq_iff_eq]
  exact exists_congr fun entry => and_congr_right fun _ => eq_comm

/-- No name stands twice in a table. -/
theorem keys_nodup (t : Table α) : t.keys.Nodup := by
  -- Names ascend, so that none of them comes again behind itself.
  refine List.pairwise_map.2 (t.ascending.imp ?_)
  intro entry later smaller same
  rw [same] at smaller
  exact String.lt_irrefl _ smaller

/-- A value under a further name makes one name more. -/
theorem length_keys_insert (t : Table α) {key : String} (fresh : t.get? key = none) (value : α) :
    (t.insert key value).keys.length = t.keys.length + 1 := by
  -- The invariant of the table does not matter here: any list of entries without the name grows by one.
  have general : ∀ entries : List (String × α), entries.lookup key = none →
      (insertEntry key value entries).length = entries.length + 1 := by
    intro entries fresh
    induction entries with
    | nil => rfl
    | cons head rest ih =>
      rw [lookup_cons_eq] at fresh
      split at fresh
      · cases fresh
      · rename_i different
        rw [insertEntry, if_neg different]
        split
        · rfl
        · rw [List.length_cons, ih fresh, List.length_cons]
  simpa [keys, insert] using general t.entries fresh

/-- Without the value under a name there is one name less. -/
theorem length_keys_erase (t : Table α) {key : String} (held : key ∈ t.keys) :
    (t.erase key).keys.length + 1 = t.keys.length := by
  -- Names stand once, so that leaving the entry out leaves one name out.
  have left : (t.erase key).keys = t.keys.erase key := by
    rw [t.keys_nodup.erase_eq_filter, keys, keys, erase, List.filter_map]
    rfl
  have positive := List.length_pos_of_mem held
  rw [left, List.length_erase_of_mem held]
  omega

/-- A name that is found behind the first entry is greater than that of the first entry. -/
theorem lt_of_lookup {name k : String} {value found : α} {rest : List (String × α)}
    (ordered : Ascending ((name, value) :: rest)) (here : rest.lookup k = some found) : name < k := by
  -- The names behind the first entry are all greater than its own.
  obtain ⟨before, behind, shape, -⟩ := List.lookup_eq_some_iff.1 here
  have member : (k, found) ∈ rest := by simp [shape]
  exact List.rel_of_pairwise_cons ordered member

/-- Entries in order are told apart by what is found under their names. -/
theorem eq_of_lookup {entries others : List (String × α)} (ordered : Ascending entries)
    (otherOrdered : Ascending others) (same : ∀ k, entries.lookup k = others.lookup k) : entries = others := by
  -- Both lists are taken apart from the front; the greater names behind can only be found there.
  induction entries generalizing others with
  | nil =>
    cases others with
    | nil => rfl
    | cons head rest =>
      obtain ⟨name, value⟩ := head
      simpa [lookup_cons_eq] using same name
  | cons head rest ih =>
    obtain ⟨name, value⟩ := head
    cases others with
    | nil => simpa [lookup_cons_eq] using same name
    | cons other otherRest =>
      obtain ⟨otherName, otherValue⟩ := other
      have atName := same name
      have atOther := same otherName
      rw [lookup_cons_eq, lookup_cons_eq] at atName atOther
      -- Were the first names different, then each would have to be found behind the other.
      obtain rfl : name = otherName := by
        by_cases equal : name = otherName
        · exact equal
        · rw [if_pos rfl, if_neg equal] at atName
          rw [if_pos rfl, if_neg (Ne.symm equal)] at atOther
          exact absurd (lt_of_lookup otherOrdered atName.symm) (String.lt_asymm (lt_of_lookup ordered atOther))
      rw [if_pos rfl, if_pos rfl] at atName
      cases atName
      congr 1
      apply ih (List.pairwise_cons.1 ordered).2 (List.pairwise_cons.1 otherOrdered).2
      intro k
      by_cases here : k = name
      · -- Behind the first entry its own name is not found again.
        have absent : ∀ {behind : List (String × α)}, Ascending ((name, value) :: behind) → behind.lookup k = none := by
          intro behind ascending
          cases found : behind.lookup k with
          | none => rfl
          | some _ => exact absurd (lt_of_lookup ascending found) (here ▸ String.lt_irrefl k)
        rw [absent ordered, absent otherOrdered]
      · have behind := same k
        rwa [lookup_cons_eq, lookup_cons_eq, if_neg here, if_neg here] at behind

/-- Tables that hold the same under every name are the same. -/
theorem eq_of_get? {s t : Table α} (same : ∀ k, s.get? k = t.get? k) : s = t := by
  have entries := eq_of_lookup s.ascending t.ascending same
  -- A table is its entries, and their being in order is no further data.
  cases s
  cases t
  cases entries
  rfl

/-- Insertions one after another leave the last value of each name. -/
theorem get?_foldl_insert (entries : List (String × α)) (t : Table α) (k : String) :
    (entries.foldl (fun t (entry : String × α) => t.insert entry.1 entry.2) t).get? k =
      (entries.reverse.lookup k).or (t.get? k) := by
  -- What is inserted first is found last.
  induction entries generalizing t with
  | nil => rfl
  | cons head rest ih =>
    obtain ⟨name, value⟩ := head
    rw [List.foldl_cons, ih, get?_insert, List.reverse_cons, List.lookup_append, lookup_cons_eq]
    by_cases here : k = name <;> cases rest.reverse.lookup k <;> simp [here]

/-- The table of a list holds the last value of each name. -/
theorem get?_ofList (entries : List (String × α)) (k : String) :
    (ofList entries).get? k = entries.reverse.lookup k := by
  -- The insertions start from an empty table, which adds nothing.
  have inserted := get?_foldl_insert entries empty k
  rwa [get?_empty, Option.or_none] at inserted

/-- Among entries whose values go by their names a name is found when it is one of theirs. -/
theorem lookup_map_named (names : List String) (value : String → α) (k : String) :
    (names.map fun name => (name, value name)).lookup k = if k ∈ names then some (value k) else none := by
  -- Whichever of several equal names answers, the value is the same.
  induction names with
  | nil => rfl
  | cons name rest ih =>
    rw [List.map_cons, lookup_cons_eq, ih]
    by_cases here : k = name <;> simp [here]

/-- A table with one value under each of some names. -/
theorem get?_ofList_const (names : List String) (value : α) (k : String) :
    (ofList (names.map (·, value))).get? k = if k ∈ names then some value else none := by
  rw [get?_ofList, ← List.map_reverse, lookup_map_named names.reverse fun _ => value]
  simp only [List.mem_reverse]

/-- A table with one value under each of some names has these names. -/
theorem mem_keys_ofList_const {names : List String} {value : α} {k : String} :
    k ∈ (ofList (names.map (·, value))).keys ↔ k ∈ names := by
  rw [mem_keys]
  simp [get?_ofList_const]

/-- Entries in order are found from either end. -/
theorem lookup_reverse {entries : List (String × α)} (ordered : Ascending entries) (k : String) :
    entries.reverse.lookup k = entries.lookup k := by
  -- Turned around, the first entry is looked at last, and nothing before it has its name.
  induction entries with
  | nil => rfl
  | cons head rest ih =>
    obtain ⟨name, value⟩ := head
    rw [List.reverse_cons, List.lookup_append, ih (List.pairwise_cons.1 ordered).2, lookup_cons_eq]
    by_cases here : k = name
    · subst here
      -- Behind the first entry its own name is not found again.
      cases found : rest.lookup k with
      | none => simp
      | some _ => exact absurd (lt_of_lookup ordered found) (String.lt_irrefl k)
    · simp [lookup_cons_eq, here]

/-- A table is made of its own entries. -/
theorem ofList_entries (t : Table α) : ofList t.entries = t := by
  -- Inserting the entries again finds under each name what was there.
  apply eq_of_get?
  intro k
  rw [get?_ofList, lookup_reverse t.ascending]
  rfl

end Dashboard.Table
