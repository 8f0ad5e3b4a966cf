import Dashboard.Json.Decode
import Dashboard.Proofs.Json.Reader
import Dashboard.Proofs.Table

/-! Lists, tables, words and optional values are taken out of the JSON values that they were put into. -/

namespace Dashboard.Json

/-- A structure is decoded from the fields that an object has, as long as it has no others and none of them twice. -/
theorem bind_fields?_of_known {α : Type} {names present : List String} {members : List (String × Json)}
    (named : members.map Prod.fst = present) (known : present.all names.contains = true) (distinct : present.Nodup)
    (decode : Fields → Option α) : (fields? names (object members) >>= decode) = decode members := by
  -- No member is passed over as an unknown one.
  have each : ∀ member ∈ members, names.contains member.1 = true := fun member listed =>
    List.all_eq_true.1 known member.1 (named ▸ List.mem_map_of_mem (f := Prod.fst) listed)
  rw [fields?, List.filter_eq_self.2 each]
  simp only [named, if_pos distinct, Option.bind_eq_bind, Option.bind_some]

/-- A structure that is written with all its fields is decoded from all of them. -/
theorem bind_fields?_object {α : Type} {names : List String} {members : List (String × Json)}
    (named : members.map Prod.fst = names) (distinct : names.Nodup) (decode : Fields → Option α) :
    (fields? names (object members) >>= decode) = decode members :=
  bind_fields?_of_known named (by simp) distinct decode

section

variable {α : Type} {encode : α → Json} {decode : Json → Option α} (inverse : ∀ a, decode (encode a) = some a)
include inverse

/-- A list is taken out of the array that it was put into. -/
theorem list?_map (items : List α) : list? decode (array (items.map encode)) = some items :=
  mapM_of_inverse fun item _ => inverse item

/-- A table is taken out of the object that it was put into. -/
theorem table?_ofTable (t : Table α) : table? decode (ofTable encode t) = some t := by
  rw [ofTable, table?, mapM_of_inverse ?_]
  · simp only [Option.bind_eq_bind, Option.bind_some, Option.pure_def, Table.ofList_entries]
  · exact fun entry _ => by simp [inverse]

/-- An optional value is taken out again, and null stands for none. -/
theorem nullable?_ofOption (present : ∀ a, encode a ≠ null) (value : Option α) :
    nullable? decode (ofOption encode value) = some value := by
  cases value with
  | none => rfl
  | some a =>
    -- What is written for a value is never taken for its absence.
    have decoded : nullable? decode (encode a) = (decode (encode a)).map some := by
      unfold nullable?
      split
      · rename_i absent
        exact absurd absent (present a)
      · rfl
    exact decoded.trans (by rw [inverse, Option.map_some])

end

section

variable {levels : Nat} {α : Type} {encode : α → Json} (each : ∀ a, Plain levels (encode a))
include each

/-- An array of plain values is plain, and takes a level. -/
theorem plain_map (items : List α) : Plain (levels + 1) (array (items.map encode)) := by
  refine .array fun item listed => ?_
  obtain ⟨a, -, rfl⟩ := List.mem_map.1 listed
  exact each a

/-- A table of plain values is plain, and takes a level. -/
theorem plain_ofTable (t : Table α) : Plain (levels + 1) (ofTable encode t) := by
  refine .object fun member listed => ?_
  obtain ⟨entry, -, rfl⟩ := List.mem_map.1 listed
  exact each entry.2

/-- An optional plain value is plain. -/
theorem plain_ofOption (value : Option α) : Plain levels (ofOption encode value) := by
  cases value with
  | none => exact .null
  | some a => exact each a

end

/-- An array of texts is plain. -/
theorem plain_texts {levels : Nat} (items : List String) : Plain (levels + 1) (texts items) :=
  plain_map Plain.text items

/-- A text is taken out as it was put in. -/
theorem text?_text (s : String) : text? (text s) = some s := rfl

/-- An optional text is taken out as it was put in. -/
theorem nullable?_ofOption_text (value : Option String) : nullable? text? (ofOption text value) = some value :=
  nullable?_ofOption text?_text nofun value

/-- A list of texts is taken out as it was put in. -/
theorem list?_texts (items : List String) : list? text? (texts items) = some items :=
  list?_map text?_text items

end Dashboard.Json
