import Dashboard.Json.Decode
import Dashboard.Json.Overlay
import Dashboard.Proofs.Table
import Mathlib.Data.List.Nodup
import Mathlib.Data.Option.Basic

/-! What stands under a key of a collapsed object and of objects laid over each other, as far as settings read it. -/

namespace Dashboard.Json

/-- Two values read alike when they are the same word, the same text or both null, or when neither is any of these. -/
structure ReadsAlike (v w : Json) : Prop where
  unsigned : unsigned? v = unsigned? w
  text : text? v = text? w
  null : v = null ↔ w = null

namespace ReadsAlike

variable {u v w : Json}

/-- A value reads as it does. -/
theorem refl (v : Json) : ReadsAlike v v := ⟨rfl, rfl, Iff.rfl⟩

/-- Reading alike goes both ways. -/
theorem symm (alike : ReadsAlike v w) : ReadsAlike w v :=
  ⟨alike.unsigned.symm, alike.text.symm, alike.null.symm⟩

/-- Values that read like a third one read alike. -/
theorem trans (first : ReadsAlike u v) (second : ReadsAlike v w) : ReadsAlike u w :=
  ⟨first.unsigned.trans second.unsigned, first.text.trans second.text, first.null.trans second.null⟩

/-- A text that may be null is read alike, too. -/
theorem nullable (alike : ReadsAlike v w) : nullable? text? v = nullable? text? w := by
  -- Only null is no matter of the text.
  have present : ∀ u : Json, u ≠ Json.null → nullable? text? u = (text? u).map some := by
    intro u present
    cases u with
    | null => exact absurd rfl present
    | _ => rfl
  by_cases absent : v = Json.null
  · rw [absent, alike.null.1 absent]
  · rw [present v absent, present w (mt alike.null.2 absent), alike.text]

/-- Objects read alike, whatever their members are: they are neither words nor texts. -/
theorem object (members others : List (String × Json)) : ReadsAlike (Json.object members) (Json.object others) :=
  ⟨rfl, rfl, by simp⟩

end ReadsAlike

/-- A value reads as it did before its repeated members were left out. -/
theorem readsAlike_collapse (v : Json) : ReadsAlike (collapse v) v := by
  -- Only arrays and objects change, and stay what they are.
  cases v with
  | array items => exact ⟨rfl, rfl, by simp [collapse]⟩
  | object members => exact .object _ _
  | _ => exact .refl _

/-- A value laid over another reads as it does alone. -/
theorem readsAlike_overlay (below v : Json) : ReadsAlike (overlay below v) v := by
  cases v with
  | object members =>
    -- Whatever lies below, an object stays an object.
    cases below <;> exact .object _ _
  | _ => exact .refl _

/-- Setting a member changes the lookup of its own key only. -/
theorem lookup_setMember (key k : String) (value : Json) (members : List (String × Json)) :
    (setMember key value members).lookup k = if k = key then some value else members.lookup k := by
  -- The value stands where the key stood, or else at the end.
  induction members with
  | nil => rw [setMember, Table.lookup_cons_eq]
  | cons head rest ih =>
    obtain ⟨name, old⟩ := head
    unfold setMember
    -- At the key itself the old value is replaced, and elsewhere the member stays.
    split
    · rename_i here
      subst here
      rw [Table.lookup_cons_eq, Table.lookup_cons_eq]
      by_cases same : k = name <;> simp [same]
    · rename_i elsewhere
      rw [Table.lookup_cons_eq, Table.lookup_cons_eq, ih]
      by_cases same : k = name
      · rw [if_pos same, if_pos same, if_neg (same ▸ elsewhere)]
      · rw [if_neg same, if_neg same]

/-- Setting a member adds its key, unless it is there. -/
theorem keys_setMember (key : String) (value : Json) (members : List (String × Json)) :
    (setMember key value members).map Prod.fst =
      if key ∈ members.map Prod.fst then members.map Prod.fst else members.map Prod.fst ++ [key] := by
  -- The member is replaced in place where its key is found, and put at the end where it is not.
  induction members with
  | nil => rfl
  | cons head rest ih =>
    obtain ⟨name, old⟩ := head
    unfold setMember
    split
    · rename_i here
      simp [here]
    · rename_i elsewhere
      simp only [List.map_cons, ih, List.mem_cons, Ne.symm elsewhere, false_or]
      split <;> rfl

/-- Setting a member repeats no key. -/
theorem nodup_setMember {members : List (String × Json)} (distinct : (members.map Prod.fst).Nodup) (key : String)
    (value : Json) : ((setMember key value members).map Prod.fst).Nodup := by
  -- A key is added only where there was none.
  rw [keys_setMember]
  split
  · exact distinct
  · rename_i absent
    exact List.nodup_append_comm.1 (List.nodup_cons.2 ⟨absent, distinct⟩)

/-- A collapsed object has no key twice. -/
theorem nodup_collapseMembers {before : List (String × Json)} (distinct : (before.map Prod.fst).Nodup)
    (members : List (String × Json)) : ((collapseMembers before members).map Prod.fst).Nodup := by
  -- Each member is set in what the ones before it left.
  induction members generalizing before with
  | nil => exact distinct
  | cons head rest ih => exact ih (nodup_setMember distinct _ _)

/-- Laying an object over another repeats no key. -/
theorem nodup_overlayMembers {under : List (String × Json)} (distinct : (under.map Prod.fst).Nodup)
    (members : List (String × Json)) : ((overlayMembers under members).map Prod.fst).Nodup := by
  -- Each member of the upper object is set in what lies below.
  induction members generalizing under with
  | nil => exact distinct
  | cons head rest ih => exact ih (nodup_setMember distinct _ _)

/-- A collapsed object has the last of the values under each key, itself collapsed. -/
theorem lookup_collapseMembers (before members : List (String × Json)) (k : String) :
    (collapseMembers before members).lookup k = ((members.reverse.lookup k).map collapse).or (before.lookup k) := by
  -- What is put in later is found first.
  induction members generalizing before with
  | nil => rfl
  | cons head rest ih =>
    obtain ⟨name, value⟩ := head
    rw [collapseMembers, ih, lookup_setMember, List.reverse_cons, List.lookup_append, Table.lookup_cons_eq]
    by_cases here : k = name <;> cases rest.reverse.lookup k <;> simp [here]

/-- What is found under a key reads as it should, or nothing is found and nothing should be. -/
abbrev FoundAlike (found wanted : Option Json) : Prop :=
  Option.Rel ReadsAlike found wanted

/-- What is found reads as it does. -/
theorem FoundAlike.refl (found : Option Json) : FoundAlike found found := by
  cases found with
  | none => exact .none
  | some value => exact .some (.refl value)

/-- Finds that read like a third one read alike. -/
theorem FoundAlike.trans {a b c : Option Json} (first : FoundAlike a b) (second : FoundAlike b c) : FoundAlike a c := by
  cases first with
  | none => exact second
  | some alike =>
    cases second with
    | some next => exact .some (alike.trans next)

/-- Finds read alike in both directions. -/
theorem FoundAlike.symm {a b : Option Json} (alike : FoundAlike a b) : FoundAlike b a := by
  cases alike with
  | none => exact .none
  | some same => exact .some same.symm

/-- A choice between two finds is made alike. -/
theorem FoundAlike.or {a b c d : Option Json} (first : FoundAlike a b) (second : FoundAlike c d) :
    FoundAlike (a.or c) (b.or d) := by
  cases first with
  | none => exact second
  | some alike => exact .some alike

/-- Under each key the upper object decides, and the lower one where the upper one has nothing. -/
theorem foundAlike_overlayMembers {members : List (String × Json)} (distinct : (members.map Prod.fst).Nodup)
    (under : List (String × Json)) (k : String) :
    FoundAlike ((overlayMembers under members).lookup k) ((members.lookup k).or (under.lookup k)) := by
  -- Induction on the upper object; the members behind the first one have other keys and leave its value alone.
  induction members generalizing under with
  | nil => exact .refl _
  | cons head rest ih =>
    obtain ⟨name, value⟩ := head
    obtain ⟨first, restDistinct⟩ := List.nodup_cons.1 distinct
    rw [overlayMembers]
    refine (ih restDistinct _).trans ?_
    rw [lookup_setMember, Table.lookup_cons_eq]
    by_cases here : k = name
    · subst here
      have absent : rest.lookup k = none := by
        rw [List.lookup_eq_none_iff]
        intro entry listed
        exact bne_iff_ne.2 fun same => first (List.mem_map.2 ⟨entry, listed, same.symm⟩)
      rw [absent, if_pos rfl, if_pos rfl]
      -- Whether something lies below or not, the value reads as it does alone.
      cases under.lookup k with
      | none => exact .some (.refl value)
      | some below => exact .some (readsAlike_overlay below value)
    · rw [if_neg here, if_neg here]
      exact .refl _

end Dashboard.Json
