import Dashboard.Proofs.Content
import Dashboard.Proofs.Indexed

/-! Groups of items: their keys stand in the order of first mention, and each has the items of its key in their order. -/

namespace Dashboard

section Distinct

variable {α : Type} [DecidableEq α]

/-- A further item stands behind the distinct items before it unless it is one of them. -/
theorem eraseDups_append_singleton (items : List α) (item : α) :
    (items ++ [item]).eraseDups = if item ∈ items then items.eraseDups else items.eraseDups ++ [item] := by
  -- What is appended is left out by the very rule that leaves out repetitions.
  rw [List.eraseDups_append]
  by_cases old : item ∈ items <;> simp [List.removeAll, old, List.eraseDups_cons]

/-- No item stands twice among the distinct ones. -/
theorem nodup_eraseDups (items : List α) : items.eraseDups.Nodup := by
  induction items using List.reverseRecOn with
  | nil => simp
  | append_singleton items item ih =>
    rw [eraseDups_append_singleton]
    split
    · exact ih
    · -- A fresh item is none of those before it.
      rename_i fresh
      exact ih.append (List.nodup_singleton item) (by simpa using fresh)

end Distinct

namespace Grouped

variable {α : Type}

/-- Groups that are made for some keys have these keys. -/
theorem keys_eq_of_entries {groups : Grouped α} {keys : List String} {series : String → List α}
    (made : groups.entries = keys.map fun key => (key, series key)) : groups.keys = keys := by
  -- Each entry has the key that it is made for.
  rw [Grouped.keys, made, List.map_map]
  exact List.map_id _

/-- Changing the series under one of some distinct keys leaves the others as they are. -/
theorem alterEntry_map {keys : List String} (distinct : keys.Nodup) {key : String} (member : key ∈ keys)
    (change : List α → List α) (series : String → List α) :
    alterEntry key change (keys.map fun k => (k, series k)) =
      keys.map fun k => (k, if k = key then change (series k) else series k) := by
  induction keys with
  | nil => cases member
  | cons head rest ih =>
    obtain ⟨fresh, restDistinct⟩ := List.nodup_cons.1 distinct
    rw [List.map_cons, alterEntry, List.map_cons]
    by_cases here : head = key
    · -- Behind the key it does not come again.
      subst here
      rw [if_pos rfl, if_pos rfl]
      refine congrArg _ (List.map_congr_left fun k later => ?_)
      rw [if_neg (ne_of_mem_of_not_mem later fresh)]
    · rw [if_neg here, if_neg here, ih restDistinct ((List.mem_cons.1 member).resolve_left (Ne.symm here))]

/-- Changing the series under a key, in a list of series whose keys stand in the order of first mention, mentions the key
once more. -/
theorem alterEntry_eraseDups {keys : List String} {key : String} {series : String → List α}
    (unused : key ∉ keys → series key = []) (change : List α → List α) :
    alterEntry key change (keys.eraseDups.map fun k => (k, series k)) =
      (keys ++ [key]).eraseDups.map fun k => (k, if k = key then change (series k) else series k) := by
  rw [eraseDups_append_singleton]
  by_cases old : key ∈ keys
  · rw [if_pos old]
    exact alterEntry_map (nodup_eraseDups keys) (List.mem_eraseDups.2 old) change series
  · -- A new key goes to the end, and no other series is changed.
    have fresh : key ∉ (keys.eraseDups.map fun k => (k, series k)).map Prod.fst := by
      simpa [List.map_map, Function.comp_def] using old
    rw [if_neg old, Content.alterEntry_of_not_mem change fresh, List.map_append, List.map_singleton, if_pos rfl,
      unused old]
    refine congrArg (· ++ _) (List.map_congr_left fun k member => ?_)
    rw [if_neg (ne_of_mem_of_not_mem (List.mem_eraseDups.1 member) old)]

/-- Items pushed one after another stand under their distinct keys, each with the items that were pushed under it. -/
theorem entries_foldl_push (items : List (String × α)) :
    (items.foldl (fun g (key, item) => g.push key item) empty).entries =
      (items.map Prod.fst).eraseDups.map fun k => (k, (items.filter (·.1 = k)).map Prod.snd) := by
  -- The last item is pushed behind those of its key, or makes a series of its own.
  induction items using List.reverseRecOn with
  | nil => rfl
  | append_singleton items entry ih =>
    obtain ⟨key, item⟩ := entry
    have unused : key ∉ items.map Prod.fst → (items.filter (·.1 = key)).map Prod.snd = [] := by
      intro fresh
      rw [List.map_eq_nil_iff, List.filter_eq_nil_iff]
      rintro entry member
      simpa using ne_of_mem_of_not_mem (List.mem_map_of_mem member) fresh
    rw [List.foldl_append, List.map_append, List.map_singleton, List.foldl_cons, List.foldl_nil]
    dsimp only
    rw [push, ih, alterEntry_eraseDups unused]
    -- Only the series of the pushed key has grown; the other keys still leave the new item out.
    refine List.map_congr_left fun k _ => ?_
    by_cases here : k = key
    · simp [here]
    · simp [here, Ne.symm here]

variable (key? : α → Option String)

/-- Placed one after another, items stand in the slots of their distinct keys, each with the items that have it. -/
theorem foldl_place (items : List α) : items.foldl (place key?) .empty =
    .ofKeys (items.filterMap key?).eraseDups fun key => (key, items.filter (key? · = some key)) := by
  -- A further item changes the group of its key, or makes a group of its own.
  induction items using List.reverseRecOn with
  | nil => rfl
  | append_singleton items item ih =>
    rw [List.foldl_append, ih, List.foldl_cons, List.foldl_nil, place, List.filterMap_append]
    cases keyed : key? item with
    | none => simp [keyed, List.filter_append]
    | some key =>
      dsimp only
      rw [Indexed.upsert_ofKeys (nodup_eraseDups _), List.filterMap_cons_some keyed, List.filterMap_nil,
        eraseDups_append_singleton]
      simp only [List.mem_eraseDups]
      refine congrArg (Indexed.ofKeys _) (funext fun k => ?_)
      by_cases here : key = k
      · subst here
        by_cases known : key ∈ items.filterMap key?
        · simp [known, keyed]
        · -- No earlier item has the key.
          have unused : items.filter (key? · = some key) = [] := by
            simp only [List.filter_eq_nil_iff, decide_eq_true_eq]
            exact fun other member same => known (List.mem_filterMap.2 ⟨other, member, same⟩)
          simp [known, keyed, unused]
      · simp [here, keyed]

/-- Items are grouped under their distinct keys, each with the items that have it. -/
theorem entries_groupBy (items : List α) : (groupBy key? items).entries =
    (items.filterMap key?).eraseDups.map fun key => (key, items.filter (key? · = some key)) :=
  congrArg Indexed.items (foldl_place key? items)

/-- Under some distinct keys there is together each item of one of them once, and no other. -/
theorem flatMap_filter_perm {keys : List String} (distinct : keys.Nodup) (items : List α) :
    (keys.flatMap fun key => items.filter (key? · = some key)).Perm
      (items.filter fun item => ∃ key ∈ keys, key? item = some key) := by
  -- The keys are taken one by one, each with the items that have it.
  induction keys with
  | nil => simp
  | cons key rest ih =>
    obtain ⟨fresh, restDistinct⟩ := List.nodup_cons.1 distinct
    -- The items of the first key are set apart from those of the others.
    have split := List.filter_append_perm (key? · = some key)
      (items.filter fun item => ∃ k ∈ key :: rest, key? item = some k)
    rw [List.filter_filter, List.filter_filter] at split
    refine List.Perm.trans ?_ split
    rw [List.flatMap_cons]
    refine .append (.of_eq (List.filter_congr fun item _ => ?_))
      ((ih restDistinct).trans (.of_eq (List.filter_congr fun item _ => ?_)))
    · by_cases here : key? item = some key <;> simp [here]
    · by_cases here : key? item = some key
      · simp [here, fresh]
      · simp [here]

/-- The groups together have each item with a key once, and no others. -/
theorem flatMap_groupBy_perm (items : List α) :
    ((groupBy key? items).entries.flatMap (·.2)).Perm (items.filter fun item => (key? item).isSome) := by
  rw [entries_groupBy, List.flatMap_map]
  refine (flatMap_filter_perm key? (nodup_eraseDups _) items).trans (.of_eq (List.filter_congr fun item member => ?_))
  -- Whatever key the item has is one of the keys.
  cases keyed : key? item with
  | none => simp
  | some key =>
    have listed : key ∈ (items.filterMap key?).eraseDups :=
      List.mem_eraseDups.2 (List.mem_filterMap.2 ⟨item, member, keyed⟩)
    simpa using listed

/-- In a list that is in some order the first item of each key comes before all items of the keys behind it. -/
theorem pairwise_eraseDups_filterMap {before : α → α → Prop} {items : List α} (ordered : items.Pairwise before) :
    (items.filterMap key?).eraseDups.Pairwise fun key later => ∃ first ∈ items, key? first = some key ∧
      ∀ other ∈ items, key? other = some later → before first other := by
  -- Only the last item can bring in a further key, so it is taken off.
  induction items using List.reverseRecOn with
  | nil => simp
  | append_singleton items item ih =>
    obtain ⟨earlier, -, last⟩ := List.pairwise_append.1 ordered
    -- The last item comes behind those that were the first of their keys before.
    have kept : (items.filterMap key?).eraseDups.Pairwise fun key later => ∃ first ∈ items ++ [item],
        key? first = some key ∧ ∀ other ∈ items ++ [item], key? other = some later → before first other := by
      refine (ih earlier).imp ?_
      rintro key later ⟨first, member, keyed, others⟩
      refine ⟨first, List.mem_append_left _ member, keyed, fun other listed keyedToo => ?_⟩
      rcases List.mem_append.1 listed with old | new
      · exact others other old keyedToo
      · exact last first member other new
    cases keyed : key? item with
    | none => simpa [keyed] using kept
    | some key =>
      rw [List.filterMap_append, List.filterMap_cons_some keyed, List.filterMap_nil, eraseDups_append_singleton]
      split
      · exact kept
      · rename_i fresh
        refine List.pairwise_append.2 ⟨kept, List.pairwise_singleton _ _, fun old listed new added => ?_⟩
        rw [List.mem_singleton.1 added]
        obtain ⟨first, member, keyedFirst⟩ := List.mem_filterMap.1 (List.mem_eraseDups.1 listed)
        refine ⟨first, List.mem_append_left _ member, keyedFirst, fun other among keyedToo => ?_⟩
        -- No item before the last one has its key.
        rcases List.mem_append.1 among with older | lastOne
        · exact absurd (List.mem_filterMap.2 ⟨other, older, keyedToo⟩) fresh
        · exact last first member other lastOne

end Grouped
end Dashboard
