import Dashboard.Proofs.Widget.Presentation
import Dashboard.Proofs.Widget.ValueNames

/-! Giving values the caller's names loses none of them, as long as no two fields name one counter: the fields may come
in any order, doing it again changes nothing, and it can be undone. -/

namespace Dashboard

open Dashboard.Field (internal)

namespace Chart

/-- Moves values one after another, each from its old name to its new one. -/
def moveValues (moves : List (String × String)) (c : Chart) : Chart :=
  moves.foldl (fun c (old, new) => c.renameValue old new) c

/-- Moves stay out of each other's way when all their names are different. -/
structure Apart (moves : List (String × String)) : Prop where
  olds : (moves.map Prod.fst).Nodup
  news : (moves.map Prod.snd).Nodup
  between : ∀ move ∈ moves, ∀ other ∈ moves, move.1 ≠ other.2

/-- A point has become another by moves when each value that has an old name stands under the new one instead, and
everything else is as it was. -/
structure Moved (moves : List (String × String)) (before after : Chart) : Prop where
  bare : after.bare = before.bare
  size : after.values.keys.length = before.values.keys.length
  taken : ∀ move ∈ moves, after.value? move.2 = before.value? move.1
  gone : ∀ move ∈ moves, after.value? move.1 = none
  kept : ∀ k, (∀ move ∈ moves, k ≠ move.1 ∧ k ≠ move.2) → after.value? k = before.value? k

/-- Moving a value to a free name is a move. -/
theorem moved_renameValue {c : Chart} {old new : String} (different : old ≠ new) (free : c.value? new = none) :
    Moved [(old, new)] c (c.renameValue old new) := by
  refine ⟨bare_renameValue c old new, ?_, ?_, ?_, ?_⟩
  · unfold renameValue
    split
    · -- One name goes and another one comes.
      rename_i value held
      have apart : (c.values.erase old).get? new = none := by
        rw [Table.get?_erase, if_neg (Ne.symm different)]
        exact free
      exact (Table.length_keys_insert _ apart value).trans
        (Table.length_keys_erase c.values (Table.mem_keys.2 ⟨value, held⟩))
    · rfl
  · -- The new name has nothing that could stay under it.
    simp [value?_renameValue, free]
  · simp [value?_renameValue, different]
  · intro k apart
    obtain ⟨notOld, notNew⟩ := apart _ (List.mem_singleton_self _)
    rw [value?_renameValue, if_neg notNew, if_neg notOld]

/-- Moves that stay apart do so without the first of them. -/
theorem Apart.tail {move : String × String} {rest : List (String × String)} (apart : Apart (move :: rest)) :
    Apart rest where
  olds := (List.nodup_cons.1 apart.olds).2
  news := (List.nodup_cons.1 apart.news).2
  between first listed second other :=
    apart.between first (List.mem_cons_of_mem _ listed) second (List.mem_cons_of_mem _ other)

/-- The names of the first of some moves are none of the others'. -/
theorem Apart.head {move : String × String} {rest : List (String × String)} (apart : Apart (move :: rest)) :
    ∀ other ∈ rest, (move.1 ≠ other.1 ∧ move.1 ≠ other.2) ∧ move.2 ≠ other.1 ∧ move.2 ≠ other.2 := by
  intro other listed
  -- A name that two moves shared would come twice among the old or among the new ones.
  have later := List.mem_cons_of_mem move listed
  refine ⟨⟨fun same => ?_, apart.between move List.mem_cons_self other later⟩,
    (apart.between other later move List.mem_cons_self).symm, fun same => ?_⟩
  · exact (List.nodup_cons.1 apart.olds).1 (same ▸ List.mem_map_of_mem listed)
  · exact (List.nodup_cons.1 apart.news).1 (same ▸ List.mem_map_of_mem listed)

/-- One more move in front of some that it stays apart from. -/
theorem Moved.cons {move : String × String} {rest : List (String × String)} {before between after : Chart}
    (apart : Apart (move :: rest)) (first : Moved [move] before between) (others : Moved rest between after) :
    Moved (move :: rest) before after := by
  -- Under a name that it does not touch the first move leaves the value as it was.
  have untouched {k : String} (notOld : k ≠ move.1) (notNew : k ≠ move.2) : between.value? k = before.value? k :=
    first.kept k (List.forall_mem_singleton.2 ⟨notOld, notNew⟩)
  refine ⟨others.bare.trans first.bare, others.size.trans first.size, ?_, ?_, ?_⟩
  · -- The other moves touch neither name of the first one, nor does the first one touch theirs.
    refine List.forall_mem_cons.2 ⟨?_, fun other listed => ?_⟩
    · rw [others.kept move.2 fun other listed => (apart.head other listed).2]
      exact first.taken move (List.mem_singleton_self move)
    · obtain ⟨⟨notOld, -⟩, notNew, -⟩ := apart.head other listed
      rw [others.taken other listed, untouched notOld.symm notNew.symm]
  · refine List.forall_mem_cons.2 ⟨?_, others.gone⟩
    rw [others.kept move.1 fun other listed => (apart.head other listed).1]
    exact first.gone move (List.mem_singleton_self move)
  · -- A name that none of the moves touches keeps its value through all of them.
    intro k untaken
    obtain ⟨⟨notOld, notNew⟩, restUntaken⟩ := List.forall_mem_cons.1 untaken
    rw [others.kept k restUntaken, untouched notOld notNew]

/-- Moves that stay apart, to names that are still free, do to a point what they say. -/
theorem moved_moveValues {moves : List (String × String)} (apart : Apart moves) {c : Chart}
    (free : ∀ move ∈ moves, c.value? move.2 = none) : Moved moves c (c.moveValues moves) := by
  -- The names that are still to be given stay free with each move.
  induction moves generalizing c with
  | nil => exact ⟨rfl, rfl, nofun, nofun, fun _ _ => rfl⟩
  | cons move rest ih =>
    obtain ⟨freeNow, freeLater⟩ := List.forall_mem_cons.1 free
    have first : Moved [move] c (c.renameValue move.1 move.2) :=
      moved_renameValue (apart.between move List.mem_cons_self move List.mem_cons_self) freeNow
    refine first.cons apart (ih apart.tail fun other listed => ?_)
    obtain ⟨⟨-, notOld⟩, -, notNew⟩ := apart.head other listed
    rw [first.kept other.2 (List.forall_mem_singleton.2 ⟨notOld.symm, notNew.symm⟩)]
    exact freeLater other listed

/-- What a point becomes by moves is determined by the point and the moves. -/
theorem Moved.unique {moves : List (String × String)} {before after other : Chart} (moved : Moved moves before after)
    (otherMoved : Moved moves before other) : after = other := by
  have values : after.values = other.values := by
    -- Each name is left alone, or it is an old or a new one of some move.
    refine Table.eq_of_get? fun k => ?_
    show after.value? k = other.value? k
    by_cases untaken : ∀ move ∈ moves, k ≠ move.1 ∧ k ≠ move.2
    · rw [moved.kept k untaken, otherMoved.kept k untaken]
    · simp only [not_forall, not_and_or, not_not] at untaken
      obtain ⟨move, listed, rfl | rfl⟩ := untaken
      · rw [moved.gone move listed, otherMoved.gone move listed]
      · rw [moved.taken move listed, otherMoved.taken move listed]
  -- Besides its values a point is whom it describes.
  have same := moved.bare.trans otherMoved.bare.symm
  cases after
  cases other
  simp_all [Chart.bare]

/-- The order of moves does not matter to what a point becomes by them. -/
theorem Moved.of_perm {moves others : List (String × String)} (perm : moves.Perm others) {before after : Chart}
    (moved : Moved moves before after) : Moved others before after where
  bare := moved.bare
  size := moved.size
  taken move listed := moved.taken move (perm.mem_iff.2 listed)
  gone move listed := moved.gone move (perm.mem_iff.2 listed)
  kept k untaken := moved.kept k fun move listed => untaken move (perm.mem_iff.1 listed)

/-- Moves are undone by the moves the other way. -/
theorem Moved.swap {moves : List (String × String)} {before after : Chart} (moved : Moved moves before after)
    (free : ∀ move ∈ moves, before.value? move.2 = none) : Moved (moves.map Prod.swap) after before where
  bare := moved.bare.symm
  size := moved.size.symm
  taken := List.forall_mem_map.2 fun move listed => (moved.taken move listed).symm
  gone := List.forall_mem_map.2 free
  kept k untaken := (moved.kept k fun move listed => (List.forall_mem_map.1 untaken move listed).symm).symm

/-- Moves stay apart in any order. -/
theorem Apart.of_perm {moves others : List (String × String)} (perm : moves.Perm others) (apart : Apart moves) :
    Apart others where
  olds := (perm.map _).nodup_iff.1 apart.olds
  news := (perm.map _).nodup_iff.1 apart.news
  between move listed other otherListed :=
    apart.between move (perm.mem_iff.2 listed) other (perm.mem_iff.2 otherListed)

/-- Moves the other way stay apart, too. -/
theorem Apart.swap {moves : List (String × String)} (apart : Apart moves) : Apart (moves.map Prod.swap) where
  olds := by simpa [Function.comp_def] using apart.news
  news := by simpa [Function.comp_def] using apart.olds
  between := List.forall_mem_map.2 fun move listed => List.forall_mem_map.2 fun other otherListed =>
    (apart.between other otherListed move listed).symm

/-- Where no value has an old name there is nothing to move. -/
theorem moveValues_of_absent {moves : List (String × String)} {c : Chart}
    (absent : ∀ move ∈ moves, c.value? move.1 = none) : c.moveValues moves = c := by
  -- Each move finds the point as the ones before it left it, which is as it was.
  induction moves with
  | nil => rfl
  | cons move rest ih =>
    obtain ⟨first, others⟩ := List.forall_mem_cons.1 absent
    have unmoved : c.renameValue move.1 move.2 = c := renameValue_of_absent first move.2
    exact (congrArg (moveValues rest) unmoved).trans (ih others)

end Chart

/-- The moves from the library's spellings of some fields to the caller's. -/
def Field.respellings (fields : List String) : List (String × String) :=
  fields.map fun field => (internal field, field)

section

variable {fields : List String} (dollars : ∀ field ∈ fields, '$' ∈ field.toList)
  (distinct : (fields.map internal).Nodup)
include dollars

/-- A field with a dollar sign is spelled otherwise by the library. -/
theorem Field.internal_ne_of_dollar : ∀ field ∈ fields, internal field ≠ field := by
  -- The library's spelling has no dollar signs.
  intro field listed same
  have dollar := dollars field listed
  rw [← same] at dollar
  exact dollar_not_mem_internal field dollar

namespace Chart

/-- Fields with dollar signs are renamed by one move for each of them. -/
theorem renameFields_eq_moveValues (c : Chart) : renameFields fields c = c.moveValues (Field.respellings fields) := by
  -- No field is passed over as one that the library spells alike.
  have respelled : fields.filter (fun field => internal field ≠ field) = fields :=
    List.filter_eq_self.2 fun field listed => decide_eq_true (Field.internal_ne_of_dollar dollars field listed)
  rw [renameFields, respelled, moveValues, Field.respellings, List.foldl_map]

/-- The names that the caller gives are free in a point without dollar signs in its names. -/
theorem Dotted.free {c : Chart} (dotted : c.Dotted) :
    ∀ move ∈ Field.respellings fields, c.value? move.2 = none := by
  -- A name with a dollar sign that is shown would not be dotted.
  refine List.forall_mem_map.2 fun field listed => ?_
  cases shown : c.value? field with
  | none => rfl
  | some value => exact absurd (dollars field listed) (dotted_iff.1 dotted field value shown)

include distinct

/-- The moves of fields that name different counters stay apart. -/
theorem apart_respellings : Apart (Field.respellings fields) where
  olds := by rwa [Field.respellings, List.map_map]
  news := by
    rw [Field.respellings, List.map_map]
    exact (List.map_id fields).symm ▸ distinct.of_map internal
  between := by
    -- What a value is moved to has a dollar sign, and what it is moved from has none.
    refine List.forall_mem_map.2 fun field _ => List.forall_mem_map.2 fun other listed same => ?_
    have dollar := dollars other listed
    rw [← show internal field = other from same] at dollar
    exact Field.dollar_not_mem_internal field dollar

variable {c : Chart} (dotted : c.Dotted)
include dotted

/-- Renaming fields with dollar signs does what their moves say. -/
theorem moved_renameFields : Moved (Field.respellings fields) c (renameFields fields c) := by
  -- The names that the fields give are free, because nothing in the point has a dollar sign.
  rw [renameFields_eq_moveValues dollars]
  exact moved_moveValues (apart_respellings dollars distinct) (dotted.free dollars)

/-- The order in which fields are given their names does not matter. -/
theorem renameFields_perm {others : List String} (perm : others.Perm fields) :
    renameFields others c = renameFields fields c := by
  have otherDollars : ∀ field ∈ others, '$' ∈ field.toList := fun field listed => dollars field (perm.mem_iff.1 listed)
  have otherDistinct : (others.map internal).Nodup := (perm.map internal).nodup_iff.2 distinct
  -- In either order the fields make of the point what the moves say.
  exact ((moved_renameFields otherDollars otherDistinct dotted).of_perm (perm.map _)).unique
    (moved_renameFields dollars distinct dotted)

/-- Giving fields their names again changes nothing. -/
theorem renameFields_renameFields : renameFields fields (renameFields fields c) = renameFields fields c := by
  -- Behind the first time nothing stands under a name of the library any more.
  rw [renameFields_eq_moveValues dollars (renameFields fields c)]
  exact moveValues_of_absent (moved_renameFields dollars distinct dotted).gone

/-- Moving the values back restores the point, in whichever order the fields come. -/
theorem moveValues_swap_renameFields {others : List String} (perm : others.Perm fields) :
    moveValues ((Field.respellings others).map Prod.swap) (renameFields fields c) = c := by
  have moved := moved_renameFields dollars distinct dotted
  have back := (perm.map fun field => (internal field, field)).map Prod.swap
  -- The old names are free once their values have been moved.
  have free : ∀ move ∈ (Field.respellings others).map Prod.swap, (renameFields fields c).value? move.2 = none :=
    List.forall_mem_map.2 fun move listed => moved.gone move ((perm.map _).mem_iff.1 listed)
  exact (moved_moveValues ((apart_respellings dollars distinct).swap.of_perm back.symm) free).unique
    ((moved.swap (dotted.free dollars)).of_perm back.symm)

end Chart

end

namespace Content

variable {content : Content}

/-- Gives the values of some fields the library's names again. -/
def restoreFields (fields : List String) (content : Content) : Content :=
  content.mapSeries (List.map (Chart.moveValues ((Field.respellings fields).map Prod.swap)))

/-- A content has become another by moves when each of its points has, in the same place under the same key. -/
def Moved (moves : List (String × String)) (before after : Content) : Prop :=
  List.Forall₂ (fun group other => other.1 = group.1 ∧ List.Forall₂ (Chart.Moved moves) group.2 other.2)
    before.entries after.entries

/-- What holds of each point holds of the points of each group. -/
theorem forall_mem_entries {property : Chart → Prop} (each : ∀ point ∈ content.allPoints, property point) :
    ∀ group ∈ content.entries, ∀ point ∈ group.2, property point :=
  fun group listed point member => each point (List.mem_flatMap.2 ⟨group, listed, member⟩)

/-- A content has become another by moves when each of its points has. -/
theorem moved_mapSeries {moves : List (String × String)} {f : Chart → Chart}
    (each : ∀ point ∈ content.allPoints, Chart.Moved moves point (f point)) :
    Moved moves content (content.mapSeries (List.map f)) := by
  -- Keys and places are those of the groups, which stay where they are.
  refine List.forall₂_map_right_iff.2 (List.forall₂_same.2 fun group listed => ⟨rfl, ?_⟩)
  exact List.forall₂_map_right_iff.2 (List.forall₂_same.2 (forall_mem_entries each group listed))

/-- Two ways to change points that agree on the points of a content change the content alike. -/
theorem mapSeries_map_congr {f g : Chart → Chart} (each : ∀ point ∈ content.allPoints, f point = g point) :
    content.mapSeries (List.map f) = content.mapSeries (List.map g) := by
  refine eq_of_entries (List.map_congr_left fun group listed => ?_)
  exact congrArg (group.1, ·) (List.map_congr_left (forall_mem_entries each group listed))

/-- Changing all points twice is changing them once by both changes. -/
theorem mapSeries_map_map (f g : Chart → Chart) :
    Grouped.mapSeries (List.map g) (content.mapSeries (List.map f)) = content.mapSeries (List.map (g ∘ f)) := by
  refine eq_of_entries ?_
  simp [Grouped.mapSeries]

/-- Leaving each point as it is leaves the content as it is. -/
theorem mapSeries_map_id (content : Content) : content.mapSeries (List.map id) = content := by
  refine eq_of_entries ?_
  simp [Grouped.mapSeries]

/-- Fields rename a content without loss when each value is moved to the caller's spelling of its field and all else is
as it was, in whichever order the fields come, when doing it again changes nothing, and when moving the values back
gives the content. -/
structure RenamedWithoutLoss (fields : List String) (content : Content) : Prop where
  moved : Moved (Field.respellings fields) content (content.renameFields fields)
  anyOrder : ∀ others : List String, others.Perm fields → content.renameFields others = content.renameFields fields
  again : (content.renameFields fields).renameFields fields = content.renameFields fields
  back : ∀ others : List String, others.Perm fields → (content.renameFields fields).restoreFields others = content

/-- Fields with dollar signs that name different counters rename a dotted content without loss. -/
theorem renamedWithoutLoss {fields : List String} (dollars : ∀ field ∈ fields, '$' ∈ field.toList)
    (distinct : (fields.map internal).Nodup) (dotted : content.Dotted) : content.RenamedWithoutLoss fields where
  -- Point by point the values are moved apart, so that each part of the claim is one about a single point.
  moved := moved_mapSeries fun point listed => Chart.moved_renameFields dollars distinct (dotted point listed)
  anyOrder _ perm := mapSeries_map_congr fun point listed =>
    Chart.renameFields_perm dollars distinct (dotted point listed) perm
  again := (mapSeries_map_map _ _).trans <| mapSeries_map_congr fun point listed =>
    Chart.renameFields_renameFields dollars distinct (dotted point listed)
  back _ perm := (mapSeries_map_map _ _).trans <| (mapSeries_map_congr fun point listed =>
    Chart.moveValues_swap_renameFields dollars distinct (dotted point listed) perm).trans (mapSeries_map_id content)

/-- Fields in the spelling with dollar signs that name different counters rename without loss whatever content has only
dotted names, as every content has that is built for a job. -/
theorem renameFields_lossless {fields : List String} (dollars : ∀ field ∈ fields, '$' ∈ field.toList)
    (distinct : (fields.map internal).Nodup) :
    (∀ content : Content, content.Dotted → content.RenamedWithoutLoss fields) ∧
    ∀ (job : Job) (widget : Widget) (content : Content),
      widget.strategy job = .ok content → content.Dotted ∧ content.RenamedWithoutLoss fields := by
  -- A content that a strategy builds has dotted names, as was shown for all strategies.
  refine ⟨fun _ => renamedWithoutLoss dollars distinct, fun job widget content built => ?_⟩
  have dotted := widget.strategy_dotted job content built
  exact ⟨dotted, renamedWithoutLoss dollars distinct dotted⟩

/-- Two counters in the spelling with dollar signs. -/
def dollarCounters : List String :=
  [Field.total, Field.toInvestigate].map Field.external

/-- Two counters of a launch are renamed without loss. -/
theorem renameFields_lossless_dollarCounters : ∃ content,
    Widget.statisticTrend.strategy (Job.ofRequest .statisticTrend (Sample.trend dollarCounters) {}) = .ok content ∧
    content.RenamedWithoutLoss dollarCounters ∧
    (content.renameFields dollarCounters).allPoints.map (Chart.value? · "executions$total") = [some "5"] := by
  obtain ⟨content, built⟩ : ∃ content, Widget.statisticTrend.strategy
      (Job.ofRequest .statisticTrend (Sample.trend dollarCounters) {}) = .ok content := ⟨_, rfl⟩
  -- Neither of the two has a name that stands in the content already.
  refine ⟨content, built, ((renameFields_lossless (by decide) (by decide)).2 _ _ _ built).2, ?_⟩
  cases built
  decide

end Content

end Dashboard
