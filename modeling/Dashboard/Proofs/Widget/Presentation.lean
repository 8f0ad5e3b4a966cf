import Dashboard.Proofs.Content
import Dashboard.Proofs.Record.Field
import Dashboard.Proofs.Sample
import Dashboard.Proofs.Widget.Job
import Dashboard.Proofs.Widget.Registry
import Dashboard.Proofs.Widget.Trend

/-! Giving values the caller's names: which requests have all their fields answered under their own spelling. -/

namespace Dashboard

open Dashboard.Field (internal)

namespace Chart

/-- Moving a value leaves nothing under the old name and replaces what was under the new one. -/
theorem value?_renameValue (c : Chart) (old new k : String) :
    (c.renameValue old new).value? k =
      if k = new then (c.value? old).or (c.value? new) else if k = old then none else c.value? k := by
  -- The old entry is erased before the new one is written, which then hides an older one.
  have found : c.values.get? old = c.value? old := rfl
  unfold renameValue
  rw [found]
  cases present : c.value? old with
  | none =>
    -- Without a value there is nothing to move.
    by_cases isNew : k = new
    · rw [if_pos isNew, isNew, Option.none_or]
    · rw [if_neg isNew]
      by_cases isOld : k = old
      · rw [if_pos isOld, isOld, present]
      · rw [if_neg isOld]
  | some value =>
    unfold value?
    rw [Table.get?_insert, Table.get?_erase]
    rfl

/-- Without a value under the old name there is nothing to move. -/
theorem renameValue_of_absent {c : Chart} {old : String} (absent : c.value? old = none) (new : String) :
    c.renameValue old new = c := by
  have found : c.values.get? old = none := absent
  unfold renameValue
  rw [found]

/-- Moving a value does not change whom a point describes. -/
theorem bare_renameValue (c : Chart) (old new : String) : (c.renameValue old new).bare = c.bare := by
  -- There is one branch without a value and one that only replaces the table of values.
  unfold renameValue
  split <;> rfl

/-- One field after another is given its name. -/
theorem renameFields_append (before after : List String) (c : Chart) :
    renameFields (before ++ after) c = renameFields after (renameFields before c) := by
  -- Both the filter and the fold go through the list from its front.
  unfold renameFields
  rw [List.filter_append, List.foldl_append]

/-- The first field is given its name first. -/
theorem renameFields_cons (field : String) (rest : List String) (c : Chart) :
    renameFields (field :: rest) c = renameFields rest (renameFields [field] c) :=
  renameFields_append [field] rest c

/-- A field that the library spells otherwise takes the value under the library's spelling. -/
theorem value?_renameFields_singleton (field : String) (c : Chart) (k : String) :
    (renameFields [field] c).value? k =
      if internal field = field then c.value? k
      else if k = field then (c.value? (internal field)).or (c.value? field)
      else if k = internal field then none else c.value? k := by
  -- A field in the library's own spelling is not moved at all.
  unfold renameFields
  by_cases same : internal field = field
  · simp [same]
  · rw [if_neg same, ← value?_renameValue]
    simp [same]

/-- Renaming does not change whom a point describes. -/
theorem bare_renameFields (fields : List String) (c : Chart) : (renameFields fields c).bare = c.bare := by
  -- Each move only touches the values.
  unfold renameFields
  generalize fields.filter _ = moved
  induction moved generalizing c with
  | nil => rfl
  | cons field rest ih => rw [List.foldl_cons, ih, bare_renameValue]

/-- Where there are no values renaming changes nothing. -/
theorem renameFields_of_empty {c : Chart} (bare : c.values = .empty) (fields : List String) :
    renameFields fields c = c := by
  -- Each of the fields looks for a value to be moved, and there is none.
  have absent : ∀ old, c.value? old = none := fun old => by rw [value?, bare, Table.get?_empty]
  unfold renameFields
  generalize fields.filter _ = moved
  induction moved with
  | nil => rfl
  | cons field rest ih => rw [List.foldl_cons, renameValue_of_absent (absent _), ih]

/-- A name that the fields neither have nor respell keeps its value. -/
theorem value?_renameFields_of_apart {fields : List String} {k : String}
    (apart : ∀ field ∈ fields, field ≠ k ∧ internal field ≠ k) (c : Chart) :
    (renameFields fields c).value? k = c.value? k := by
  -- No single move touches it.
  induction fields generalizing c with
  | nil => rfl
  | cons field rest ih =>
    obtain ⟨notName, notInternal⟩ := apart field List.mem_cons_self
    rw [renameFields_cons, ih fun other member => apart other (List.mem_cons_of_mem field member),
      value?_renameFields_singleton, if_neg (Ne.symm notName), if_neg (Ne.symm notInternal), ite_self]

/-- A field is ready when its value is under the library's spelling, or has its name already and keeps it. -/
def Ready (fields : List String) (shown : String → String) (c : Chart) (field : String) : Prop :=
  c.value? (internal field) = some (shown (internal field)) ∨
    (c.value? field = some (shown (internal field)) ∧ c.value? (internal field) = none ∧
      ∀ other ∈ fields, internal other = field → other = field)

/-- A field that is ready has its value under its own name once it was given its name. -/
theorem value?_of_ready {fields : List String} {shown : String → String} {c : Chart} {field : String}
    (ready : Ready fields shown c field) :
    (renameFields [field] c).value? field = some (shown (internal field)) := by
  -- It either takes its value now or has it already, with nothing left to take.
  rw [value?_renameFields_singleton, if_pos rfl]
  by_cases same : internal field = field
  · rw [if_pos same]
    rcases ready with fresh | ⟨settled, -, -⟩
    · rwa [same] at fresh ⊢
    · exact settled
  · rw [if_neg same]
    rcases ready with fresh | ⟨settled, moved, -⟩
    · rw [fresh, Option.some_or]
    · rw [moved, Option.none_or, settled]

/-- Fields that are separate stay ready while one before them is given its name. -/
theorem ready_of_ready {first : String} {rest : List String} {shown : String → String} {c : Chart}
    (separate : ∀ field ∈ rest, Field.Separate first field)
    (ready : ∀ field ∈ first :: rest, Ready (first :: rest) shown c field) {field : String} (member : field ∈ rest) :
    Ready rest shown (renameFields [first] c) field := by
  by_cases again : field = first
  · -- The same field comes again: it has its value, and no field takes it away.
    subst again
    have settled := value?_of_ready (ready field List.mem_cons_self)
    by_cases same : internal field = field
    · exact .inl (by rwa [same] at settled ⊢)
    · refine .inr ⟨settled, ?_, fun other listed takes => ?_⟩
      · rw [value?_renameFields_singleton, if_neg same, if_neg same, if_pos rfl]
      · rcases separate other listed with equal | ⟨-, keeps⟩
        · exact equal.symm
        · exact absurd takes keeps
  · -- The first field touches neither spelling of a separate field.
    rcases separate field member with equal | ⟨otherCounter, otherName⟩
    · exact absurd equal.symm again
    have untouched : (renameFields [first] c).value? (internal field) = c.value? (internal field) := by
      rw [value?_renameFields_singleton, if_neg otherName, if_neg (Ne.symm otherCounter), ite_self]
    rcases ready field (List.mem_cons_of_mem first member) with fresh | ⟨settled, moved, alone⟩
    · exact .inl (untouched.trans fresh)
    · refine .inr ⟨?_, untouched.trans moved, fun other listed => alone other (List.mem_cons_of_mem first listed)⟩
      have notTaken : field ≠ internal first := fun taken =>
        again (alone first List.mem_cons_self taken.symm).symm
      rw [value?_renameFields_singleton, if_neg again, if_neg notTaken, ite_self, settled]

/-- Separate fields that are ready all get their values under their own names. -/
theorem value?_renameFields {fields : List String} {shown : String → String} {c : Chart}
    (separate : fields.Pairwise Field.Separate) (ready : ∀ field ∈ fields, Ready fields shown c field) :
    ∀ field ∈ fields, (renameFields fields c).value? field = some (shown (internal field)) := by
  -- Being ready is kept by the fields that are still to come.
  induction fields generalizing c with
  | nil => intro field member; cases member
  | cons first rest ih =>
    obtain ⟨fromFirst, restSeparate⟩ := List.pairwise_cons.1 separate
    have answered := ih restSeparate fun field member => ready_of_ready fromFirst ready member
    intro field member
    rw [renameFields_cons]
    by_cases later : field ∈ rest
    · exact answered field later
    · -- A field that does not come again is not touched again.
      obtain rfl : field = first := (List.mem_cons.1 member).resolve_right later
      rw [value?_renameFields_of_apart]
      · exact value?_of_ready (ready field List.mem_cons_self)
      · intro other listed
        have different : other ≠ field := fun same => later (same ▸ listed)
        rcases fromFirst other listed with equal | ⟨-, keeps⟩
        · exact absurd equal.symm different
        · exact ⟨different, keeps⟩

/-- A value that comes to stand under a name was moved there from the library's spelling of it. -/
theorem exists_move {fields : List String} {c : Chart} {k : String} (absent : c.value? k = none)
    (present : (renameFields fields c).value? k ≠ none) : ∃ before after, fields = before ++ k :: after ∧
      internal k ≠ k ∧ (renameFields before c).value? (internal k) ≠ none := by
  -- The first field behind which the value is there has moved it.
  induction fields generalizing c with
  | nil => exact absurd absent present
  | cons field rest ih =>
    rw [renameFields_cons] at present
    by_cases still : (renameFields [field] c).value? k = none
    · obtain ⟨before, after, rfl, respelled, moved⟩ := ih still present
      exact ⟨field :: before, after, rfl, respelled, by rwa [renameFields_cons]⟩
    · -- Only the move to the name itself can have brought the value.
      rw [value?_renameFields_singleton, absent] at still
      by_cases same : internal field = field
      · exact absurd (if_pos same) still
      · rw [if_neg same] at still
        by_cases here : k = field
        · subst here
          rw [if_pos rfl, absent, Option.or_none] at still
          exact ⟨[], rest, rfl, same, still⟩
        · rw [if_neg here, ite_self] at still
          exact absurd rfl still

/-- After a field that the library spells otherwise nothing stands under the library's spelling. -/
theorem value?_internal_of_move {field : String} (respelled : internal field ≠ field) (before : List String)
    (c : Chart) : (renameFields (before ++ [field]) c).value? (internal field) = none := by
  rw [renameFields_append, value?_renameFields_singleton, if_neg respelled, if_neg respelled, if_pos rfl]

/-- A name that was taken away and stands again behind some fields is one of them, spelled otherwise by the library. -/
theorem exists_return {before between : List String} {field : String} {c : Chart} (respelled : internal field ≠ field)
    (present : (renameFields (before ++ field :: between) c).value? (internal field) ≠ none) :
    ∃ earlier later, between = earlier ++ internal field :: later ∧ internal (internal field) ≠ internal field ∧
      (renameFields (before ++ field :: earlier) c).value? (internal (internal field)) ≠ none := by
  -- What comes to stand there again was moved there.
  have taken := value?_internal_of_move respelled before c
  rw [List.append_cons, renameFields_append] at present
  obtain ⟨earlier, later, shape, again, moved⟩ := exists_move taken present
  refine ⟨earlier, later, shape, again, ?_⟩
  rwa [List.append_cons, renameFields_append]

/-- A field whose value is taken away but stands under the library's spelling in the end has this spelling behind it. -/
theorem exists_return_of_mem {fields : List String} {field : String} {c : Chart} (member : field ∈ fields)
    (respelled : internal field ≠ field) (present : (renameFields fields c).value? (internal field) ≠ none) :
    ∃ before earlier later, fields = before ++ field :: (earlier ++ internal field :: later) ∧
      internal (internal field) ≠ internal field ∧
      (renameFields (before ++ field :: earlier) c).value? (internal (internal field)) ≠ none := by
  -- Its first mention takes the value away.
  obtain ⟨before, between, rfl⟩ := List.append_of_mem member
  obtain ⟨earlier, later, rfl, again, moved⟩ := exists_return respelled present
  exact ⟨before, earlier, later, rfl, again, moved⟩

/-- Two names that stand in a list one behind the other. -/
theorem pair_sublist (before : List String) (a : String) (between : List String) (b : String) (after : List String) :
    [a, b].Sublist (before ++ a :: between ++ b :: after) := by
  -- The names between them and around them are left out.
  simp

section Shown

variable {fields : List String} {c : Chart}
variable (shown : ∀ field ∈ fields, (renameFields fields c).value? field ≠ none)
include shown

/-- Where all fields are shown, no field takes the value of one before it. -/
theorem eq_of_takes {a b : String} (order : [a, b].Sublist fields) (takes : internal b = a) : a = b := by
  -- The value would have to come back, which takes a third field before the first; each of these is shorter.
  induction size : a.length using Nat.strongRecOn generalizing a b with
  | _ length ih =>
    by_contra different
    obtain ⟨front, back, shape, inFront, inBack⟩ := List.cons_sublist_iff.1 order
    obtain ⟨first, between, rfl⟩ := List.append_of_mem inFront
    obtain ⟨middle, rest, rfl⟩ := List.append_of_mem (List.singleton_sublist.1 inBack)
    subst takes
    -- The value is taken away by the second field, so the first field comes again behind it.
    have present : (renameFields ((first ++ internal b :: between ++ middle) ++ b :: rest) c).value? (internal b) ≠
        none := by
      have last := shown (internal b) (by simp [shape])
      rwa [shape, ← List.append_assoc] at last
    obtain ⟨earlier, later, rfl, again, moved⟩ := exists_return different present
    -- Then it moves a value that was taken away as well, by its first mention.
    have front : first ++ internal b :: between ++ middle ++ b :: earlier =
        first ++ internal b :: (between ++ middle ++ b :: earlier) := by simp
    rw [front] at moved
    obtain ⟨sooner, afterwards, inner, -, -⟩ := exists_return again moved
    have whole : fields = (first ++ internal b :: sooner) ++ internal (internal b) :: afterwards ++
        internal b :: later := by
      have extended := congrArg (fun inside => first ++ internal b :: inside ++ internal b :: later) inner
      rw [shape]
      simpa using extended
    have sooner := whole ▸ pair_sublist _ (internal (internal b)) afterwards (internal b) later
    exact again (ih _ (size ▸ Field.length_internal_lt again) sooner rfl rfl)

/-- A field that the library spells otherwise and that is shown was moved to its name. -/
theorem exists_own_move (named : ∀ k, c.value? k ≠ none → k ∈ fields.map internal) {field : String}
    (member : field ∈ fields) (respelled : internal field ≠ field) : ∃ before after,
      fields = before ++ field :: after ∧ (renameFields before c).value? (internal field) ≠ none := by
  by_cases absent : c.value? field = none
  · -- What does not stand under its name at first must have been moved there.
    obtain ⟨before, after, shape, -, moved⟩ := exists_move absent (shown field member)
    exact ⟨before, after, shape, moved⟩
  · -- What stood under its name at first is the value of another field, which took it away.
    obtain ⟨other, listed, same⟩ := List.mem_map.1 (named field absent)
    have different : internal other ≠ other := by
      intro plain
      rw [same] at plain
      exact respelled (plain ▸ same)
    have present := shown field member
    rw [← same] at present
    obtain ⟨before, earlier, later, shape, -, moved⟩ := exists_return_of_mem listed different present
    rw [same] at shape moved
    exact ⟨before ++ other :: earlier, later, by rw [shape]; simp, moved⟩

/-- Where all fields are shown, a field that was moved comes before no other field of its counter that was moved. -/
theorem not_both_moved {a b : String} {before between after : List String}
    (shape : fields = before ++ a :: between ++ b :: after) (respelledFirst : internal a ≠ a)
    (respelledSecond : internal b ≠ b) (same : internal a = internal b)
    (moved : (renameFields (before ++ a :: between) c).value? (internal b) ≠ none) : False := by
  -- The value would have to come back between the two, under a name that the second one takes.
  rw [← same] at moved
  obtain ⟨earlier, later, rfl, -, -⟩ := exists_return respelledFirst moved
  have order : [internal a, b].Sublist fields := by
    have inner := pair_sublist (before ++ a :: earlier) (internal a) later b after
    rw [shape]
    simpa using inner
  have taken := eq_of_takes shown order same.symm
  rw [same] at taken
  exact respelledSecond taken

/-- Where all fields are shown, two fields of one counter are the same. -/
theorem eq_of_internal_eq (named : ∀ k, c.value? k ≠ none → k ∈ fields.map internal) {a b : String}
    (order : [a, b].Sublist fields) (same : internal a = internal b) : a = b := by
  -- At most one of two different fields could be left alone, and not both could be moved.
  by_contra different
  have listed := order.subset
  have first : a ∈ fields := listed (by simp)
  have second : b ∈ fields := listed (by simp)
  by_cases plainFirst : internal a = a
  · exact different (eq_of_takes shown order (same ▸ plainFirst))
  by_cases plainSecond : internal b = b
  · -- The first field takes the value of the second, which never comes back.
    have present := shown b second
    rw [← plainSecond, ← same] at present
    obtain ⟨-, -, -, -, respelled, -⟩ := exists_return_of_mem first plainFirst present
    rw [same, plainSecond] at respelled
    exact respelled plainSecond
  · -- Both were moved, one of them first.
    obtain ⟨beforeFirst, afterFirst, shapeFirst, movedFirst⟩ := exists_own_move shown named first plainFirst
    obtain ⟨beforeSecond, afterSecond, shapeSecond, movedSecond⟩ := exists_own_move shown named second plainSecond
    rcases List.append_eq_append_iff.1 (shapeFirst.symm.trans shapeSecond) with
      ⟨between, longer, rest⟩ | ⟨between, longer, rest⟩
    · cases between with
      | nil => exact different (List.cons.inj rest).1
      | cons head tail =>
        obtain ⟨rfl, -⟩ := List.cons.inj rest
        subst longer
        exact not_both_moved shown shapeSecond plainFirst plainSecond same movedSecond
    · cases between with
      | nil => exact different (List.cons.inj rest).1.symm
      | cons head tail =>
        obtain ⟨rfl, -⟩ := List.cons.inj rest
        subst longer
        exact not_both_moved shown shapeFirst plainSecond plainFirst same.symm movedFirst

/-- Where all fields are shown, they are separate. -/
theorem separate_of_shown (named : ∀ k, c.value? k ≠ none → k ∈ fields.map internal) :
    fields.Pairwise Field.Separate := by
  -- Each way in which two fields could fail to be separate makes them the same.
  refine List.pairwise_iff_forall_sublist.2 fun {a b} order => ?_
  by_cases equal : a = b
  · exact .inl equal
  · exact .inr ⟨fun same => equal (eq_of_internal_eq shown named order same),
      fun takes => equal (eq_of_takes shown order takes)⟩

end Shown

end Chart

namespace Content

/-- A content with one series is presented by renaming its points and, unless it is ascending, turning it around. -/
theorem present_result (widget : Widget) (request : Request) (config : Config) (series : List Chart) :
    present widget request config (.result series) =
      .result (if shouldReverse widget request config then
          (series.map (Chart.renameFields request.contentFields)).reverse
        else series.map (Chart.renameFields request.contentFields)) := by
  -- Both touches work on each series by itself.
  unfold present
  split <;> rfl

/-- A content with one point under each of some distinct keys is presented by renaming its points. -/
theorem present_ofPoints (widget : Widget) (request : Request) (config : Config) {points : List (String × Chart)}
    (distinct : (points.map Prod.fst).Nodup) : present widget request config (.ofPoints points) =
      .ofPoints (points.map (Prod.map id (Chart.renameFields request.contentFields))) := by
  -- A series of one point reads the same from either end.
  have renamed : ((points.map (Prod.map id (Chart.renameFields request.contentFields))).map Prod.fst).Nodup := by
    rwa [List.map_map]
  apply eq_of_entries
  rw [entries_ofPoints renamed]
  unfold present reverse renameFields Grouped.mapSeries
  rw [entries_ofPoints distinct]
  split <;> simp [Function.comp_def]

/-- A content without groups stays one. -/
theorem present_empty (widget : Widget) (request : Request) (config : Config) :
    present widget request config .empty = .empty := by
  -- There is no point to be renamed and no series to be turned around.
  unfold present
  split <;> rfl

end Content

/-- The points of a widget that orders them by itself are presented in its order. -/
theorem present_of_ordersItself {widget : Widget} (ordered : widget.ordersItself = true) (request : Request)
    (config : Config) (content : Content) :
    present widget request config content = content.renameFields request.contentFields := by
  -- Its points are not turned around, so only the names are given.
  simp [present, shouldReverse, ordered]

/-- Fetched from the newest launch on, a series is turned around unless its widget orders it by itself. -/
theorem shouldReverse_of_descending {widget : Widget} {request : Request} (config : Config)
    (unordered : widget.ordersItself = false) (descending : request.sort.direction = .descending) :
    shouldReverse widget request config = true := by
  simp [shouldReverse, SortOrder.isAscendingBy, unordered, descending]

namespace Trend

/-- The point of a record in a trend by launch as it is presented. -/
def presentedPoint (request : Request) (r : Record) : Chart :=
  (recordPoint (request.contentFields.map internal) r).renameFields request.contentFields

/-- A presented point describes its record. -/
theorem bare_presentedPoint (request : Request) (r : Record) :
    (presentedPoint request r).bare = Chart.ofRecord r := by
  -- Neither setting nor renaming values touches anything else.
  unfold presentedPoint recordPoint
  rw [Chart.bare_renameFields, Chart.bare_foldl_setInt]
  rfl

/-- A presented point answers all fields under the caller's spelling exactly when the fields are separate. -/
theorem presentedPoint_answers_iff (request : Request) (r : Record) :
    (∀ field ∈ request.contentFields,
      (presentedPoint request r).value? field = some (Decimal.ofInt (r.count (internal field)))) ↔
      request.contentFields.Pairwise Field.Separate := by
  -- Before the renaming the point has one value for each counter, under the library's spelling.
  have stored (k : String) := value?_recordPoint (request.contentFields.map internal) r k
  constructor
  · intro answered
    have shown : ∀ field ∈ request.contentFields, (presentedPoint request r).value? field ≠ none := by
      intro field member
      rw [answered field member]
      exact Option.some_ne_none _
    -- If two fields were not separate, one of them would have no value behind the renaming.
    refine Chart.separate_of_shown shown fun k found => ?_
    by_contra unnamed
    exact found ((stored k).trans (if_neg unnamed))
  · intro separate
    have ready : ∀ field ∈ request.contentFields, Chart.Ready request.contentFields
        (fun name => Decimal.ofInt (r.count name)) (recordPoint (request.contentFields.map internal) r) field := by
      intro field member
      exact .inl ((stored _).trans (if_pos (List.mem_map_of_mem member)))
    exact Chart.value?_renameFields separate ready

/-- Without a timeline an accepted trend has a point for each record considered. -/
theorem content_of_untimed {request : Request} {config : Config} {content : Content}
    (untimed : (Job.ofRequest .statisticTrend request config).timeline? = .ok none)
    (built : statistics (Job.ofRequest .statisticTrend request config) = .ok content) :
    content = if request.limitedRecords = [] then .empty
      else .result (request.limitedRecords.map (recordPoint (request.contentFields.map internal))) := by
  -- An accepted job fixes its fields and its timeline.
  obtain ⟨fields, timeline, required, timed, rfl⟩ := statistics_eq_ok_iff.1 built
  obtain ⟨-, -, rfl⟩ := Job.requiredFields_eq_ok_iff.1 required
  rw [untimed] at timed
  cases timed
  rfl

/-- An accepted trend by launch has a point for each record considered, and its points answer all fields under the
caller's spelling exactly when the fields are separate. -/
theorem dispatch_statisticTrend {request : Request} {config : Config} {content : Content}
    (named : request.widget = Widget.statisticTrend.key) (unasked : request.option? "timeline" = none)
    (noDefault : config.defaultTimeline = none) (answered : Registry.standard.dispatch request config = .ok content) :
    content = (if request.limitedRecords = [] then .empty else
      .result (if shouldReverse .statisticTrend request config then
          (request.limitedRecords.map (presentedPoint request)).reverse
        else request.limitedRecords.map (presentedPoint request))) ∧
    ∀ r, (presentedPoint request r).bare = Chart.ofRecord r ∧
      ((∀ field ∈ request.contentFields,
        (presentedPoint request r).value? field = some (Decimal.ofInt (r.count (internal field)))) ↔
        request.contentFields.Pairwise Field.Separate) := by
  -- The points are those of the strategy, renamed one by one and perhaps turned around.
  refine ⟨?_, fun r => ⟨bare_presentedPoint request r, presentedPoint_answers_iff request r⟩⟩
  obtain ⟨widget, made, known, built, rfl⟩ := Registry.dispatch_standard_eq_ok_iff.1 answered
  rw [named, Widget.ofKey?_key] at known
  cases known
  have untimed : (Job.ofRequest .statisticTrend request config).timeline? = .ok none :=
    timeline?_eq_none unasked noDefault
  rw [content_of_untimed untimed built]
  split
  · exact Content.present_empty _ _ _
  · rw [Content.present_result, List.map_map]
    rfl

/-- Two counters of a launch are answered in the caller's spellings. -/
theorem dispatch_twoCounters : ∃ content,
    Registry.standard.dispatch (Sample.trend Sample.twoCounters) {} = .ok content ∧
    content = .result [presentedPoint (Sample.trend Sample.twoCounters) Sample.leapRun] ∧
    ∀ field ∈ Sample.twoCounters, (presentedPoint (Sample.trend Sample.twoCounters) Sample.leapRun).value? field =
      some (Decimal.ofInt (Sample.leapRun.count (internal field))) := by
  -- The two fields name different counters, and neither is spelled as the library spells the other.
  obtain ⟨content, answered⟩ : ∃ content,
      Registry.standard.dispatch (Sample.trend Sample.twoCounters) {} = .ok content := ⟨_, rfl⟩
  obtain ⟨shape, points⟩ := dispatch_statisticTrend rfl rfl rfl answered
  refine ⟨content, answered, shape, ?_⟩
  exact (points Sample.leapRun).2.2 (by decide)

/-- Of two spellings of one counter only the first is answered. -/
theorem dispatch_twoSpellings : ∃ content,
    Registry.standard.dispatch (Sample.trend Sample.twoSpellings) {} = .ok content ∧
    content.allPoints.map (Chart.value? · "executions$total") = [some "5"] ∧
    content.allPoints.map (Chart.value? · "statistics$executions$total") = [none] := by
  refine ⟨_, rfl, ?_, ?_⟩
  · decide
  · decide

end Trend
end Dashboard
