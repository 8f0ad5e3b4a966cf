import Dashboard.Config.Basic
import Dashboard.Proofs.Json.Overlay
import Dashboard.Widget.Job

/-! Settings are read from what stands under their names, and those that are accepted can be used by every trend. -/

namespace Dashboard

open Json (FoundAlike Fields)

/-- A member with a known name is found among the members with known names. -/
theorem Json.lookup_filter_known {names : List String} {name : String} (known : name ∈ names)
    (members : List (String × Json)) :
    (members.filter fun (key, _) => names.contains key).lookup name = members.lookup name := by
  change (members.filter fun entry => names.contains entry.1).lookup name = members.lookup name
  induction members with
  | nil => rfl
  | cons head rest ih =>
    -- A member of the wanted name is kept, as the name is known.
    obtain ⟨key, value⟩ := head
    rw [Table.lookup_cons_eq]
    by_cases here : name = key
    · subst here
      simp [known]
    · -- Kept or not, a member of another name is not the one that is looked for.
      rw [if_neg here, ← ih]
      rw [List.filter_cons]
      split_ifs
      · rw [Table.lookup_cons_eq, if_neg here]
      · rfl

/-- A structure is decoded from the members with known names, none of which comes twice. -/
theorem Json.fields?_object {members : List (String × Json)} (distinct : (members.map Prod.fst).Nodup)
    (names : List String) :
    Json.fields? names (.object members) = some (members.filter fun (key, _) => names.contains key) := by
  unfold fields?
  exact if_pos (distinct.sublist (List.filter_sublist.map Prod.fst))

namespace Config

/-- Settings are read from what is found under their names; where nothing is found they have their defaults. -/
structure ReadFrom (found : String → Option Json) (config : Config) : Prop where
  historyTopN : (found "historyTopN").elim (some 20) Json.unsigned? = some config.historyTopN
  comparisonQuantity : (found "comparisonQuantity").elim (some 2) Json.unsigned? = some config.comparisonQuantity
  sortField : (found "sortField").elim (some "startTime") Json.text? = some config.sortField
  defaultTimeline : (found "defaultTimeline").elim (some none) (Json.nullable? Json.text?) = some config.defaultTimeline

/-- The names of the settings. -/
abbrev names : List String :=
  ["historyTopN", "comparisonQuantity", "sortField", "defaultTimeline"]

/-- A field with a default is read from what is found, or has its default. -/
theorem withDefault_eq_elim {α : Type} (fields : Fields) (name : String) (decode : Json → Option α) (absent : α) :
    fields.withDefault name decode absent = (fields.lookup name).elim (some absent) decode := by
  unfold Fields.withDefault
  cases fields.lookup name <;> rfl

/-- An object without repeated keys is decoded to the settings that are read from it. -/
theorem ofJson?_object_eq_some_iff {members : List (String × Json)} (distinct : (members.map Prod.fst).Nodup)
    {config : Config} : ofJson? (.object members) = some config ↔ config.ReadFrom (members.lookup ·) := by
  -- No name of a setting is lost when unknown members are left out.
  have known (name : String) (listed : name ∈ names) := Json.lookup_filter_known listed members
  obtain ⟨topN, quantity, field, timeline⟩ := config
  simp only [ofJson?, Json.fields?_object distinct, Fields.optional, withDefault_eq_elim, Option.bind_eq_bind,
    Option.bind_some, Option.pure_def, Option.bind_eq_some_iff, Option.some.injEq, Config.mk.injEq]
  constructor
  · rintro ⟨_, first, _, second, _, third, _, fourth, rfl, rfl, rfl, rfl⟩
    rw [known _ (by simp [names])] at first second third fourth
    exact ⟨first, second, third, fourth⟩
  · rintro ⟨first, second, third, fourth⟩
    rw [← known _ (by simp [names])] at first second third fourth
    exact ⟨_, first, _, second, _, third, _, fourth, rfl, rfl, rfl, rfl⟩

/-- The same settings are read from values that read alike. -/
theorem ReadFrom.congr {found other : String → Option Json} (alike : ∀ key, FoundAlike (found key) (other key))
    {config : Config} (read : config.ReadFrom found) : config.ReadFrom other := by
  -- A decoder that does not tell alike values apart finds the same under each name, or takes the same default.
  have elim {α : Type} {decode : Json → Option α} (absent : α)
      (agree : ∀ {v w : Json}, Json.ReadsAlike v w → decode v = decode w) (key : String) :
      (other key).elim (some absent) decode = (found key).elim (some absent) decode := by
    have here := alike key
    generalize found key = first at here
    generalize other key = second at here
    cases here with
    | none => rfl
    | some same => exact (agree same).symm
  -- Each setting goes by its own name, default and decoder.
  constructor
  · rw [elim 20 (·.unsigned)]
    exact read.historyTopN
  · rw [elim 2 (·.unsigned)]
    exact read.comparisonQuantity
  · rw [elim "startTime" (·.text)]
    exact read.sortField
  · rw [elim none (·.nullable)]
    exact read.defaultTimeline

/-- The same settings are read where the same stands under their names. -/
theorem readFrom_congr {found other : String → Option Json} (same : ∀ name ∈ names, found name = other name)
    {config : Config} : config.ReadFrom found ↔ config.ReadFrom other := by
  -- Each of the four settings is read under its own name.
  have topN := same "historyTopN" (by simp [names])
  have quantity := same "comparisonQuantity" (by simp [names])
  have field := same "sortField" (by simp [names])
  have timeline := same "defaultTimeline" (by simp [names])
  constructor
  · rintro ⟨first, second, third, fourth⟩
    exact ⟨topN ▸ first, quantity ▸ second, field ▸ third, timeline ▸ fourth⟩
  · rintro ⟨first, second, third, fourth⟩
    exact ⟨topN.symm ▸ first, quantity.symm ▸ second, field.symm ▸ third, timeline.symm ▸ fourth⟩

/-- Settings are accepted as they are. -/
theorem eq_of_validate {config accepted : Config} (valid : config.validate = .ok accepted) : accepted = config := by
  unfold validate at valid
  split at valid <;> cases valid
  rfl

/-- Accepted settings have no problem. -/
theorem problem?_of_validate {config : Config} (valid : config.validate = .ok config) : config.problem? = none := by
  unfold validate at valid
  split at valid
  · simp at valid
  · assumption

/-- Settings without a problem have a default timeline that can be used, or none. -/
theorem timelineProblem?_of_problem? {config : Config} (sound : config.problem? = none) :
    config.defaultTimeline.bind timelineProblem? = none := by
  unfold problem? at sound
  generalize config.defaultTimeline.bind timelineProblem? = found at sound ⊢
  -- The timeline is the last thing that is checked.
  split_ifs at sound
  exact Option.map_eq_none_iff.1 sound

/-- An accepted default timeline names a span of the calendar. -/
theorem exists_span_of_validate {config : Config} (valid : config.validate = .ok config) {timeline : String}
    (configured : config.defaultTimeline = some timeline) : ∃ span, Period.parse timeline = .ok (.span span) := by
  have usable := timelineProblem?_of_problem? (problem?_of_validate valid)
  -- A timeline that is no span would have been the problem.
  rw [configured, Option.bind_some, timelineProblem?] at usable
  cases parsed : Period.parse timeline with
  | ok period =>
    cases period with
    | span span => exact ⟨span, rfl⟩
    | name => simp [parsed] at usable
  | error failure => simp [parsed] at usable

end Config

namespace Job

/-- With accepted settings a trend that names no timeline itself has one or none, but never fails for it. -/
theorem exists_timeline? {job : Job} (valid : job.config.validate = .ok job.config)
    (unasked : job.request.option? "timeline" = none) : ∃ timeline, job.timeline? = .ok timeline := by
  -- Without a timeline in the request the default counts, which has been checked.
  unfold timeline?
  rw [unasked, Option.none_or]
  cases configured : job.config.defaultTimeline with
  | none => exact ⟨none, rfl⟩
  | some timeline =>
    obtain ⟨span, parsed⟩ := Config.exists_span_of_validate valid configured
    exact ⟨some span, by simp [spanOf, parsed, Except.map]⟩

end Job
end Dashboard
