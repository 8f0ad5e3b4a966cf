import Dashboard.Proofs.Grouped
import Dashboard.Proofs.Record.Json
import Dashboard.Report

/-! Contents that are built step by step: which series stand under which keys, and that an exported content is read back
as it was built. -/

namespace Dashboard

namespace Grouped

variable {α : Type}

/-- A step in building groups: a whole series is put under a key, or an item is appended to the series there. -/
inductive Step (α : Type) where
  | insert (key : String) (series : List α)
  | push (key : String) (item : α)

namespace Step

/-- The key that a step mentions. -/
def key : Step α → String
  | insert key _ => key
  | push key _ => key

/-- The groups after a step. -/
def apply (g : Grouped α) : Step α → Grouped α
  | insert key series => g.insert key series
  | push key item => g.push key item

/-- What a step makes of the series under its key. -/
def change : Step α → List α → List α
  | insert _ series => fun _ => series
  | push _ item => (· ++ [item])

/-- A step changes the entry of the key that it mentions. -/
theorem entries_apply (g : Grouped α) (step : Step α) :
    (apply g step).entries = alterEntry step.key step.change g.entries := by
  cases step <;> rfl

/-- The items that some steps append under a key. -/
def pushed (key : String) (steps : List (Step α)) : List α :=
  steps.filterMap fun
    | push k item => if k = key then some item else none
    | insert _ _ => none

/-- What some steps make of the series under a key. -/
def seriesAfter (key : String) (steps : List (Step α)) (series : List α) : List α :=
  steps.foldl (fun series step => if step.key = key then step.change series else series) series

/-- Steps behind other steps change the series that those have left. -/
theorem seriesAfter_append (key : String) (before after : List (Step α)) (series : List α) :
    seriesAfter key (before ++ after) series = seriesAfter key after (seriesAfter key before series) :=
  List.foldl_append

/-- Steps that do not mention a key leave its series alone. -/
theorem seriesAfter_of_not_mem {key : String} {steps : List (Step α)} (unmentioned : key ∉ steps.map Step.key)
    (series : List α) : seriesAfter key steps series = series := by
  -- A step about another key is passed over, and so are those behind it.
  induction steps with
  | nil => rfl
  | cons step rest ih =>
    rw [List.map_cons, List.mem_cons, not_or] at unmentioned
    rw [seriesAfter, List.foldl_cons, if_neg (Ne.symm unmentioned.1)]
    exact ih unmentioned.2

/-- Where no whole series is put under a key, the items that are appended there stand behind each other. -/
theorem seriesAfter_of_pushes {key : String} {steps : List (Step α)} (unreplaced : ∀ series, insert key series ∉ steps)
    (series : List α) : seriesAfter key steps series = series ++ pushed key steps := by
  -- The series is kept arbitrary, because each step that appends hands a longer one to the rest.
  induction steps generalizing series with
  | nil => exact (List.append_nil series).symm
  | cons step rest ih =>
    have restUnreplaced : ∀ other, insert key other ∉ rest := fun other later =>
      unreplaced other (List.mem_cons_of_mem step later)
    rw [seriesAfter, List.foldl_cons]
    refine (ih restUnreplaced _).trans ?_
    cases step with
    | insert k other =>
      -- Such a step is about another key.
      have elsewhere : k ≠ key := by
        rintro rfl
        exact unreplaced other List.mem_cons_self
      rw [if_neg (show (insert k other).key ≠ key from elsewhere)]
      rfl
    | push k item =>
      by_cases here : k = key
      · simp [Step.key, here, change, pushed]
      · simp [Step.key, here, pushed]

end Step

/-- The groups that some steps build from nothing. -/
def ofSteps (steps : List (Step α)) : Grouped α :=
  steps.foldl Step.apply empty

/-- Under the keys in the order of first mention stands what the steps make of empty series. -/
theorem entries_ofSteps (steps : List (Step α)) : (ofSteps steps).entries =
    (steps.map Step.key).eraseDups.map fun key => (key, Step.seriesAfter key steps []) := by
  -- The last step changes the series under its key, or makes one of its own.
  induction steps using List.reverseRecOn with
  | nil => rfl
  | append_singleton steps step ih =>
    have unused : step.key ∉ steps.map Step.key → Step.seriesAfter step.key steps [] = [] := fun unmentioned =>
      Step.seriesAfter_of_not_mem unmentioned []
    rw [ofSteps, List.foldl_append, List.foldl_cons, List.foldl_nil, Step.entries_apply, ← ofSteps, ih,
      alterEntry_eraseDups unused, List.map_append, List.map_singleton]
    -- Of the series before the last step only the one under its key differs.
    refine List.map_congr_left fun key _ => ?_
    rw [Step.seriesAfter_append]
    by_cases here : key = step.key
    · simp [here, Step.seriesAfter]
    · simp [here, Ne.symm here, Step.seriesAfter]

/-- Groups are built by some steps when each key that is mentioned has one series, at the place of its first mention.
It is the series that was put there last, if any was, and behind it stand the items that were appended since. -/
structure BuiltBy (g : Grouped α) (steps : List (Step α)) : Prop where
  distinct : g.keys.Nodup
  keys : g.keys = (steps.map Step.key).eraseDups
  unmentioned : ∀ key, key ∉ steps.map Step.key → g.get? key = none
  pushed : ∀ key, key ∈ steps.map Step.key → (∀ series, .insert key series ∉ steps) →
    g.get? key = some (Step.pushed key steps)
  put : ∀ before key series after, steps = before ++ .insert key series :: after →
    (∀ later, .insert key later ∉ after) → g.get? key = some (series ++ Step.pushed key after)

/-- What is built by some steps from nothing has a series for each key that they mention. -/
theorem builtBy_ofSteps (steps : List (Step α)) : BuiltBy (ofSteps steps) steps := by
  have keys : (ofSteps steps).keys = (steps.map Step.key).eraseDups :=
    keys_eq_of_entries (entries_ofSteps steps)
  have found : ∀ key, (ofSteps steps).get? key =
      if key ∈ steps.map Step.key then some (Step.seriesAfter key steps []) else none := by
    intro key
    -- Whether a key is there depends on its being mentioned, and its series on the steps alone.
    rw [get?, entries_ofSteps, Table.lookup_map_named]
    simp only [List.mem_eraseDups]
  refine ⟨keys ▸ nodup_eraseDups _, keys, fun key unmentioned => ?_, fun key mentioned unreplaced => ?_, ?_⟩
  · rw [found, if_neg unmentioned]
  · rw [found, if_pos mentioned, Step.seriesAfter_of_pushes unreplaced, List.nil_append]
  · rintro before key series after rfl unreplaced
    -- The series that was put last does not depend on what stood there before.
    rw [found, if_pos (by simp [Step.key]), Step.seriesAfter_append, Step.seriesAfter, List.foldl_cons,
      if_pos (show (Step.insert key series).key = key from rfl)]
    exact congrArg some (Step.seriesAfter_of_pushes unreplaced series)

example : (ofSteps [.push "b" 1, .push "a" 2, .insert "b" [3], .push "b" 4]).entries = [("b", [3, 4]), ("a", [2])] :=
  rfl

end Grouped

open Json (Fields Plain plain_map plain_ofSigned plain_ofTable plain_ofUnsigned)

/-- A point that is written as an object is read back, whatever of a point it has. -/
theorem Chart.ofJson?_toJson (c : Chart) : ofJson? c.toJson = some c := by
  obtain ⟨name, startTime, number, id, values⟩ := c
  -- A member that is there is not null.
  have start : ∀ value, Json.nullable? Json.signed? (.ofSigned value) = some (some value) := fun value =>
    Json.nullable?_ofOption Json.signed?_ofSigned nofun (some value)
  have count : ∀ value, Json.nullable? Json.unsigned? (.ofUnsigned value) = some (some value) := fun value =>
    Json.nullable?_ofOption Json.unsigned?_ofUnsigned nofun (some value)
  have text : ∀ value, Json.nullable? Json.text? (.text value) = some (some value) := fun _ => rfl
  unfold ofJson? toJson
  -- Which members there are depends on what the point knows; each of them has a name of its own.
  cases name <;> cases startTime <;> cases number <;> cases id
  all_goals
    refine (Json.bind_fields?_of_known rfl (by simp) (by simp) _).trans ?_
    simp [Fields.optional, Fields.withDefault, List.lookup, start, count, text, Json.table?_ofTable Json.text?_text]

/-- A point is written as an object of texts, numbers and a table of texts, two levels deep. -/
theorem Chart.plain_toJson {levels : Nat} (c : Chart) : Plain (levels + 2) c.toJson := by
  obtain ⟨name, startTime, number, id, values⟩ := c
  -- Any member that is there is a text, a number or the table of values.
  refine .object ?_
  cases name <;> cases startTime <;> cases number <;> cases id <;>
    simp [Plain.text, plain_ofSigned, plain_ofUnsigned, plain_ofTable]

namespace Content

/-- Reads a content off an object: its members in order, each an array of points. -/
def ofJson? : Json → Option Content
  | .object members => (members.mapM fun member => (Json.list? Chart.ofJson? member.2).map (member.1, ·)).map Grouped.mk
  | _ => none

/-- A content that is written as an object is read back. -/
theorem ofJson?_toJson (content : Content) : ofJson? content.toJson = some content := by
  -- A member is a key with an array of points, each of which is read back.
  have each : ∀ group ∈ content.entries,
      (Json.list? Chart.ofJson? (.array (group.2.map Chart.toJson))).map (group.1, ·) = some group := by
    intro group _
    rw [Json.list?_map Chart.ofJson?_toJson, Option.map_some]
  rw [toJson, ofJson?, Json.mapM_of_inverse each]
  rfl

/-- A content is an object of arrays of points, which are two levels deep themselves. -/
theorem plain_toJson {levels : Nat} (content : Content) : Plain (levels + 4) content.toJson := by
  -- Every member is an array of points.
  refine .object fun member listed => ?_
  obtain ⟨group, -, rfl⟩ := List.mem_map.1 listed
  exact plain_map Chart.plain_toJson group.2

/-- What is built step by step is described by its steps, and it is read back from its export, which its report is. -/
theorem ofSteps_exported (steps : List (Grouped.Step Chart)) :
    (Grouped.ofSteps steps).BuiltBy steps ∧
    (∀ layout : Json.Layout, (Json.read? (layout.write (toJson (Grouped.ofSteps steps)))).bind ofJson? =
      some (Grouped.ofSteps steps)) ∧
    ∀ widget generatedAt, (Json.read? (Report.toJsonText ⟨widget, Grouped.ofSteps steps, generatedAt⟩)).bind ofJson? =
      some (Grouped.ofSteps steps) := by
  have exported : ∀ layout : Json.Layout,
      (Json.read? (layout.write (toJson (Grouped.ofSteps steps)))).bind ofJson? = some (Grouped.ofSteps steps) := by
    -- The text is read as the object that was written, and the object as the content.
    intro layout
    rw [layout.read?_write (plain_toJson _), Option.bind_some, ofJson?_toJson]
  -- A report is the export in the layout that is made for readers.
  exact ⟨Grouped.builtBy_ofSteps steps, exported, fun _ _ => exported .indented⟩

end Content
end Dashboard
