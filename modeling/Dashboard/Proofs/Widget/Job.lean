import Dashboard.Proofs.Failure
import Dashboard.Widget.Job

/-! What the options and the fields of a job are when they are accepted. -/

namespace Dashboard

namespace Job

/-- The records of a job are those that its request leaves when it is sorted and limited. -/
@[simp] theorem records_ofRequest (widget : Widget) (request : Request) (config : Config) :
    (ofRequest widget request config).records = request.limitedRecords := rfl

/-- An option that must be there is accepted exactly when its first value is more than blanks, which are left out. -/
theorem required_eq_ok_iff {job : Job} {option name : String} : job.required option = .ok name ↔
    ∃ value, job.request.option? option = some value ∧ Text.trim value = name ∧ name ≠ "" := by
  -- The first value is trimmed, and a blank one counts as missing.
  unfold required
  cases given : ((job.request.option? option).map Text.trim).filter (· ≠ "") with
  | none =>
    -- There is no value, or it has nothing but blanks.
    simp only [reduceCtorEq, false_iff]
    rintro ⟨value, isValue, rfl, nonblank⟩
    simp [isValue, nonblank] at given
  | some trimmed =>
    obtain ⟨mapped, nonblank⟩ := Option.filter_eq_some_iff.1 given
    obtain ⟨value, isValue, rfl⟩ := Option.map_eq_some_iff.1 mapped
    simp only [Except.ok.injEq, isValue, Option.some.injEq, exists_eq_left']
    exact ⟨fun same => ⟨same, same ▸ of_decide_eq_true nonblank⟩, And.left⟩

/-- A field is accepted exactly when it can name a counter, and then it gets the library's spelling. -/
theorem internalField_eq_ok_iff {job : Job} {field name : String} :
    job.internalField field = .ok name ↔ Field.isValid field = true ∧ Field.internal field = name := by
  -- The job only matters to the text of a refusal.
  unfold internalField
  by_cases valid : Field.isValid field = true <;> simp [valid]

/-- Fields are accepted exactly when each can name a counter, and then each gets the library's spelling. -/
theorem mapM_internalField_eq_ok_iff {job : Job} {fields names : List String} :
    fields.mapM job.internalField = .ok names ↔
      (∀ field ∈ fields, Field.isValid field = true) ∧ fields.map Field.internal = names := by
  -- The first field that cannot name a counter ends the reading.
  induction fields generalizing names with
  | nil => simp [Pure.pure, Except.pure]
  | cons field rest ih =>
    rw [List.mapM_cons]
    cases read : job.internalField field with
    | error failure =>
      have invalid : ¬ Field.isValid field = true := fun valid => by
        have accepted : job.internalField field = .ok (Field.internal field) :=
          internalField_eq_ok_iff.2 ⟨valid, rfl⟩
        rw [read] at accepted
        cases accepted
      simp [Bind.bind, Except.bind, invalid]
    | ok name =>
      obtain ⟨valid, rfl⟩ := internalField_eq_ok_iff.1 read
      cases readRest : rest.mapM job.internalField with
      | error failure =>
        -- The field is accepted, so that one of the later ones is not.
        have invalid : ¬ ∀ field ∈ rest, Field.isValid field = true := fun valid => by
          have accepted := ih.2 ⟨valid, rfl⟩
          rw [readRest] at accepted
          cases accepted
        simp only [Bind.bind, Except.bind, List.mem_cons, forall_eq_or_imp, reduceCtorEq, false_iff]
        exact fun accepted => invalid accepted.1.2
      | ok names =>
        obtain ⟨restValid, rfl⟩ := ih.1 readRest
        simp only [Bind.bind, Except.bind, Pure.pure, Except.pure, Except.ok.injEq, List.mem_cons,
          forall_eq_or_imp, List.map_cons]
        exact ⟨fun same => ⟨⟨valid, restValid⟩, same⟩, And.right⟩

/-- The content fields of a job are accepted exactly when each can name a counter. -/
theorem contentFields_eq_ok_iff {job : Job} {names : List String} : job.contentFields = .ok names ↔
    (∀ field ∈ job.request.contentFields, Field.isValid field = true) ∧ job.request.contentFields.map Field.internal = names :=
  mapM_internalField_eq_ok_iff

/-- Where content fields are required, they are accepted exactly when there are some and each can name a counter. -/
theorem requiredFields_eq_ok_iff {job : Job} {names : List String} : job.requiredFields = .ok names ↔
    job.request.contentFields ≠ [] ∧ (∀ field ∈ job.request.contentFields, Field.isValid field = true) ∧
      job.request.contentFields.map Field.internal = names := by
  -- Having none is refused before any of them is read.
  unfold requiredFields
  by_cases empty : job.request.contentFields = []
  · simp [empty]
  · simp only [empty, if_false, ne_eq, not_false_eq_true, true_and]
    exact contentFields_eq_ok_iff

/-- A request with metadata fields is accepted for having them. -/
theorem requireMetadata_eq_ok_iff {job : Job} {done : Unit} :
    job.requireMetadata = .ok done ↔ job.request.metadataFields ≠ [] := by
  -- Having none is what is refused.
  unfold requireMetadata
  split <;> simp [*]

/-- The fields of a request are accepted where there are some and each can name a counter. -/
theorem requiredFields_ofRequest (request : Request) (widget : Widget) (config : Config)
    (someFields : request.contentFields ≠ []) (valid : ∀ field ∈ request.contentFields, Field.isValid field = true) :
    (ofRequest widget request config).requiredFields = .ok (request.contentFields.map Field.internal) :=
  requiredFields_eq_ok_iff.2 ⟨someFields, valid, rfl⟩

end Job
end Dashboard
