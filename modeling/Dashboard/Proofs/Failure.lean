import Dashboard.Failure

/-! Kinds of failure, and computations that can fail for reasons of one kind alone or give values of one kind alone. -/

namespace Dashboard

namespace Failure

/-- Whether the configuration is named as the cause. -/
def blamesConfiguration : Failure → Bool
  | configuration _ | invalidSetting .. => true
  | _ => false

/-- The exit code for a bad configuration is given to no other failure. -/
theorem exitCode_eq_seven_iff (failure : Failure) : failure.exitCode = 7 ↔ failure.blamesConfiguration = true := by
  -- Only two failures exit with this code, and these two are about the configuration.
  cases failure <;> simp [exitCode, blamesConfiguration]

end Failure

/-- Two steps give a value when the first gives something behind which the second gives this value. -/
theorem bind_eq_ok_iff {α β : Type} {step : Except Failure α} {next : α → Except Failure β} {result : β} :
    step >>= next = .ok result ↔ ∃ value, step = .ok value ∧ next value = .ok result := by
  -- A step that fails hands its failure on, and has no value for the second step.
  cases step <;> simp [Bind.bind, Except.bind]

/-- Two steps come to the same when the second does so behind whatever the first gives. -/
theorem bind_congr_ok {α β : Type} {step : Except Failure α} {next other : α → Except Failure β}
    (same : ∀ value, step = .ok value → next value = other value) : step >>= next = step >>= other := by
  cases step with
  | error failure => rfl
  | ok value => exact same value rfl

/-- A computation fails, if it does, for a reason of some kind. -/
def FailsOnly {α : Type} (reason : Failure → Prop) (step : Except Failure α) : Prop :=
  ∀ failure, step = .error failure → reason failure

variable {α β : Type} {reason : Failure → Prop}

/-- A value is no failure of any kind. -/
theorem failsOnly_ok (value : α) : FailsOnly reason (.ok value) := nofun

/-- A failure of the kind is a failure of the kind alone. -/
theorem failsOnly_error {failure : Failure} (blamed : reason failure) : FailsOnly (α := α) reason (.error failure) := by
  rintro _ ⟨⟩
  exact blamed

/-- Two steps fail for reasons of a kind, when the first does and the second does behind what the first gives. -/
theorem failsOnly_bind {step : Except Failure α} {next : α → Except Failure β} (first : FailsOnly reason step)
    (behind : ∀ value, step = .ok value → FailsOnly reason (next value)) : FailsOnly reason (step >>= next) := by
  -- The failure is the first step's own, or that of the second step behind the value of the first.
  intro failure failed
  cases passed : step with
  | error cause =>
    rw [passed] at failed
    cases failed
    exact first _ passed
  | ok value =>
    rw [passed] at failed
    exact behind value passed failure failed

/-- Changing the value that is given changes no failure. -/
theorem failsOnly_map {step : Except Failure α} (only : FailsOnly reason step) (g : α → β) :
    FailsOnly reason (step.map g) := by
  cases step with
  | error cause => exact failsOnly_error (only cause rfl)
  | ok value => exact failsOnly_ok (g value)

variable {f : α → Except Failure β} {items : List α}

/-- A list is worked off with failures of a kind when each of its items is. -/
theorem failsOnly_mapM (each : ∀ item ∈ items, FailsOnly reason (f item)) : FailsOnly reason (items.mapM f) := by
  -- The first item that fails gives its failure to the whole list.
  induction items with
  | nil => exact failsOnly_ok []
  | cons item rest ih =>
    obtain ⟨first, others⟩ := List.forall_mem_cons.1 each
    rw [List.mapM_cons]
    exact failsOnly_bind first fun _ _ => failsOnly_bind (ih others) fun _ _ => failsOnly_ok _

/-- A list is worked off when each of its items is. -/
theorem exists_mapM_ok (each : ∀ item ∈ items, ∃ result, f item = .ok result) :
    ∃ results, items.mapM f = .ok results := by
  induction items with
  | nil => exact ⟨[], rfl⟩
  | cons item rest ih =>
    obtain ⟨⟨result, first⟩, others⟩ := List.forall_mem_cons.1 each
    -- The head has its result, and the rest of the list has results by induction.
    obtain ⟨results, worked⟩ := ih others
    exact ⟨result :: results, by rw [List.mapM_cons, first, worked]; rfl⟩

/-- A list is not worked off when one of its items is not. -/
theorem exists_mapM_error {item : α} (member : item ∈ items) (failed : ∃ failure, f item = .error failure) :
    ∃ failure, items.mapM f = .error failure := by
  obtain ⟨failure, failed⟩ := failed
  induction items with
  | nil => cases member
  | cons head rest ih =>
    rw [List.mapM_cons]
    cases first : f head with
    -- The list stops at its first failure, whether or not this is the failure that was given.
    | error cause => exact ⟨cause, rfl⟩
    | ok result =>
      -- The item that fails is not the head, so it is one of the others.
      rcases List.mem_cons.1 member with rfl | later
      · cases first.symm.trans failed
      · obtain ⟨cause, others⟩ := ih later
        exact ⟨cause, by rw [others]; rfl⟩

/-- A computation gives, if it does, a value of some kind. -/
def GivesOnly {α : Type} (kind : α → Prop) (step : Except Failure α) : Prop :=
  ∀ value, step = .ok value → kind value

section

variable {kind : β → Prop}

/-- A value of the kind is given by a computation that gives nothing else. -/
theorem givesOnly_ok {value : β} (holds : kind value) : GivesOnly kind (.ok value) := by
  rintro _ ⟨⟩
  exact holds

/-- A failure gives no value at all, of this kind or another. -/
theorem givesOnly_error (failure : Failure) : GivesOnly kind (.error failure) := nofun

/-- Two steps give a value of a kind when the second does behind whatever the first gives. -/
theorem givesOnly_bind {step : Except Failure α} {next : α → Except Failure β}
    (behind : ∀ value, step = .ok value → GivesOnly kind (next value)) : GivesOnly kind (step >>= next) := by
  -- A first step that fails gives nothing, so only the value behind it is looked at.
  cases passed : step with
  | error failure => exact givesOnly_error failure
  | ok value => exact behind value passed

/-- The results of a list that is worked off are of the kind that its items give. -/
theorem givesOnly_mapM (each : ∀ item ∈ items, GivesOnly kind (f item)) :
    GivesOnly (fun results => ∀ result ∈ results, kind result) (items.mapM f) := by
  -- The first item gives its result and the others give theirs by induction.
  induction items with
  | nil => exact givesOnly_ok nofun
  | cons item rest ih =>
    obtain ⟨first, others⟩ := List.forall_mem_cons.1 each
    rw [List.mapM_cons]
    exact givesOnly_bind fun result given => givesOnly_bind fun results worked =>
      givesOnly_ok (List.forall_mem_cons.2 ⟨first result given, ih others results worked⟩)

end

end Dashboard
