import Dashboard.CommandLine.Run
import Dashboard.Proofs.Config.Layers
import Dashboard.Proofs.Failure

/-! Faults in configuration files: which of them a command reports as faults of the configuration. -/

namespace Dashboard

namespace ConfigFile

/-- A file that is missing or holds a text is read, or else it is blamed. -/
theorem failsOnly_value? {f : ConfigFile} (readable : f.file ≠ .unreadable) :
    FailsOnly (·.blamesConfiguration = true) f.value? := by
  -- Only a text can be malformed, and then the file is blamed.
  unfold value?
  split
  · exact failsOnly_ok none
  · exact absurd ‹_› readable
  · split
    · exact failsOnly_ok _
    · exact failsOnly_error rfl

/-- Such a file is laid over what is below, or else it is blamed. -/
theorem failsOnly_layOver {f : ConfigFile} (readable : f.file ≠ .unreadable) (level : ConfigLevel)
    (state : Json × ConfigChain) : FailsOnly (·.blamesConfiguration = true) (f.layOver level state) := by
  refine failsOnly_bind (failsOnly_value? readable) fun value _ => ?_
  cases value <;> exact failsOnly_ok _

/-- A file that was asked for is there, or else it is blamed. -/
theorem failsOnly_require (f : ConfigFile) : FailsOnly (·.blamesConfiguration = true) f.require := by
  unfold require
  split
  · exact failsOnly_ok f
  · exact failsOnly_error rfl

/-- The file that was asked for is the one that is there. -/
theorem eq_of_require {f found : ConfigFile} (there : f.require = .ok found) : found = f := by
  unfold require at there
  split at there <;> cases there
  rfl

end ConfigFile

namespace Config

/-- Settings that are not accepted are blamed. -/
theorem failsOnly_validate (config : Config) : FailsOnly (·.blamesConfiguration = true) config.validate := by
  unfold validate
  split
  · exact failsOnly_error rfl
  · exact failsOnly_ok config

end Config

namespace ConfigFiles

/-- Each of the files is missing or holds a text. -/
def Readable (files : ConfigFiles) : Prop :=
  ∀ f ∈ files.listed, f.file ≠ .unreadable

/-- The files can be laid over each other, but what they say together is not of the types of the settings. -/
def Mistyped (files : ConfigFiles) : Prop :=
  ∃ value chain, files.overlaid = .ok (value, chain) ∧ Config.ofJson? value = none

/-- Readable files are laid over each other, or one of them is blamed. -/
theorem failsOnly_overlaid {files : ConfigFiles} (readable : files.Readable) :
    FailsOnly (·.blamesConfiguration = true) files.overlaid := by
  obtain ⟨user, project, explicit⟩ := files
  -- Each file by itself is laid over what is below, or blamed.
  have laid (f : ConfigFile) (member : f ∈ listed ⟨user, project, explicit⟩) (level : ConfigLevel)
      (state : Json × ConfigChain) : FailsOnly (·.blamesConfiguration = true) (f.layOver level state) :=
    ConfigFile.failsOnly_layOver (readable f member) level state
  -- A file that was asked for and is not there is blamed for that.
  have asked (f : ConfigFile) (member : f ∈ listed ⟨user, project, explicit⟩) (state : Json × ConfigChain) :
      FailsOnly (·.blamesConfiguration = true) (f.require >>= fun found => found.layOver .explicit state) := by
    refine failsOnly_bind f.failsOnly_require fun found there => ?_
    obtain rfl := ConfigFile.eq_of_require there
    exact laid found member .explicit state
  -- The project's file comes in between, whatever is below it and behind it.
  have above {rest : Json × ConfigChain → Except Failure (Json × ConfigChain)}
      (only : ∀ state, FailsOnly (·.blamesConfiguration = true) (rest state)) (state : Json × ConfigChain) :
      FailsOnly (·.blamesConfiguration = true) (project.layOver .project state >>= rest) :=
    failsOnly_bind (laid project (by simp [listed]) .project state) fun state _ => only state
  -- There may be no place for the user's file, and no file may be asked for.
  cases user with
  | none =>
    cases explicit with
    | none => exact above failsOnly_ok _
    | some highest => exact above (asked highest (by simp [listed])) _
  | some lowest =>
    refine failsOnly_bind (laid lowest (by simp [listed]) .user _) fun state _ => ?_
    cases explicit with
    | none => exact above failsOnly_ok state
    | some highest => exact above (asked highest (by simp [listed])) state

/-- Where readable files are not mistyped, the configuration is blamed for what goes wrong. -/
theorem failsOnly_load {files : ConfigFiles} (readable : files.Readable) (typed : ¬ files.Mistyped) :
    FailsOnly (·.blamesConfiguration = true) files.load := by
  -- After the files are laid over each other, decoding is excluded as a cause, and checking blames the configuration.
  refine failsOnly_bind (failsOnly_overlaid readable) fun (value, chain) overlaid => ?_
  dsimp only
  cases decoded : Config.ofJson? value with
  | none => exact absurd ⟨value, chain, overlaid, decoded⟩ typed
  | some config => exact failsOnly_bind config.failsOnly_validate fun _ _ => failsOnly_ok _

/-- Files of objects are mistyped when no settings can be read from the highest values. -/
theorem mistyped_iff_of_holdObjects {files : ConfigFiles} (objects : files.HoldObjects) :
    files.Mistyped ↔ ∀ config : Config, ¬ config.ReadFrom files.setting? := by
  -- The values of all files together are decoded as the highest values are read.
  have merged := files.standsFor_merged.ofJson?
  constructor
  · rintro ⟨value, chain, overlaid, undecoded⟩ config read
    obtain ⟨rfl, rfl⟩ : Json.object files.merged = value ∧ files.sources = chain := by
      simpa [overlaid_eq_ok objects] using overlaid
    rw [(merged config).2 read] at undecoded
    cases undecoded
  · intro unread
    refine ⟨_, _, overlaid_eq_ok objects, ?_⟩
    exact Option.eq_none_iff_forall_ne_some.2 fun config decoded => unread config ((merged config).1 decoded)

/-- Loading readable files fails for no kind of reason exactly when they are mistyped. -/
theorem load_eq_malformedSettings_iff {files : ConfigFiles} (readable : files.Readable) :
    files.load = .error .malformedSettings ↔ files.Mistyped := by
  constructor
  · intro failed
    by_contra typed
    -- Whatever else goes wrong, the configuration is blamed for it.
    exact absurd (failsOnly_load readable typed _ failed) (by decide)
  · rintro ⟨value, chain, overlaid, undecoded⟩
    simp [load, overlaid, undecoded, Bind.bind, Except.bind, throw, throwThe, MonadExceptOf.throw]

end ConfigFiles

namespace CommandLine

/-- A command that needs the settings fails as they do. -/
theorem run_eq_error_of_load {around : Surroundings} {invocation : Invocation} {project : String}
    (there : around.projectPath = some project) (needed : ∀ json, invocation.command ≠ .widgets json)
    {failure : Failure} (failed : (around.configFiles invocation project).load = .error failure) :
    run around invocation = .error failure := by
  -- The settings are loaded before anything else is done.
  unfold run
  rw [there]
  cases command : invocation.command with
  | widgets json => exact absurd command (needed json)
  | aggregate aggregation => simp [failed, Bind.bind, Except.bind, Pure.pure, Except.pure]
  | config json => simp [failed, Bind.bind, Except.bind, Pure.pure, Except.pure]

end CommandLine

namespace ConfigFiles

/-- When readable files cannot be loaded, the configuration is blamed, and the exit code is 7, unless the files can be
laid over each other and what they say together is not of the types of the settings: then the failure is of no kind,
and the exit code is 1. Files of objects are so when no settings can be read from the highest values. A command that
needs the settings fails for the same reason as the files. -/
theorem blamesConfiguration_iff {files : ConfigFiles} (readable : files.Readable) {failure : Failure}
    (failed : files.load = .error failure) :
    (failure.blamesConfiguration = true ↔ ¬ files.Mistyped) ∧
    (failure = .malformedSettings ↔ files.Mistyped) ∧
    failure.exitCode = (if failure = .malformedSettings then 1 else 7) ∧
    (files.HoldObjects → (files.Mistyped ↔ ∀ config : Config, ¬ config.ReadFrom files.setting?)) ∧
    ∀ (around : CommandLine.Surroundings) (invocation : CommandLine.Invocation) (project : String),
      around.projectPath = some project → around.configFiles invocation project = files →
      (∀ json, invocation.command ≠ .widgets json) → CommandLine.run around invocation = .error failure := by
  -- Being mistyped is the one failure that is of no kind, and every other one blames the configuration.
  have mistyped : failure = .malformedSettings ↔ files.Mistyped := by
    rw [← load_eq_malformedSettings_iff readable, failed, Except.error.injEq]
  have blamed : ¬ files.Mistyped → failure.blamesConfiguration = true := fun typed =>
    failsOnly_load readable typed failure failed
  refine ⟨⟨fun blames wrong => ?_, blamed⟩, mistyped, ?_, mistyped_iff_of_holdObjects, ?_⟩
  · rw [mistyped.2 wrong] at blames
    cases blames
  · -- The exit code is that of the kind of the failure, and 1 where it has none.
    split
    · subst failure
      rfl
    · rename_i other
      exact failure.exitCode_eq_seven_iff.2 (blamed (mt mistyped.2 other))
  · rintro around invocation project there rfl needed
    exact CommandLine.run_eq_error_of_load there needed failed

/-- A configuration file of a project, with no other files. -/
def ofProject (document : String) : ConfigFiles where
  project := ⟨"/project/.widget-stats/config.json", .text document⟩

/-- A file that holds a text is readable. -/
theorem readable_ofProject (document : String) : (ofProject document).Readable := by
  simp [Readable, listed, ofProject]

/-- A document that is not closed is a fault of the configuration, and exits as one. -/
theorem blamesConfiguration_ofProject_unclosed : (ofProject "\x7b").Readable ∧
    ∃ failure, (ofProject "\x7b").load = .error failure ∧ failure.exitCode = 7 := by
  have failed : (ofProject "\x7b").load =
      .error (.configuration "malformed JSON in /project/.widget-stats/config.json") := by decide +kernel
  have result := blamesConfiguration_iff (readable_ofProject _) failed
  exact ⟨readable_ofProject _, _, failed, result.2.2.1⟩

/-- A text in the place of a number is a fault of the configuration, but is not reported as one. -/
theorem load_ofProject_textForNumber : (ofProject "\x7b\"historyTopN\": \"5\"\x7d").Readable ∧
    ∃ failure, (ofProject "\x7b\"historyTopN\": \"5\"\x7d").load = .error failure ∧
      failure.blamesConfiguration = false ∧ failure.exitCode ≠ 7 := by
  refine ⟨readable_ofProject _, .malformedSettings, ?_, rfl, by decide⟩
  decide +kernel

end ConfigFiles
end Dashboard
