import Dashboard.Config.Chain
import Dashboard.Proofs.Config.Basic
import Dashboard.Proofs.Json.Reader
import Mathlib.Data.List.Dedup

/-! Layers of settings: each setting has the value of the highest file that mentions it, and nothing below it counts. -/

namespace Dashboard

open Json (FoundAlike Plain overlayMembers collapseMembers)
open Json.Layout (oneLine)

namespace ConfigFile

/-- A file is missing, or holds an object. -/
def HoldsObject (f : ConfigFile) : Prop :=
  f.file = .missing ∨ ∃ document members, f.file = .text document ∧
    Json.read? document = some (.object members)

/-- A file into which an object is written holds it. -/
theorem holdsObject_write (path : String) (layout : Json.Layout) {members : List (String × Json)}
    (each : ∀ member ∈ members, Plain (Json.maxNesting - 1) member.2) :
    HoldsObject ⟨path, .text (layout.write (.object members))⟩ :=
  .inr ⟨_, members, rfl, layout.read?_write (.object each)⟩

/-- The members of the object in a file, as they are written. -/
def members (f : ConfigFile) : List (String × Json) :=
  match f.file.content?.bind Json.read? with
  | some (.object members) => members
  | _ => []

/-- The value that a file has for a setting; of several the last one counts. -/
def setting? (f : ConfigFile) (key : String) : Option Json :=
  f.members.reverse.lookup key

/-- The place of a file in the chain. -/
def source (level : ConfigLevel) (f : ConfigFile) : ConfigSource :=
  { level, path := f.path, loaded := f.file.isThere }

/-- The members of a file without repetition, as they are laid over what is below. -/
def layer (f : ConfigFile) : List (String × Json) :=
  collapseMembers [] f.members

/-- A layer has no key twice. -/
theorem nodup_layer (f : ConfigFile) : (f.layer.map Prod.fst).Nodup := by
  apply Json.nodup_collapseMembers
  exact List.nodup_nil

/-- Under each key a layer has the last of the file's values. -/
theorem foundAlike_layer (f : ConfigFile) (key : String) : FoundAlike (f.layer.lookup key) (f.setting? key) := by
  -- What is collapsed reads as it did before.
  have found := Json.lookup_collapseMembers [] f.members key
  rw [List.lookup_nil, Option.or_none] at found
  rw [layer, found, setting?]
  cases f.members.reverse.lookup key with
  | none => exact .none
  | some value => exact .some (Json.readsAlike_collapse value)

/-- A file of an object is laid over an object, and a missing file leaves it as it is. -/
theorem layOver_eq_ok {f : ConfigFile} (holds : f.HoldsObject) (level : ConfigLevel) (under : List (String × Json))
    (chain : ConfigChain) : f.layOver level (.object under, chain) =
      .ok (.object (overlayMembers under f.layer), chain ++ [f.source level]) := by
  rcases holds with missing | ⟨document, members, text, read⟩
  · -- A missing file has no members.
    have none_ : f.layer = [] := by simp [layer, ConfigFile.members, missing, File.content?, collapseMembers]
    simp [layOver, value?, missing, none_, source, overlayMembers, Bind.bind, Except.bind, Pure.pure, Except.pure]
  · have layer_ : f.layer = collapseMembers [] members := by
      simp [layer, ConfigFile.members, text, File.content?, read]
    have value : f.value? = .ok (some (.object f.layer)) := by
      simp only [value?, text, read, layer_, Json.collapse]
    simp only [layOver, value, source, Json.overlay, Bind.bind, Except.bind, Pure.pure, Except.pure]

end ConfigFile

namespace ConfigFiles

/-- The files that apply, lowest first. -/
def listed (files : ConfigFiles) : List ConfigFile :=
  files.user.toList ++ [files.project] ++ files.explicit.toList

/-- The files with their places in the chain, lowest first. -/
def sources (files : ConfigFiles) : ConfigChain :=
  (files.user.map (·.source .user)).toList ++ [files.project.source .project] ++
    (files.explicit.map (·.source .explicit)).toList

/-- The value that the highest of some files, lowest first, has for a setting. -/
def topmost? (below : List ConfigFile) (key : String) : Option Json :=
  below.reverse.findSome? (·.setting? key)

/-- The value of the highest file that mentions a setting. -/
def setting? (files : ConfigFiles) (key : String) : Option Json :=
  topmost? files.listed key

/-- The settings as one object: under each key that some file has stands the value of the highest such file. -/
def layered (files : ConfigFiles) : Json :=
  let keys := (files.listed.flatMap fun f => f.members.map Prod.fst).dedup
  .object (keys.filterMap fun key => (files.setting? key).map (key, ·))

/-- Each of the files is missing or holds an object, and the explicit one is there. -/
structure HoldObjects (files : ConfigFiles) : Prop where
  each : ∀ f ∈ files.listed, f.HoldsObject
  explicit : ∀ f ∈ files.explicit, f.file.isThere = true

/-- An object stands for some files, lowest first, when it has their settings and none of them twice. -/
structure StandsFor (below : List ConfigFile) (members : List (String × Json)) : Prop where
  distinct : (members.map Prod.fst).Nodup
  settings : ∀ key, FoundAlike (members.lookup key) (topmost? below key)

/-- An empty object stands for no files. -/
theorem StandsFor.nil : StandsFor [] [] where
  distinct := List.nodup_nil
  settings _ := .none

/-- With one more file on top, what it has counts first. -/
theorem topmost?_concat (below : List ConfigFile) (f : ConfigFile) (key : String) :
    topmost? (below ++ [f]) key = (f.setting? key).or (topmost? below key) := by
  -- The file on top is asked first.
  rw [topmost?, List.reverse_append, List.reverse_singleton, List.singleton_append, List.findSome?_cons]
  cases f.setting? key <;> rfl

/-- Laying one more file on top, an object stands for that file as well. -/
theorem StandsFor.layOver {below : List ConfigFile} {members : List (String × Json)} (stands : StandsFor below members)
    (f : ConfigFile) : StandsFor (below ++ [f]) (overlayMembers members f.layer) where
  distinct := Json.nodup_overlayMembers stands.distinct f.layer
  settings key := by
    -- The file that was laid over comes first, and what it does not mention is found below.
    rw [topmost?_concat]
    refine (Json.foundAlike_overlayMembers f.nodup_layer members key).trans ?_
    exact (f.foundAlike_layer key).or (stands.settings key)

/-- Laying further files on top one after another, an object stands for all of them. -/
theorem StandsFor.foldl {below : List ConfigFile} {members : List (String × Json)} (stands : StandsFor below members)
    (above : List ConfigFile) :
    StandsFor (below ++ above) (above.foldl (fun members f => overlayMembers members f.layer) members) := by
  -- Induction on the files on top; with the first of them laid over, the others go on from there.
  induction above generalizing below members with
  | nil => rwa [List.append_nil]
  | cons f rest ih =>
    have next := ih (stands.layOver f)
    rwa [List.append_assoc, List.singleton_append] at next

/-- The members of all files laid over each other. -/
def merged (files : ConfigFiles) : List (String × Json) :=
  files.listed.foldl (fun members f => overlayMembers members f.layer) []

/-- The members of all files laid over each other stand for the files. -/
theorem standsFor_merged (files : ConfigFiles) : StandsFor files.listed files.merged :=
  StandsFor.nil.foldl files.listed

/-- Files of objects are laid over each other, and each of them has its place in the chain. -/
theorem overlaid_eq_ok {files : ConfigFiles} (objects : files.HoldObjects) :
    files.overlaid = .ok (.object files.merged, files.sources) := by
  obtain ⟨user, project, explicit⟩ := files
  obtain ⟨each, there⟩ := objects
  have laid : ∀ f ∈ listed ⟨user, project, explicit⟩, ∀ level under chain, f.layOver level (.object under, chain) =
      .ok (.object (overlayMembers under f.layer), chain ++ [f.source level]) := fun f member level under chain =>
    f.layOver_eq_ok (each f member) level under chain
  -- There may be no place for the user's file, and no file may be asked for.
  cases user <;> cases explicit <;>
    simp_all [overlaid, listed, merged, sources, ConfigFile.require, Bind.bind, Except.bind, Pure.pure, Except.pure]

/-- A key is found among the keys that have something, with what they have. -/
theorem lookup_filterMap (found : String → Option Json) (keys : List String) (k : String) :
    (keys.filterMap fun key => (found key).map (key, ·)).lookup k = if k ∈ keys then found k else none := by
  induction keys with
  | nil => rfl
  | cons key rest ih =>
    rw [List.filterMap_cons]
    cases here : found key with
    | none =>
      -- A key that has nothing is left out, and is not found behind either.
      rw [Option.map_none, ih]
      by_cases same : k = key
      · rw [same, here]
        simp
      · simp [same]
    -- A key that has something is found at the first place where it stands.
    | some value =>
      rw [Option.map_some]
      simp only [Table.lookup_cons_eq, ih]
      by_cases same : k = key
      · rw [if_pos same, same, here]
        simp
      · simp [same]

/-- A setting that no file mentions has no value. -/
theorem topmost?_of_not_mem {below : List ConfigFile} {key : String}
    (absent : key ∉ below.flatMap fun f => f.members.map Prod.fst) : topmost? below key = none := by
  -- No file has the key among its members.
  rw [topmost?, List.findSome?_eq_none_iff]
  intro f member
  rw [ConfigFile.setting?, List.lookup_eq_none_iff]
  intro entry listed
  refine bne_iff_ne.2 fun same => absent ?_
  rw [List.mem_flatMap]
  exact ⟨f, List.mem_reverse.1 member, List.mem_map.2 ⟨entry, List.mem_reverse.1 listed, same.symm⟩⟩

/-- The settings as one object stand for the files. -/
theorem exists_layered (files : ConfigFiles) :
    ∃ members, files.layered = .object members ∧ StandsFor files.listed members := by
  refine ⟨_, rfl, ?_, fun key => ?_⟩
  · -- Its keys are some of those of the files, each once.
    rw [List.map_filterMap]
    refine List.Nodup.filterMap ?_ (List.nodup_dedup _)
    intro key other name fromKey fromOther
    obtain ⟨_, -, rfl⟩ : ∃ value, files.setting? key = some value ∧ key = name := by simpa using fromKey
    obtain ⟨_, -, rfl⟩ : ∃ value, files.setting? other = some value ∧ other = key := by simpa using fromOther
    rfl
  · -- A key of no file has nothing in the object either.
    rw [lookup_filterMap]
    split
    · exact .refl _
    · rename_i absent
      rw [topmost?_of_not_mem (mt List.mem_dedup.2 absent)]
      exact .none

/-- An object that stands for some files is decoded to the settings of the highest files that mention them. -/
theorem StandsFor.ofJson? {below : List ConfigFile} {members : List (String × Json)} (stands : StandsFor below members)
    (config : Config) : Config.ofJson? (.object members) = some config ↔ config.ReadFrom (topmost? below) := by
  -- An object without repeated keys is decoded key by key, and each key reads as in the highest file that has it.
  rw [Config.ofJson?_object_eq_some_iff stands.distinct]
  constructor
  · exact Config.ReadFrom.congr stands.settings
  · exact Config.ReadFrom.congr fun key => (stands.settings key).symm

/-- The settings as one object are decoded to those of the highest files that mention them. -/
theorem ofJson?_layered (files : ConfigFiles) (config : Config) :
    Config.ofJson? files.layered = some config ↔ config.ReadFrom files.setting? := by
  obtain ⟨members, object, stands⟩ := files.exists_layered
  rw [object]
  exact stands.ofJson? config

/-- Loading files of objects decodes what they say together, and then checks it. -/
theorem load_eq {files : ConfigFiles} (objects : files.HoldObjects) : files.load =
    match Config.ofJson? files.layered with
    | some config => config.validate.map (·, files.sources)
    | none => .error .malformedSettings := by
  -- The object that is decoded and the one of the highest values both stand for the files.
  have same : Config.ofJson? (.object files.merged) = Config.ofJson? files.layered := by
    ext config
    rw [ofJson?_layered]
    exact files.standsFor_merged.ofJson? config
  simp only [load, overlaid_eq_ok objects, Bind.bind, Except.bind, same]
  cases Config.ofJson? files.layered with
  | none => rfl
  | some config => cases config.validate <;> rfl

/-- Files are loaded exactly when the settings they have together are decoded and accepted. -/
theorem load_eq_ok_iff {files : ConfigFiles} (objects : files.HoldObjects) {config : Config} {chain : ConfigChain} :
    files.load = .ok (config, chain) ↔
      Config.ofJson? files.layered = some config ∧ config.validate = .ok config ∧ chain = files.sources := by
  -- Accepted settings are those that were decoded.
  rw [load_eq objects]
  constructor
  · -- Loaded settings were decoded, and are those that passed the check.
    intro loaded
    cases decoded : Config.ofJson? files.layered with
    | none => simp [decoded] at loaded
    | some first =>
      cases valid : first.validate with
      | error failure => simp [decoded, valid, Except.map] at loaded
      | ok accepted =>
        obtain rfl := Config.eq_of_validate valid
        obtain ⟨rfl, rfl⟩ : accepted = config ∧ files.sources = chain := by
          simpa [decoded, valid, Except.map] using loaded
        exact ⟨rfl, valid, rfl⟩
  · rintro ⟨decoded, valid, rfl⟩
    simp [decoded, valid, Except.map]

/-- What is loaded depends on nothing but the values of the highest files that mention the four settings. -/
theorem load_congr {files other : ConfigFiles} (objects : files.HoldObjects) (others : other.HoldObjects)
    (same : ∀ key ∈ Config.names, other.setting? key = files.setting? key) :
    other.load.map Prod.fst = files.load.map Prod.fst := by
  -- Settings are decoded from the values of the highest files, and from nothing else.
  have decoded : Config.ofJson? other.layered = Config.ofJson? files.layered := by
    ext config
    rw [ofJson?_layered, ofJson?_layered]
    exact Config.readFrom_congr same
  rw [load_eq objects, load_eq others, decoded]
  cases Config.ofJson? files.layered with
  | none => rfl
  | some config =>
    dsimp only
    cases config.validate <;> rfl

/-- Layers of settings, for files of objects. The settings are read key by key from the highest files that mention them,
or have their defaults, and loading succeeds exactly when these are decoded and accepted; the chain has a place for
each file. A null on top clears the default timeline, what is below other values does not count, and no loaded settings
make a trend fail that names no timeline itself. -/
theorem load_layers {files : ConfigFiles} (objects : files.HoldObjects) :
    (∀ config, Config.ofJson? files.layered = some config ↔ config.ReadFrom files.setting?) ∧
    (∀ config chain, files.load = .ok (config, chain) ↔
      Config.ofJson? files.layered = some config ∧ config.validate = .ok config ∧ chain = files.sources) ∧
    (∀ config chain, files.load = .ok (config, chain) →
      (files.setting? "defaultTimeline" = some .null → config.defaultTimeline = none) ∧
      ∀ job : Job, job.config = config → job.request.option? "timeline" = none → ∃ timeline, job.timeline? = .ok timeline) ∧
    ∀ other : ConfigFiles, other.HoldObjects → (∀ key ∈ Config.names, other.setting? key = files.setting? key) →
      other.load.map Prod.fst = files.load.map Prod.fst := by
  refine ⟨files.ofJson?_layered, fun config chain => load_eq_ok_iff objects, fun config chain loaded => ?_,
    fun other others same => load_congr objects others same⟩
  -- What was decoded was read from the highest values, and what was accepted names a span.
  obtain ⟨decoded, valid, -⟩ := (load_eq_ok_iff objects).1 loaded
  constructor
  · intro cleared
    have read := ((files.ofJson?_layered config).1 decoded).defaultTimeline
    rw [cleared] at read
    exact (Option.some.inj read).symm
  · rintro job rfl unasked
    exact Job.exists_timeline? valid unasked

/-- Files of which the lowest has two settings that cannot be used, both overridden by the highest. -/
def mended : ConfigFiles where
  user := some ⟨"/home/user/config.json",
    .text (oneLine.write (.object [("historyTopN", .integer 0), ("defaultTimeline", .text "fortnight")]))⟩
  project := ⟨"/project/config.json", .missing⟩
  explicit := some ⟨"/run/config.json",
    .text (oneLine.write (.object [("historyTopN", .integer 3), ("defaultTimeline", .null)]))⟩

/-- Each of the three files is missing or holds an object. -/
theorem holdObjects_mended : mended.HoldObjects where
  each f member := by
    -- The first and the last file are written, and the one between them is missing.
    simp only [mended, listed, Option.toList_some, List.cons_append, List.nil_append,
      List.mem_cons, List.not_mem_nil, or_false] at member
    rcases member with rfl | rfl | rfl
    · exact ConfigFile.holdsObject_write _ _ (by simp [Plain.integer, Plain.text, Binary64.isFinite_ofInt])
    · exact .inl rfl
    · exact ConfigFile.holdsObject_write _ _ (by simp [Plain.integer, Plain.null, Binary64.isFinite_ofInt])
  explicit f given := by
    obtain rfl : _ = f := Option.some.inj given
    rfl

/-- The settings of the highest file count, and mend those below. -/
theorem load_mended : mended.HoldObjects ∧ mended.load = .ok ({ historyTopN := 3 }, mended.sources) := by
  refine ⟨holdObjects_mended, ?_⟩
  refine ((load_layers holdObjects_mended).2.1 _ _).2 ⟨?_, rfl, rfl⟩
  decide +kernel

end ConfigFiles
end Dashboard
