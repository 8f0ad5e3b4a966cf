import Dashboard.Config.Basic
import Dashboard.File
import Dashboard.Json.Document
import Dashboard.Json.Overlay

/-! The chain of configuration files, each of which overrides the ones before it setting by setting. -/

namespace Dashboard

/-- The place of a configuration file in the chain, lowest first. -/
inductive ConfigLevel where
  | user
  | project
  | explicit
deriving DecidableEq

/-- The word for a level. -/
def ConfigLevel.name : ConfigLevel → String
  | user => "user"
  | project => "project"
  | explicit => "explicit"

/-- A file of the chain that was looked at. -/
structure ConfigSource where
  level : ConfigLevel
  path : String
  /-- Whether the file was there. -/
  loaded : Bool
deriving DecidableEq

/-- The files that were looked at, lowest first. -/
abbrev ConfigChain := List ConfigSource

namespace ConfigChain

/-- The number of files that were there. -/
def loadedCount (chain : ConfigChain) : Nat :=
  chain.countP (·.loaded)

/-- A line for one file. -/
def sourceLine (source : ConfigSource) : String :=
  "  " ++ (if source.loaded then "+" else "-") ++ " [" ++ source.level.name ++ "] " ++ source.path

/-- A heading and a line for each file. -/
def describe (chain : ConfigChain) : String :=
  "\n".intercalate ("Configuration inheritance chain:" :: chain.map sourceLine)

end ConfigChain

/-- A configuration file at its path. -/
structure ConfigFile where
  path : String
  file : File
deriving DecidableEq

/-- The name of the program, and of the directory that holds its configuration. -/
def programName : String := "widget-stats"

/-- The configuration file of a project directory. -/
def Config.projectPath (directory : String) : String :=
  File.join (File.join directory ("." ++ programName)) "config.json"

/-- The configuration file below a user's directory of settings. -/
def Config.userPath (settings : String) : String :=
  File.join (File.join settings programName) "config.json"

namespace ConfigFile

/-- The value in a file, none if the file is missing; of repeated keys the last counts. -/
def value? (f : ConfigFile) : Except Failure (Option Json) :=
  match f.file with
  | .missing => .ok none
  | .unreadable => .error (.unreadableSettings f.path)
  | .text document =>
    match Json.read? document with
    | some value => .ok (some value.collapse)
    | none => .error (.configuration ("malformed JSON in " ++ f.path))

/-- Lays a file over the settings so far and notes it in the chain. -/
def layOver (level : ConfigLevel) (f : ConfigFile) (state : Json × ConfigChain) :
    Except Failure (Json × ConfigChain) := do
  let source : ConfigSource := { level, path := f.path, loaded := f.file.isThere }
  match ← f.value? with
  | some value => pure (Json.overlay state.1 value, state.2 ++ [source])
  | none => pure (state.1, state.2 ++ [source])

/-- Refuses a file that was asked for and is missing. -/
def require (f : ConfigFile) : Except Failure ConfigFile :=
  if f.file.isThere then .ok f else .error (.configuration ("config file not found: " ++ f.path))

end ConfigFile

/-- The configuration files that apply; only the project's always has its place in the chain. -/
structure ConfigFiles where
  user : Option ConfigFile := none
  project : ConfigFile
  explicit : Option ConfigFile := none
deriving DecidableEq

namespace ConfigFiles

/-- The settings of all files laid over each other, and the chain of the files. -/
def overlaid (files : ConfigFiles) : Except Failure (Json × ConfigChain) := do
  let state : Json × ConfigChain := (.object [], [])
  let state ← match files.user with
    | some file => file.layOver .user state
    | none => pure state
  let state ← files.project.layOver .project state
  match files.explicit with
  | some file => (← file.require).layOver .explicit state
  | none => pure state

/-- The settings that result from the files, if they can be used, and the chain of the files. -/
def load (files : ConfigFiles) : Except Failure (Config × ConfigChain) := do
  let (value, chain) ← files.overlaid
  -- Only the outcome is checked: a higher file may mend what a lower one has wrong.
  match Config.ofJson? value with
  | some config => pure (← config.validate, chain)
  | none => throw .malformedSettings

end ConfigFiles
end Dashboard
