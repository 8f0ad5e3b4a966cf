import Dashboard.CommandLine.Arguments
import Dashboard.Config.Chain
import Dashboard.Request.File
import Dashboard.Widget.Registry

/-! Running a command: what it reads of its surroundings, and what it has to say. -/

namespace Dashboard.CommandLine

open Calendar (Moment)

/-- What a command finds around it. -/
structure Surroundings where
  /-- The full path of the project directory, if it exists. -/
  projectPath : Option String
  /-- The path of the user's configuration file, if there is a place for one. -/
  userConfigPath : Option String
  /-- What is found at a path. -/
  look : String → File
  now : Moment

/-- What a command says, and the file that has to be written before it does. -/
structure Reply where
  output : String
  written : Option (String × String) := none
deriving DecidableEq

namespace Surroundings

/-- The configuration file at a path. -/
def configFile (around : Surroundings) (path : String) : ConfigFile :=
  { path, file := around.look path }

/-- The configuration files that apply to a command. -/
def configFiles (around : Surroundings) (invocation : Invocation) (project : String) : ConfigFiles where
  user := if invocation.noUserConfig then none else around.userConfigPath.map around.configFile
  project := around.configFile (Config.projectPath project)
  explicit := invocation.config.map around.configFile

end Surroundings

/-- The paths that a command may look at, given the directory of the project and the user's configuration file. -/
def Invocation.paths (invocation : Invocation) (project user : Option String) : List String :=
  let input := match invocation.command with
    | .aggregate aggregation => [aggregation.input]
    | _ => []
  user.toList ++ (project.map Config.projectPath).toList ++ invocation.config.toList ++ input

/-- A line of output. -/
def line (text : String) : String :=
  text ++ "\n"

/-- The line under a heading. -/
def rule : String :=
  String.ofList (List.replicate 60 '─')

/-- Reads an option, a key and a value around the first equals sign, without blanks at their ends. -/
def parseAssignment (raw : String) : Except Failure (String × String) :=
  match splitAssignment raw.toList with
  | some (key, value) => .ok (Text.trim (String.ofList key), Text.trim (String.ofList value))
  | none => .error (.invalidAssignment raw)

namespace Aggregation

/-- The request with one more option of the command line in the place of the request's own. -/
def override (request : Request) (raw : String) : Except Failure Request := do
  let (key, value) ← parseAssignment raw
  pure { request with options := request.options.insert key [value] }

/-- The request of the input file, with what the command line says instead. -/
def request (aggregation : Aggregation) (around : Surroundings) : Except Failure Request := do
  let input := aggregation.input
  let request ← RequestFile.load input (around.look input) aggregation.widget
  let request := { request with
    widget := aggregation.widget.getD request.widget
    quantity := aggregation.quantity.or request.quantity }
  aggregation.options.foldlM override request

/-- The report of the content, on the output or in a file. -/
def reply (aggregation : Aggregation) (around : Surroundings) (config : Config) : Except Failure Reply := do
  let request ← aggregation.request around
  let content ← Registry.standard.dispatch request config
  let report : Report := { widget := request.widget, content, generatedAt := around.now }
  let rendered := report.render aggregation.format
  pure (match aggregation.output with
    | some path =>
      { output := line ("✓ Wrote " ++ aggregation.format.name ++ " report to " ++ path)
        written := some (path, rendered) }
    | none => { output := line rendered })

end Aggregation

/-- A widget with its required options as an object. -/
def widgetJson (widget : Widget) : Json :=
  .object [("key", .text widget.key), ("requiredOptions", .texts widget.requiredOptions)]

/-- The line for a widget in the list of all widgets. -/
def widgetLine (widget : Widget) : String :=
  let required := widget.requiredOptions
  line ("   " ++ widget.key ++ (if required = [] then "" else " (requires: " ++ ", ".intercalate required ++ ")"))

/-- The list of all widgets. -/
def widgetList (json : Bool) : String :=
  let widgets := Registry.standard.widgets
  if json then line (Json.array (widgets.map widgetJson)).pretty
  else line "\nWidgets: Registered widgets" ++ line rule ++ String.join (widgets.map widgetLine)

/-- The settings that hold, and the files they come from. -/
def configList (json : Bool) (config : Config) (chain : ConfigChain) : String :=
  if json then line config.toJson.pretty
  else
    line chain.describe ++ line "\nConfig: Resolved values" ++ line rule ++
      line ("   History top N:       " ++ Decimal.ofNat config.historyTopN.toNat) ++
      line ("   Comparison quantity: " ++ Decimal.ofNat config.comparisonQuantity.toNat) ++
      line ("   Sort field:          " ++ config.sortField) ++
      line ("   Default timeline:    " ++ config.defaultTimeline.getD "none")

/-- Runs a command in a project directory that must exist. -/
def run (around : Surroundings) (invocation : Invocation) : Except Failure Reply := do
  let project ← match around.projectPath with
    | some path => pure path
    | none => throw (.missingProject invocation.project)
  -- The list of widgets needs no settings, so faults in them wait for the other commands.
  let settings := (around.configFiles invocation project).load
  match invocation.command with
  | .aggregate aggregation => do
    let (config, _) ← settings
    aggregation.reply around config
  | .widgets json => pure { output := widgetList json }
  | .config json => do
    let (config, chain) ← settings
    pure { output := configList json config chain }

/-- What the program says of its version; asked of a verb, it names the verb too. -/
def versionText (verb : Option Verb) : String :=
  line (programName ++ ((verb.map fun v => "-" ++ v.name).getD "") ++ " 0.1.0")

/-- How the program is called. -/
def usage : String :=
  line ("Usage: " ++ programName ++ " [OPTIONS] <COMMAND>") ++
    line "" ++
    line "Commands:" ++
    line "  aggregate -i FILE [-w WIDGET] [-o KEY=VALUE]... [-q N] [-f FORMAT] [--output FILE]" ++
    line "  widgets [--json]" ++
    line "  config [--json]" ++
    line "" ++
    line "Options:" ++
    line "  -p, --project DIR    the project directory" ++
    line "  -c, --config FILE    a configuration file above all others" ++
    line "  --no-user-config     without the user's configuration file" ++
    line "  -v, --verbose        accepted for scripts that ask for more output" ++
    line "  -V, --version        the version"

end Dashboard.CommandLine
