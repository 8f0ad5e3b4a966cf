import Dashboard.CommandLine.Run
import Std.Time.DateTime.Timestamp

/-! The program: it gathers the surroundings of a command, runs it, and shows the outcome. -/

namespace Dashboard.Program

open CommandLine
open Calendar (Moment)

/-- The full path of something that exists. -/
def fullPath? (path : String) : IO (Option String) := do
  try
    pure (some (← IO.FS.realPath path).toString)
  catch _ =>
    pure none

/-- What is found at a path. -/
def look (path : String) : IO File := do
  if (← fullPath? path).isNone then
    return .missing
  try
    pure (.text (← IO.FS.readFile path))
  catch _ =>
    pure .unreadable

/-- The path of the user's configuration file, below the directory for settings or the home directory. -/
def userConfigPath? : IO (Option String) := do
  match ← IO.getEnv "XDG_CONFIG_HOME" with
  | some settings =>
    -- A directory for settings counts only with its full path.
    if settings.startsWith "/" then
      return some (Config.userPath settings)
  | none => pure ()
  pure ((← IO.getEnv "HOME").map fun home => Config.userPath (File.join home ".config"))

/-- The present moment. -/
def now : IO Moment := do
  let millis := (← Std.Time.Timestamp.now).toMillisecondsSinceUnixEpoch.val
  match Moment.ofMillis? millis with
  | some moment => pure moment
  | none => throw (IO.userError "the clock shows a time outside the calendar")

/-- Gathers what a command finds around it. -/
def surroundings (invocation : Invocation) : IO Surroundings := do
  let project ← fullPath? invocation.project
  let user ← userConfigPath?
  let found ← (invocation.paths project user).mapM fun path => do
    pure (path, ← look path)
  pure {
    projectPath := project
    userConfigPath := user
    look := fun path => (found.lookup path).getD .missing
    now := ← now }

/-- Shows a failure and gives its exit code. -/
def fail (failure : Failure) : IO UInt32 := do
  IO.eprintln ("Error: " ++ failure.message)
  pure failure.exitCode.toUInt32

/-- Writes the file of a reply, if it has one. -/
def write (reply : Reply) : IO (Except Failure Unit) := do
  match reply.written with
  | none => pure (.ok ())
  | some (path, content) =>
    try
      IO.FS.writeFile path content
      pure (.ok ())
    catch _ =>
      pure (.error (.unwritableFile path))

/-- Runs a command and gives the exit code. -/
def execute (invocation : Invocation) : IO UInt32 := do
  match run (← surroundings invocation) invocation with
  | .error failure => fail failure
  | .ok reply =>
    match ← write reply with
    | .error failure => fail failure
    | .ok () =>
      IO.print reply.output
      pure 0

end Dashboard.Program

open Dashboard.CommandLine in
/-- The program runs the command that its arguments make. -/
def main (arguments : List String) : IO UInt32 := do
  match parse arguments (← IO.getEnv "WIDGET_STATS_CONFIG") with
  | .ok invocation => Dashboard.Program.execute invocation
  | .error (.version verb) =>
    IO.print (versionText verb)
    pure 0
  | .error .help =>
    IO.print usage
    pure 0
  | .error .misuse =>
    IO.eprint usage
    pure 2
