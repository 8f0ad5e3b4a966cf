import Dashboard.Number.Word
import Dashboard.Report

/-! The words of a command line: flags with and without values, the command among them, and what they ask for. -/

namespace Dashboard.CommandLine

/-- What a flag is about. -/
inductive Flag where
  | project
  | config
  | noUserConfig
  | verbose
  | version
  | help
  | input
  | widget
  | option
  | quantity
  | format
  | output
  | json
deriving DecidableEq

/-- How a flag is written, and whether a value belongs to it. -/
structure FlagForm where
  flag : Flag
  long : String
  short : Option Char := none
  takesValue : Bool := false

/-- The flags that may stand before the command as well as behind it. -/
def globalForms : List FlagForm := [
  { flag := .project, long := "project", short := some 'p', takesValue := true },
  { flag := .config, long := "config", short := some 'c', takesValue := true },
  { flag := .noUserConfig, long := "no-user-config" },
  { flag := .verbose, long := "verbose", short := some 'v' },
  { flag := .version, long := "version", short := some 'V' },
  { flag := .help, long := "help", short := some 'h' }]

/-- What the program can be told to do. -/
inductive Verb where
  | aggregate
  | widgets
  | config
deriving DecidableEq

namespace Verb

/-- The word for a verb. -/
def name : Verb → String
  | aggregate => "aggregate"
  | widgets => "widgets"
  | config => "config"

/-- The verb that has this word. -/
def ofName? (word : String) : Option Verb :=
  [aggregate, widgets, config].find? (·.name = word)

/-- The flags that may stand behind a verb. -/
def forms : Verb → List FlagForm
  | aggregate => globalForms ++ [
      { flag := .input, long := "input", short := some 'i', takesValue := true },
      { flag := .widget, long := "widget", short := some 'w', takesValue := true },
      { flag := .option, long := "option", short := some 'o', takesValue := true },
      { flag := .quantity, long := "quantity", short := some 'q', takesValue := true },
      { flag := .format, long := "format", short := some 'f', takesValue := true },
      { flag := .output, long := "output", takesValue := true }]
  | widgets | config => globalForms ++ [{ flag := .json, long := "json" }]

end Verb

/-- Why reading a command line ends before there is a command to run. -/
inductive Stop where
  /-- The words make no command. -/
  | misuse
  /-- The version of the program, or of one of its verbs, is asked for. -/
  | version (verb : Option Verb)
  /-- An explanation is asked for. -/
  | help
deriving DecidableEq

/-- A flag that was read, with its value, which is empty where none belongs to it. -/
abbrev Occurrence := Flag × String

/-- Whether a value can stand for what a flag is about. -/
def isValue (flag : Flag) (value : String) : Bool :=
  match flag with
  | .project | .config | .input | .output => value ≠ ""
  | .quantity => (Word.readUnsigned? value).isSome
  | .format => match ReportFormat.parse value with
    | .ok _ => true
    | .error _ => false
  | _ => true

/-- Adds an occurrence of a flag; only options may occur more than once. -/
def record (seen : List Occurrence) (flag : Flag) (value : String) : Except Stop (List Occurrence) :=
  if flag ≠ .option ∧ seen.any (·.1 = flag) then .error .misuse
  else if isValue flag value then .ok (seen ++ [(flag, value)])
  else .error .misuse

/-- The flags read so far on one side of the verb. -/
structure Progress where
  seen : List Occurrence := []
  /-- The last flag whose value was a word of its own, which is not checked before the next flag. -/
  pending : Option Occurrence := none
deriving DecidableEq

namespace Progress

/-- The occurrences read so far, all of them checked. -/
def settle (progress : Progress) : Except Stop (List Occurrence) :=
  match progress.pending with
  | some (flag, value) => record progress.seen flag value
  | none => .ok progress.seen

/-- Notes a flag that has no value or has it in the same word; some flags end the reading. -/
def note (verb : Option Verb) (progress : Progress) (flag : Flag) (value : String) : Except Stop Progress := do
  let seen ← progress.settle
  -- Who asks for the version or for help gets it, whatever else is wrong behind it.
  if flag = .version then throw (.version verb)
  else if flag = .help then throw .help
  else pure { seen := ← record seen flag value }

/-- Notes a flag with the word behind it as its value, to be checked later. -/
def postpone (progress : Progress) (flag : Flag) (value : String) : Except Stop Progress := do
  pure { seen := ← progress.settle, pending := some (flag, value) }

end Progress

/-- A text cut at its first equals sign. -/
def splitAssignment : List Char → Option (List Char × List Char)
  | [] => none
  | c :: cs =>
    if c = '=' then some ([], cs)
    else (splitAssignment cs).map fun (key, value) => (c :: key, value)

/-- A long flag with its form, and the value written into the same word. -/
def findLong? (forms : List FlagForm) (body : List Char) : Option (FlagForm × Option String) :=
  let (name, value) := match splitAssignment body with
    | some (name, value) => (name, some (String.ofList value))
    | none => (body, none)
  (forms.find? (·.long.toList = name)).map (·, value)

/-- What the short flags of one word come to: the last of them may still wait for its value. -/
def readShort (verb : Option Verb) (forms : List FlagForm) (progress : Progress) :
    List Char → Except Stop (Progress × Option Flag)
  | [] => .ok (progress, none)
  | c :: rest =>
    match forms.find? (·.short = some c) with
    | none => .error .misuse
    | some form =>
      if form.takesValue then
        match rest with
        | [] => .ok (progress, some form.flag)
        | '=' :: value => do pure (← progress.note verb form.flag (String.ofList value), none)
        | value => do pure (← progress.note verb form.flag (String.ofList value), none)
      else do readShort verb forms (← progress.note verb form.flag "") rest

/-- Whether a word is a flag: it starts with a hyphen and goes on. -/
def isFlagWord (word : String) : Bool :=
  match word.toList with
  | '-' :: _ :: _ => true
  | _ => false

/-- Reads flags up to the first word that is neither a flag nor a flag's value. -/
def readFlags (verb : Option Verb) (forms : List FlagForm) (progress : Progress) :
    List String → Except Stop (Progress × List String)
  | [] => .ok (progress, [])
  | word :: words =>
    match word.toList with
    -- Two hyphens end the flags, and there is nothing that may follow them.
    | ['-', '-'] => if words = [] then .ok (progress, []) else .error .misuse
    | '-' :: '-' :: body =>
      match findLong? forms body with
      | none => .error .misuse
      | some (form, some value) =>
        if form.takesValue then do readFlags verb forms (← progress.note verb form.flag value) words
        else .error .misuse
      | some (form, none) =>
        if form.takesValue then
          match words with
          | value :: words =>
            -- A flag is never the value of another one.
            if isFlagWord value then .error .misuse
            else do readFlags verb forms (← progress.postpone form.flag value) words
          | [] => .error .misuse
        else do readFlags verb forms (← progress.note verb form.flag "") words
    | '-' :: c :: body =>
      match readShort verb forms progress (c :: body) with
      | .error stop => .error stop
      | .ok (progress, none) => readFlags verb forms progress words
      | .ok (progress, some flag) =>
        match words with
        | value :: words =>
          if isFlagWord value then .error .misuse
          else do readFlags verb forms (← progress.postpone flag value) words
        | [] => .error .misuse
    | _ => .ok (progress, word :: words)

/-- How content is asked for. -/
structure Aggregation where
  input : String
  widget : Option String
  /-- The options as they are written, a key and a value each. -/
  options : List String
  quantity : Option UInt64
  format : ReportFormat
  output : Option String
deriving DecidableEq

/-- What the program is to do. -/
inductive Command where
  | aggregate (aggregation : Aggregation)
  | widgets (json : Bool)
  | config (json : Bool)
deriving DecidableEq

/-- A command with what holds for all commands. -/
structure Invocation where
  project : String
  /-- The configuration file that is asked for. -/
  config : Option String
  noUserConfig : Bool
  command : Command
deriving DecidableEq

/-- The value of a flag, if it occurred. -/
def valueOf? (seen : List Occurrence) (flag : Flag) : Option String :=
  seen.lookup flag

/-- The command of a verb and its flags. -/
def commandOf (verb : Verb) (seen : List Occurrence) : Except Stop Command :=
  match verb with
  | .widgets => .ok (.widgets (valueOf? seen .json).isSome)
  | .config => .ok (.config (valueOf? seen .json).isSome)
  | .aggregate =>
    match valueOf? seen .input with
    | none => .error .misuse
    | some input =>
      -- A format that cannot be read was refused when the flag was checked.
      let format := match (valueOf? seen .format).map ReportFormat.parse with
        | some (.ok format) => format
        | _ => .json
      .ok (.aggregate {
        input
        widget := valueOf? seen .widget
        options := (seen.filter (·.1 = .option)).map (·.2)
        quantity := (valueOf? seen .quantity).bind Word.readUnsigned?
        format
        output := valueOf? seen .output })

/-- The value of a flag that may stand on either side of the command, where the later one counts. -/
def globalOf? (before behind : List Occurrence) (flag : Flag) : Option String :=
  (valueOf? behind flag).or (valueOf? before flag)

/-- The word that asks for an explanation, of the program or of one verb. -/
def helpWord : String := "help"

/-- What comes of the words behind the one that asks for an explanation. -/
def explain (words : List String) : Stop :=
  match words with
  | [] => .help
  | [word] => if word = helpWord ∨ (Verb.ofName? word).isSome then .help else .misuse
  | _ => .misuse

/-- Whether the surroundings give the configuration file an empty name and some side of the verb has no flag for it. -/
def isEmptyName (before behind : List Occurrence) (namedConfig : Option String) : Bool :=
  namedConfig = some "" && !([before, behind].all fun seen => (valueOf? seen .config).isSome)

/-- Reads a command line; the configuration file may also be named by the surroundings. -/
def parse (words : List String) (namedConfig : Option String) : Except Stop Invocation := do
  let (front, rest) ← readFlags none globalForms {} words
  let (word, words) ← match rest with
    | word :: words => pure (word, words)
    | [] => throw .misuse
  if word = helpWord then throw (explain words)
  let verb ← match Verb.ofName? word with
    | some verb => pure verb
    | none => throw .misuse
  let (back, rest) ← readFlags (some verb) verb.forms {} words
  if rest ≠ [] then throw .misuse
  -- The last flag before the verb is checked only when all behind the verb is read.
  let before ← front.settle
  let behind ← back.settle
  if isEmptyName before behind namedConfig then throw .misuse
  let command ← commandOf verb behind
  pure {
    project := (globalOf? before behind .project).getD "."
    config := (globalOf? before behind .config).or namedConfig
    noUserConfig := (globalOf? before behind .noUserConfig).isSome
    command }

end Dashboard.CommandLine
