import Dashboard.Calendar.Week

/-! What can go wrong between a request and its content, with the text and the exit code of each cause. -/

namespace Dashboard

/-- A cause of failure. -/
inductive Failure where
  /-- No widget with this key is registered. -/
  | unknownWidget (key : String)
  /-- A widget cannot be built without this option. -/
  | missingOption (widget option : String)
  /-- An option's value is none of those expected. -/
  | invalidOption (option value expected : String)
  /-- Content or metadata fields are missing or malformed. -/
  | missingFields (widget reason : String)
  /-- A configuration file cannot be used. -/
  | configuration (message : String)
  /-- A setting has a value that cannot be used. -/
  | invalidSetting (field reason : String)
  /-- A week reaches beyond the calendar. -/
  | cutWeek (missing : Calendar.WeekEnd)
  /-- A text names no grouping period. -/
  | invalidPeriod (text : String)
  /-- A text names no direction of sorting. -/
  | invalidDirection (text : String)
  /-- A text names no report format. -/
  | invalidFormat (text : String)
  /-- A file cannot be read. -/
  | unreadableFile (path : String)
  /-- A file holds neither records nor a request. -/
  | malformedFile (path : String)
  /-- A file of records does not say which widget to build. -/
  | missingWidget (path : String)
  /-- A configuration file cannot be read. -/
  | unreadableSettings (path : String)
  /-- The settings of all configuration files together have wrong types. -/
  | malformedSettings
  /-- The directory of the project does not exist. -/
  | missingProject (path : String)
  /-- An option on the command line is not a key and a value. -/
  | invalidAssignment (text : String)
  /-- A report cannot be written. -/
  | unwritableFile (path : String)
  /-- A failure of the operating system, by its text. -/
  | io (message : String)
  /-- A failure to read a JSON text, by its text. -/
  | json (message : String)
  /-- Any other failure, by its text. -/
  | other (message : String)
deriving DecidableEq

namespace Failure

/-- The text shown for a failure. -/
def message : Failure → String
  | unknownWidget key => "Unknown widget type: '" ++ key ++ "'"
  | missingOption widget option => "Widget '" ++ widget ++ "' requires option '" ++ option ++ "'"
  | invalidOption option value expected =>
    "Invalid value '" ++ value ++ "' for option '" ++ option ++ "' (expected " ++ expected ++ ")"
  | missingFields widget reason => "Widget '" ++ widget ++ "' cannot load content: " ++ reason
  | configuration message => "Configuration error: " ++ message
  | invalidSetting field reason => "Invalid configuration: " ++ field ++ " - " ++ reason
  | cutWeek .monday => "first weekday out of range for `NaiveDate`"
  | cutWeek .sunday => "last weekday out of range for `NaiveDate`"
  | invalidPeriod text => "Invalid grouping period: " ++ text ++ ". Valid periods: day, week, month, name"
  | invalidDirection text => "Invalid sort direction: " ++ text ++ ". Valid directions: asc, desc"
  | invalidFormat text => "Invalid report format: " ++ text ++ ". Valid formats: json, markdown"
  | unreadableFile path => "Failed to read " ++ path
  | malformedFile path => "Failed to parse " ++ path
  | missingWidget path => path ++ " holds only records; pass --widget to choose a widget type"
  | unreadableSettings path => "Failed to read config file " ++ path
  | malformedSettings => "Failed to parse merged configuration"
  | missingProject path => "Project directory does not exist: " ++ path
  | invalidAssignment text => "Invalid option '" ++ text ++ "': expected KEY=VALUE"
  | unwritableFile path => "Failed to write " ++ path
  | io message | json message | other message => message

/-- Whether the request itself is at fault, so that sending it again is no use. -/
def isBadRequest : Failure → Bool
  | unknownWidget _ | missingOption .. | invalidOption .. | missingFields .. => true
  | _ => false

/-- The exit code of a program that ends with a failure; a week beyond the calendar aborts it. -/
def exitCode : Failure → Nat
  | unknownWidget _ => 2
  | missingOption .. | invalidOption .. => 3
  | missingFields .. => 4
  | configuration _ | invalidSetting .. => 7
  | cutWeek _ => 101
  | _ => 1

end Failure
end Dashboard
