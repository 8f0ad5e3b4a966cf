import Dashboard.Config.Basic
import Dashboard.Content.Basic
import Dashboard.Request.Basic
import Dashboard.Widget.Basic

/-! Jobs: what a strategy reads to build the content of a widget, and how the options of a request are read. -/

namespace Dashboard

open Calendar (Span)

/-- Everything that a strategy reads. -/
structure Job where
  widget : Widget
  request : Request
  /-- The records of the request, as many as its quantity allows. -/
  records : List Record
  config : Config

/-- A way to build the content of a widget. -/
abbrev Strategy := Job → Except Failure Content

namespace Job

/-- The job of building a widget for a request. -/
def ofRequest (widget : Widget) (request : Request) (config : Config) : Job where
  widget := widget
  request := request
  records := request.limitedRecords
  config := config

/-- The value of an option that must be there, without blanks at its ends; one of blanks alone is missing. -/
def required (job : Job) (option : String) : Except Failure String :=
  match ((job.request.option? option).map Text.trim).filter (· ≠ "") with
  | some value => .ok value
  | none => .error (.missingOption job.widget.key option)

/-- The span that an option's value names. -/
def spanOf (option value : String) : Except Failure Span :=
  match Period.parse value with
  | .ok (.span span) => .ok span
  | _ => .error (.invalidOption option value "one of day, week, month")

/-- The timeline of a trend: the one that is asked for, or else the configured one, or none. -/
def timeline? (job : Job) : Except Failure (Option Span) :=
  match (job.request.option? "timeline").or job.config.defaultTimeline with
  | some value => (spanOf "timeline" value).map some
  | none => .ok none

/-- The calendar interval by which launches are counted. -/
def interval (job : Job) : Except Failure Span := do
  spanOf Widget.intervalOption (← job.required Widget.intervalOption)

/-- Whether the methods around test steps are ranked with them. -/
def includeMethods (job : Job) : Bool :=
  (job.request.option? "includeMethods").any fun value =>
    ["true", "yes", "on"].any (Text.sameUpToCase (Text.trim value))

/-- The library's spelling of a content field, which must name a counter. -/
def internalField (job : Job) (field : String) : Except Failure String :=
  if Field.isValid field then .ok (Field.internal field)
  else .error (.missingFields job.widget.key ("'" ++ field ++ "' is not a counter field"))

/-- The content fields in the library's spelling, in the order of the request. -/
def contentFields (job : Job) : Except Failure (List String) :=
  job.request.contentFields.mapM job.internalField

/-- The content fields, of which there must be some. -/
def requiredFields (job : Job) : Except Failure (List String) :=
  if job.request.contentFields = [] then
    .error (.missingFields job.widget.key "content fields should exist for providing content")
  else job.contentFields

/-- Refuses a request without metadata fields. -/
def requireMetadata (job : Job) : Except Failure Unit :=
  if job.request.metadataFields = [] then
    .error (.missingFields job.widget.key "metadata fields should exist for providing content")
  else .ok ()

/-- The launch that a ranking is labelled with: the given one, or the one that the items are taken from. -/
def rankedLaunch (job : Job) (name : String) : LaunchRef :=
  job.request.referenceLaunch.getD (.named name)

end Job
end Dashboard
