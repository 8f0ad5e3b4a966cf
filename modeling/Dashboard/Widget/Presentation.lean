import Dashboard.Widget.Job

/-! The last touch to a content: the caller's names for the values, and the order of presentation. -/

namespace Dashboard

namespace Chart

/-- Moves a value from one name to another, if there is such a value. -/
def renameValue (c : Chart) (old new : String) : Chart :=
  match c.values.get? old with
  | some value => { c with values := (c.values.erase old).insert new value }
  | none => c

/-- Moves values one after another to the caller's names for them. -/
def renameFields (fields : List String) (c : Chart) : Chart :=
  -- A field that the library spells as the caller does keeps its name.
  (fields.filter fun field => Field.internal field ≠ field).foldl
    (fun c field => c.renameValue (Field.internal field) field) c

end Chart

namespace Content

/-- Gives all values the caller's names. -/
def renameFields (fields : List String) (content : Content) : Content :=
  content.mapSeries (List.map (Chart.renameFields fields))

/-- Turns every series around. -/
def reverse (content : Content) : Content :=
  content.mapSeries List.reverse

end Content

/-- Series are turned around unless their widget orders them by itself or they are ascending already. -/
def shouldReverse (widget : Widget) (request : Request) (config : Config) : Bool :=
  !widget.ordersItself && !request.sort.isAscendingBy config.sortField

/-- The content in the caller's names and in the order of presentation. -/
def present (widget : Widget) (request : Request) (config : Config) (content : Content) : Content :=
  let content := content.renameFields request.contentFields
  if shouldReverse widget request config then content.reverse else content

end Dashboard
