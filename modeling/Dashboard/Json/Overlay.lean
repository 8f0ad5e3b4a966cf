import Dashboard.Json.Basic

/-! Objects without repeated keys, and laying one over another. -/

namespace Dashboard.Json

/-- Puts a value under a key; a value it replaces leaves its place to it. -/
def setMember (key : String) (value : Json) : List (String × Json) → List (String × Json)
  | [] => [(key, value)]
  | (k, v) :: rest => if k = key then (k, value) :: rest else (k, v) :: setMember key value rest

mutual

/-- The value with the last member under each key only, at every depth. -/
def collapse : Json → Json
  | array items => array (collapseItems items)
  | object members => object (collapseMembers [] members)
  | null => null
  | bool value => bool value
  | integer value => integer value
  | decimal lexeme => decimal lexeme
  | text value => text value
  | unreadable => unreadable

/-- A list of values, each collapsed. -/
def collapseItems : List Json → List Json
  | [] => []
  | item :: rest => collapse item :: collapseItems rest

/-- Members put one after another onto those before them, each collapsed. -/
def collapseMembers (before : List (String × Json)) : List (String × Json) → List (String × Json)
  | [] => before
  | (key, value) :: rest => collapseMembers (setMember key (collapse value) before) rest

end

mutual

/-- Lays a value over another: objects are laid over each other key by key, any other value hides what is below. -/
def overlay (below : Json) : Json → Json
  | object members =>
    match below with
    | object under => object (overlayMembers under members)
    | _ => object members
  | value => value

/-- Lays members one after another over an object's members. -/
def overlayMembers (under : List (String × Json)) : List (String × Json) → List (String × Json)
  | [] => under
  | (key, value) :: rest =>
    -- Objects under one key are laid over each other in turn.
    let merged := match under.lookup key with
      | some below => overlay below value
      | none => value
    overlayMembers (setMember key merged under) rest

end

end Dashboard.Json
