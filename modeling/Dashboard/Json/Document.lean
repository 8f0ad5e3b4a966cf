import Dashboard.Json.Reader
import Dashboard.Number.Reader

/-! Reading documents whose values are held: nothing in them may be unreadable, too large or too deep. -/

namespace Dashboard.Json

/-- How many arrays and objects may stand within each other. -/
def maxNesting : Nat := 127

mutual

/-- Whether a value can be held where so many levels of arrays and objects are left to it. -/
def isHeld : Nat → Json → Bool
  | _, unreadable => false
  -- A number is held as a double where no word holds it, and no infinite one stands for it.
  | _, integer value => (Binary64.ofInt value).isFinite
  | _, decimal lexeme => (Binary64.read? lexeme).any Binary64.isFinite
  | levels, array items => 0 < levels && areItemsHeld (levels - 1) items
  | levels, object members => 0 < levels && areMembersHeld (levels - 1) members
  | _, _ => true

/-- Whether all values of a list can be held. -/
def areItemsHeld : Nat → List Json → Bool
  | _, [] => true
  | levels, item :: rest => isHeld levels item && areItemsHeld levels rest

/-- Whether the values of all members can be held. -/
def areMembersHeld : Nat → List (String × Json) → Bool
  | _, [] => true
  | levels, (_, value) :: rest => isHeld levels value && areMembersHeld levels rest

end

/-- Reads a document whose value can be held. -/
def read? (document : String) : Option Json :=
  (scan? document).filter (isHeld maxNesting)

end Dashboard.Json
