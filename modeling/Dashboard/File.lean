/-! What a program finds at a path. -/

namespace Dashboard

/-- What is found at a path: nothing, something that is no text, or a text. -/
inductive File where
  | missing
  | unreadable
  | text (content : String)
deriving DecidableEq

namespace File

/-- Whether there is anything at the path. -/
def isThere : File → Bool
  | missing => false
  | _ => true

/-- The text at the path. -/
def content? : File → Option String
  | text content => some content
  | _ => none

/-- The path of a name below a directory. -/
def join (directory name : String) : String :=
  if directory.toList.getLast? = some '/' then directory ++ name else directory ++ "/" ++ name

end File
end Dashboard
