/-! JSON values with the order and the repetitions of their members. -/

namespace Dashboard

/-- A JSON value as a document holds it. -/
inductive Json where
  | null
  | bool (value : Bool)
  | integer (value : Int)
  /-- A number with a fraction or an exponent, or minus zero, as it was written. -/
  | decimal (lexeme : String)
  | text (value : String)
  /-- A text with an escape that names half a character, or an object with such a key: it can only be passed over. -/
  | unreadable
  | array (items : List Json)
  | object (members : List (String × Json))

namespace Json

instance : Inhabited Json := ⟨null⟩

end Json
end Dashboard
