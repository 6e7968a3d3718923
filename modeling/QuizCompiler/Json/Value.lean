/-! # JSON values

A number is kept as it is written, and the members of an object keep their order.
-/

namespace QuizCompiler

/-- A JSON value. -/
inductive Json
  | null
  | bool (value : Bool)
  | number (literal : String)
  | text (value : String)
  | list (items : List Json)
  | object (members : List (String × Json))
deriving Repr, Inhabited

end QuizCompiler
