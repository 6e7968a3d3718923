import QuizCompiler.Text.Quoted

/-! # Data

What a configuration or a document is read from: a tree of values, each with the place
where it is written, so that a message can show it.
-/

namespace QuizCompiler.Data

/-- A stretch of a text, from one byte up to another. -/
structure Span where
  start : Nat
  stop : Nat
deriving DecidableEq, Repr

/-- The span of what is not read from a text. -/
def Span.none : Span := ⟨0, 0⟩

/-- Something with the place where it is written. -/
structure Located (α : Type) where
  span : Span
  value : α
deriving DecidableEq, Repr

/-- A value. -/
inductive Datum
  | null
  | bool (value : Bool)
  | integer (value : Int)
  /-- A number that is no integer, as messages show it. -/
  | real (shown : String)
  | text (value : String)
  /-- A date, a time, or both. -/
  | moment
  | list (items : List (Located Datum))
  | table (members : List (Located String × Located Datum))
deriving Repr

namespace Datum

/-- How messages call a value. -/
def phrase : Datum → String
  | null => "null"
  | bool value => s!"boolean \x60{value}\x60"
  | integer value => s!"integer \x60{value}\x60"
  | real shown => s!"floating point \x60{shown}\x60"
  | text value => s!"string {Text.quote value}"
  | moment => "map"
  | list _ => "sequence"
  | table _ => "map"

def kindName : Datum → String
  | null => "null"
  | bool _ => "boolean"
  | integer _ => "integer"
  | real _ => "float"
  | text _ => "string"
  | moment => "datetime"
  | list _ => "array"
  | table _ => "table"

end Datum

def member? (members : List (Located String × Located Datum)) (name : String) :
    Option (Located Datum) :=
  (members.find? fun (key, _) => key.value == name).map Prod.snd

end QuizCompiler.Data
