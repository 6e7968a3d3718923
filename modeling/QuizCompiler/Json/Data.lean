import QuizCompiler.Data.Datum
import QuizCompiler.Json.Number
import QuizCompiler.Json.Value

/-! # JSON values as data

Of members with the same name the last one counts. JSON values have no place in a text.
-/

namespace QuizCompiler.Json

open Data

def placeless {α : Type} (value : α) : Located α := ⟨.none, value⟩

/-- Put a member into a table, in the place of one with the same name. -/
def putMember (name : String) (value : Located Datum) :
    List (Located String × Located Datum) → List (Located String × Located Datum)
  | [] => [(placeless name, value)]
  | (key, old) :: members =>
    if key.value = name then (key, value) :: members
    else (key, old) :: putMember name value members

def numberDatum (literal : String) : Datum :=
  match Number.ofLiteral? literal with
  | some (.integer value) => .integer value
  | some (.real negative value) =>
    .real (String.ofList ((if negative then ['-'] else []) ++ Number.style.write value))
  | none => .real literal

mutual

def toDatum : Json → Datum
  | null => .null
  | bool value => .bool value
  | number literal => numberDatum literal
  | text value => .text value
  | list items => .list (toItems items)
  | object members => .table (toMembers members [])

def toItems : List Json → List (Located Datum)
  | [] => []
  | item :: items => placeless (toDatum item) :: toItems items

/-- The members of an object as data, added to those before them. -/
def toMembers : List (String × Json) → List (Located String × Located Datum) →
    List (Located String × Located Datum)
  | [], done => done
  | (name, value) :: members, done =>
    toMembers members (putMember name (placeless (toDatum value)) done)

end

def toLocated (value : Json) : Located Datum := placeless value.toDatum

end QuizCompiler.Json
