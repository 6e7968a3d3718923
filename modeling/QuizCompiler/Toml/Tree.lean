import QuizCompiler.Data.Datum

/-! # Tables under construction

A text defines tables bit by bit: by headers, by dotted keys, and by lists of tables. No
definition may change what another one has closed, so every table remembers how it
came about.
-/

namespace QuizCompiler.Toml

open Data

/-- How a table came about. -/
inductive Origin
  /-- As a part of a header that goes on. -/
  | passed
  /-- As a part of a dotted key. -/
  | dotted
  /-- By a header of its own. -/
  | header
deriving DecidableEq, Repr

/-- What a name stands for. -/
inductive Entry
  /-- A value; lists and tables that are written as values are closed. -/
  | value (datum : Located Datum)
  | table (origin : Origin) (span : Span) (members : List (Located String × Entry))
  /-- A list of tables, the latest first. -/
  | tables (span : Span) (items : List (Span × List (Located String × Entry)))
deriving Repr

/-- The members of a table. -/
abbrev Members := List (Located String × Entry)

namespace Members

def entry? (members : Members) (name : String) : Option Entry :=
  (List.find? (fun (key, _) => key.value == name) members).map Prod.snd

/-- Put an entry in the place of the one with the same name. -/
def replace (members : Members) (name : String) (entry : Entry) : Members :=
  members.map fun (key, old) => if key.value == name then (key, entry) else (key, old)

/-- Change the table that a path leads to. Tables that are missing on the way are made. The change
is told whether the table came about by a dotted key. -/
def within {α : Type} (byDot : Bool) (change : Bool → Members → Option (α × Members)) :
    (path : List (Located String)) → (isDotted : Bool) → Members → Option (α × Members)
  | [], isDotted, members => change isDotted members
  | key :: path, _, members =>
    match members.entry? key.value with
    | none => do
      let (result, inner) ← within byDot change path byDot []
      let origin := if byDot then .dotted else .passed
      return (result, members ++ [(key, .table origin key.span inner)])
    | some (.table origin span inner) =>
      if byDot && origin = .header then none
      else do
        let (result, inner) ← within byDot change path (origin == .dotted) inner
        return (result, members.replace key.value (.table origin span inner))
    | some (.tables span ((place, latest) :: earlier)) => do
      let (result, latest) ← within byDot change path false latest
      return (result, members.replace key.value (.tables span ((place, latest) :: earlier)))
    | some _ => none

/-- Define a value. A dotted key must not add to a table that a header made, nor a plain
one to a table that a dotted key made. -/
def define (members : Members) (path : List (Located String)) (key : Located String)
    (value : Located Datum) : Option Members :=
  (within true (fun isDotted members =>
    if isDotted == path.isEmpty || (members.entry? key.value).isSome then none
    else some ((), members ++ [(key, .value value)])) path false members).map Prod.snd

/-- Take out the table with a name, so that a header can go on with it. Only a table that headers
merely passed through is left for that. -/
def reopen (members : Members) (path : List (Located String)) (name : String) :
    Option (Members × Members) :=
  within false (fun _ members =>
    match members.entry? name with
    | none => some ([], members)
    | some (.table .passed _ inner) =>
      some (inner, members.filter fun (key, _) => key.value != name)
    | some _ => none) path false members

/-- Put in the table of a header. -/
def close (members : Members) (path : List (Located String)) (key : Located String) (span : Span)
    (table : Members) : Option Members :=
  (within false (fun _ members =>
    match members.entry? key.value with
    | none => some ((), members ++ [(key, .table .header span table)])
    | some _ => none) path false members).map Prod.snd

/-- Add the table of a header to a list of tables. -/
def append (members : Members) (path : List (Located String)) (key : Located String) (span : Span)
    (table : Members) : Option Members :=
  (within false (fun _ members =>
    match members.entry? key.value with
    | none => some ((), members ++ [(key, .tables span [(span, table)])])
    | some (.tables first items) =>
      some ((), members.replace key.value (.tables first ((span, table) :: items)))
    | some _ => none) path false members).map Prod.snd

end Members

mutual

def Entry.toDatum : Entry → Located Datum
  | .value datum => datum
  | .table _ span members => ⟨span, .table (membersToData members)⟩
  | .tables span items => ⟨span, .list (itemsToData items []) ⟩

def membersToData : List (Located String × Entry) → List (Located String × Located Datum)
  | [] => []
  | (key, entry) :: members => (key, entry.toDatum) :: membersToData members

/-- A finished list of tables as data, in front of those that came later. -/
def itemsToData : List (Span × List (Located String × Entry)) → List (Located Datum) →
    List (Located Datum)
  | [], later => later
  | (span, members) :: items, later =>
    itemsToData items (⟨span, .table (membersToData members)⟩ :: later)

end

end QuizCompiler.Toml
