import QuizCompiler.Data.Datum

/-! # Reading values from data

A decoder takes a datum and gives a value, or the first fault that it finds. A record is
read from a table by the names of its fields, or from a list by their order. Tables are
visited in the order of their names. A field that is absent is a fault that is
found last.
-/

namespace QuizCompiler.Data

/-- Where data come from. It decides what stands for a choice without content, what
stands for no value, and the wording of some faults. -/
inductive Format
  | json
  /-- Within a JSON value that carries its kind as a member. -/
  | taggedJson
  | toml
deriving DecidableEq, Repr

/-- What a decoder can ask for. -/
inductive Expected
  | text
  | boolean
  | sequence
  | unit
  /-- The name of an alternative. -/
  | variantName
  | record (name : String)
  /-- A record that carries its kind as a member. -/
  | tagged (name : String)
deriving DecidableEq, Repr

/-- How messages call what was asked for. -/
def Expected.phrase : Expected → String
  | text => "a string"
  | boolean => "a boolean"
  | sequence => "a sequence"
  | unit => "unit"
  | variantName => "variant identifier"
  | record name => s!"struct {name}"
  | tagged name => s!"internally tagged enum {name}"

/-- Why a datum cannot be read. -/
inductive Fault
  | wrongType (found : Datum) (expected : Expected)
  /-- Neither the name of an alternative nor a table that holds one. -/
  | noVariant (found : Datum)
  /-- A table with no member, where there has to be one. -/
  | noMember
  /-- A table with several members, where there has to be one. -/
  | severalMembers
  /-- Content where an alternative has none. -/
  | contentInUnit (found : Datum)
  | unknownVariant (name : String) (known : List String)
  | missingField (name : String)
  /-- A list that ends before the field at index `length` of a record of `size` fields. -/
  | tooShort (length : Nat) (record : String) (size : Nat)
  /-- A list of `length` items for a record of `size` fields. -/
  | tooLong (length size : Nat)
deriving Repr

/-- A name between backticks. -/
def ticked (name : String) : String := s!"\x60{name}\x60"

def elements (count : Nat) : String := if count = 1 then "1 element" else s!"{count} elements"

/-- The known names that could have stood in the place of an unknown one. -/
def oneOf : List String → String
  | [] => "there are no variants"
  | [name] => s!"expected {ticked name}"
  | [name, other] => s!"expected {ticked name} or {ticked other}"
  | names => "expected one of " ++ String.intercalate ", " (names.map ticked)

namespace Fault

/-- A value of the wrong type, in words. -/
def typeMessage (found : Datum) (expected : String) : String :=
  s!"invalid type: {found.phrase}, expected {expected}"

/-- The wording of a fault. -/
def message (format : Format) : Fault → String
  | wrongType found expected => typeMessage found expected.phrase
  | noVariant found =>
    match format with
    | .toml => "wanted string or table"
    | _ => typeMessage found "string or map"
  | noMember =>
    match format with
    | .toml => "wanted exactly 1 element, found 0 elements"
    | _ => "invalid value: map, expected map with a single key"
  | severalMembers =>
    match format with
    | .toml => "wanted exactly 1 element, more than 1 element"
    | _ => "invalid value: map, expected map with a single key"
  | contentInUnit found =>
    match format, found with
    | .toml, .table _ => "expected empty table"
    | .toml, .list _ => "expected empty array"
    | .toml, _ => s!"expected table, found {found.kindName}"
    | _, _ => typeMessage found Expected.unit.phrase
  | unknownVariant name known => s!"unknown variant {ticked name}, {oneOf known}"
  | missingField name => s!"missing field {ticked name}"
  | tooShort length record size =>
    s!"invalid length {length}, expected struct {record} with {elements size}"
  | tooLong length size =>
    match format with
    | .taggedJson => s!"invalid length {length}, expected {elements size} in sequence"
    | _ => s!"invalid length {length}, expected fewer elements in array"

end Fault

/-- A value, or a fault and its place. -/
abbrev Decoded (α : Type) := Except (Located Fault) α

/-- A reader of values. -/
abbrev Decoder (α : Type) := Located Datum → Decoded α

def faultAt {α : Type} (datum : Located Datum) (fault : Fault) : Decoded α :=
  .error ⟨datum.span, fault⟩

namespace Decoder

def text : Decoder String := fun datum =>
  match datum.value with
  | .text value => .ok value
  | other => faultAt datum (.wrongType other .text)

/-- A truth value. -/
def bool : Decoder Bool := fun datum =>
  match datum.value with
  | .bool value => .ok value
  | other => faultAt datum (.wrongType other .boolean)

/-- A value, or nothing. -/
def optional {α : Type} (decode : Decoder α) : Decoder (Option α) := fun datum =>
  match datum.value with
  | .null => .ok none
  | _ => (decode datum).map some

/-- A sequence of values. -/
def list {α : Type} (decode : Decoder α) : Decoder (List α) := fun datum =>
  match datum.value with
  | .list items => items.mapM decode
  | other => faultAt datum (.wrongType other .sequence)

/-! ## Alternatives -/

/-- The alternative that a name stands for; `place` is where the name is written. -/
def named {α : Type} (variants : List (String × α)) (place : Span) (name : String) : Decoded α :=
  match variants.lookup name with
  | some variant => .ok variant
  | none => .error ⟨place, .unknownVariant name (variants.map Prod.fst)⟩

/-- Whether a datum may stand in the place of content where there is none. -/
def isUnit (format : Format) : Datum → Bool
  | .null => true
  | .table [] => format != .json
  | .list [] => format = .toml
  | _ => false

/-- One of several alternatives: its name, or a table with its name and no content. -/
def variant {α : Type} (format : Format) (variants : List (String × α)) : Decoder α := fun datum =>
  match datum.value with
  | .text name => named variants datum.span name
  | .table [] => faultAt datum .noMember
  | .table [(name, content)] => do
    let variant ← named variants name.span name.value
    if isUnit format content.value then return variant
    else faultAt content (.contentInUnit content.value)
  | .table _ => faultAt datum .severalMembers
  | other => faultAt datum (.noVariant other)

end Decoder

/-! ## Records -/

/-- A field of a record of type `ρ`. -/
structure RecordField (ρ : Type) where
  name : String
  required : Bool
  /-- Read the field into a record. -/
  read : ρ → Decoder ρ

/-- The fields of a record. -/
structure Record (ρ : Type) where
  name : String
  /-- The fields in the order of their declaration. -/
  fields : List (RecordField ρ)
  /-- The fields in the order of their names. -/
  sorted : List (RecordField ρ)
  /-- What the fields are read into. -/
  start : ρ

namespace Record

variable {ρ : Type}

/-- Read those fields that a table has. -/
def readMembers (members : List (Located String × Located Datum)) :
    List (RecordField ρ) → ρ → Decoded ρ
  | [], record => .ok record
  | field :: fields, record =>
    match member? members field.name with
    | some datum => do readMembers members fields (← field.read record datum)
    | none => readMembers members fields record

/-- The first required field that a table does not have. -/
def missing? (members : List (Located String × Located Datum)) (fields : List (RecordField ρ)) :
    Option (RecordField ρ) :=
  fields.find? fun field => field.required && (member? members field.name).isNone

/-- Read fields from the items of a list; `index` is how many were read before. Items that
are left over are returned. -/
def readItems (record : Record ρ) (place : Span) (index : Nat) :
    List (RecordField ρ) → List (Located Datum) → ρ → Decoded (ρ × List (Located Datum))
  | [], rest, value => .ok (value, rest)
  | field :: fields, [], value =>
    if field.required then .error ⟨place, .tooShort index record.name record.fields.length⟩
    else readItems record place (index + 1) fields [] value
  | field :: fields, item :: items, value => do
    readItems record place (index + 1) fields items (← field.read value item)

def ofTable (record : Record ρ) (place : Span) (members : List (Located String × Located Datum)) :
    Decoded ρ := do
  let value ← readMembers members record.sorted record.start
  match missing? members record.fields with
  | some field => .error ⟨place, .missingField field.name⟩
  | none => return value

def ofList (format : Format) (record : Record ρ) (place : Span) (items : List (Located Datum)) :
    Decoded ρ := do
  let (value, rest) ← record.readItems place 0 record.fields items record.start
  if rest.isEmpty || format = .toml then return value
  else .error ⟨place, .tooLong items.length record.fields.length⟩

/-- Read a record. A moment is a table without any of its fields. -/
def decode (format : Format) (record : Record ρ) : Decoder ρ := fun datum =>
  match datum.value with
  | .table members => record.ofTable datum.span members
  | .moment => record.ofTable datum.span []
  | .list items => record.ofList format datum.span items
  | other => faultAt datum (.wrongType other (.record record.name))

end Record

end QuizCompiler.Data
