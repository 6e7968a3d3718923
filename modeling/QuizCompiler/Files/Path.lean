/-! # Paths

A path is kept as it is written, for messages, and as its parts.
-/

namespace QuizCompiler.Files

/-- A path. -/
structure Path where
  /-- The path as it was given. -/
  written : String
  /-- Whether it begins at the root. -/
  fromRoot : Bool
  /-- What stands between the slashes, except for nothing. -/
  parts : List String
  /-- Whether it ends with a slash. -/
  slashed : Bool
deriving DecidableEq, Repr

namespace Path

/-- The pieces of a text between slashes; `piece` holds the current one backwards. -/
def piecesFrom (piece : List Char) : List Char → List String
  | [] => [String.ofList piece.reverse]
  | c :: rest =>
    if c = '/' then String.ofList piece.reverse :: piecesFrom [] rest
    else piecesFrom (c :: piece) rest

def ofString (written : String) : Path where
  written := written
  fromRoot := written.toList.head? == some '/'
  parts := (piecesFrom [] written.toList).filter fun piece => !piece.isEmpty
  slashed := written.toList.getLast? == some '/'

/-- The parts that matter for the name of a file: a dot counts only at the beginning of a path. -/
def namingParts (path : Path) : List String :=
  match path.parts with
  | "." :: rest =>
    if path.fromRoot then rest.filter (· != ".") else "." :: rest.filter (· != ".")
  | parts => parts.filter (· != ".")

/-- Whether a part is the name of a file or folder. -/
def isName (part : String) : Bool := part != "." && part != ".."

/-- What is added to the name of a file while it is being written. -/
def temporaryMark : String := ".tmp"

/-- The parts of the path beside a path, to which a file is written before it is moved there. -/
def siblingParts (path : Path) : List String :=
  match path.namingParts.getLast? with
  | some name =>
    if isName name then path.namingParts.dropLast ++ [name ++ temporaryMark]
    else path.namingParts ++ [temporaryMark]
  | none => [temporaryMark]

/-- The path beside a path, to which a file is written before it is moved there. -/
def sibling (path : Path) : Path where
  written := (if path.fromRoot then "/" else "") ++ String.intercalate "/" path.siblingParts
  fromRoot := path.fromRoot
  parts := path.siblingParts
  slashed := false

end Path

end QuizCompiler.Files
