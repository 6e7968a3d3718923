import QuizCompiler.Quiz.Notice
import QuizCompiler.Text.Blank

/-! # Filters for notices

A filter says up to which level notices are shown, for all parts of the program or for
those whose names begin in some way. The longest such beginning decides.
-/

namespace QuizCompiler.CommandLine

open Quiz Text

/-- Show notices of the targets that begin with `target`, up to a rank. -/
structure Directive where
  target : Option String
  rank : Nat
deriving DecidableEq, Repr

/-- A filter. -/
structure LogFilter where
  /-- The directives, those with longer targets later. -/
  directives : List Directive
  /-- A text that a message must contain to be shown. -/
  needle : Option String
  /-- What the filter was told but could not understand. -/
  complaints : List String
deriving DecidableEq, Repr

/-- The rank that a word stands for, in any case. -/
def rankOf? (word : String) : Option Nat :=
  [("off", 0), ("error", 1), ("warn", 2), ("info", 3), ("debug", 4), ("trace", 5)].lookup
    (String.ofList (word.toList.map Char.toLower))

/-- The rank that shows all notices. -/
def highestRank : Nat := 5

/-- The complaint about a piece of a filter. -/
def complaint (piece : String) : String := s!"invalid logging spec '{piece}'"

/-- Split a text at every `c`; `piece` holds the current piece backwards. -/
def splitFrom (c : Char) (piece : List Char) : List Char → List String
  | [] => [String.ofList piece.reverse]
  | d :: rest =>
    if d = c then String.ofList piece.reverse :: splitFrom c [] rest
    else splitFrom c (d :: piece) rest

/-- The pieces of a text between every two `c`. -/
def pieces (c : Char) (text : String) : List String := splitFrom c [] text.toList

def readDirective (piece : String) : Except String Directive :=
  match pieces '=' piece with
  | [word] =>
    match rankOf? word with
    | some rank => .ok ⟨none, rank⟩
    | none => .ok ⟨some word, highestRank⟩
  | [target, word] =>
    let word := trim word
    if word.isEmpty then .ok ⟨some target, highestRank⟩
    else
      match rankOf? word with
      | some rank => .ok ⟨some target, rank⟩
      | none => .error (complaint word)
  | _ => .error (complaint piece)

namespace LogFilter

/-- Add a directive, in the place of one for the same target. -/
def addDirective (directives : List Directive) (directive : Directive) : List Directive :=
  if directives.any fun old => old.target = directive.target then
    directives.map fun old => if old.target = directive.target then directive else old
  else directives ++ [directive]

def targetLength (directive : Directive) : Nat :=
  match directive.target with
  | some target => target.utf8ByteSize
  | none => 0

/-- Put a directive behind all that have no longer target. -/
def insertByLength (directive : Directive) : List Directive → List Directive
  | [] => [directive]
  | other :: rest =>
    if targetLength directive < targetLength other then directive :: other :: rest
    else other :: insertByLength directive rest

/-- Read the pieces of a filter. -/
def ofPieces (pieces : List String) : List Directive × List String :=
  pieces.foldl (fun (directives, complaints) piece =>
    if piece.isEmpty then (directives, complaints)
    else
      match readDirective piece with
      | .ok directive => (addDirective directives directive, complaints)
      | .error complaint => (directives, complaints ++ [complaint])) ([], [])

/-- Read a filter: directives parted by commas, and behind a slash what messages must
contain. A filter without directives shows errors. -/
def ofString (text : String) : LogFilter :=
  let (read, needle) : (List Directive × List String) × Option String :=
    match pieces '/' text with
    | [directives] => (ofPieces ((pieces ',' directives).map trim), none)
    | [directives, needle] => (ofPieces ((pieces ',' directives).map trim), some needle)
    | _ => (([], [complaint text ++ " (too many '/'s)"]), none)
  let (directives, complaints) := read
  let directives := if directives.isEmpty then [⟨none, Level.error.rank⟩] else directives
  let sorted := directives.foldl (fun sorted directive => insertByLength directive sorted) []
  ⟨sorted, needle, complaints⟩

/-- The filter that shows everything up to a level. -/
def upTo (level : Level) : LogFilter := ⟨[⟨none, level.rank⟩], none, []⟩

def isAbout (target : String) (directive : Directive) : Bool :=
  match directive.target with
  | some start => start.toList.isPrefixOf target.toList
  | none => true

def shows (filter : LogFilter) (notice : Notice) : Bool :=
  (filter.directives.reverse.find? (isAbout notice.target)).any
      (fun directive => notice.level.rank ≤ directive.rank) &&
    match filter.needle with
    | some needle => occursIn needle.toList notice.message.toList
    | none => true

end LogFilter

def noticeLine (notice : Notice) : String :=
  let level := notice.level.name
  let margin := String.ofList (List.replicate (5 - level.length) ' ')
  s!"[{level}{margin} {notice.target}] {notice.message}\n"

end QuizCompiler.CommandLine
