import QuizCompiler.Data.Decode

/-! # Excerpts

A message about a text shows the line that it is about, with marks below the bytes in question.
-/

namespace QuizCompiler.Toml

open Data

/-- The characters of a text that lie before a byte. -/
def charsBefore (offset : Nat) : List Char → List Char
  | [] => []
  | c :: rest => if offset < c.utf8Size then [] else c :: charsBefore (offset - c.utf8Size) rest

/-- The line of a text that a byte stands in, its number from zero, and how many of its
characters lie before the byte. -/
def lineAt (text : List Char) (offset : Nat) : List Char × Nat × Nat :=
  let before := charsBefore offset text
  let column := (before.reverse.takeWhile (· != '\n')).length
  let line := (text.drop (before.length - column)).takeWhile (· != '\n')
  (line, before.count '\n', column)

/-- A message below the line of a text that it is about. There is at least one mark, and
none beyond the line. -/
def excerpt (text : String) (span : Span) (message : String) : String :=
  let (line, above, column) := lineAt text.toList span.start
  let shown := String.ofList line
  let number := toString (above + 1)
  let marks := max 1 (min (span.stop - span.start) (shown.utf8ByteSize - column))
  let spaces (n : Nat) : String := String.ofList (List.replicate n ' ')
  let margin := spaces (number.length + 1) ++ "|"
  s!"TOML parse error at line {number}, column {column + 1}\n" ++
    margin ++ "\n" ++
    number ++ " | " ++ shown ++ "\n" ++
    margin ++ spaces (column + 1) ++ String.ofList (List.replicate marks '^') ++ "\n" ++
    message ++ "\n"

end QuizCompiler.Toml
