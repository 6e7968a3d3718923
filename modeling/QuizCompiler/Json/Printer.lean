import QuizCompiler.Json.Value
import QuizCompiler.Text.Digit

/-! # Printing JSON

A value is printed on one line, or with one item or member on each line. Texts are
written the same way in both: the quote, the backslash and the control characters below
the space are escaped, and every other character stands for itself.
-/

namespace QuizCompiler.Json

open Text

/-- A character as it is written in a text. -/
def escapeChar (c : Char) : List Char :=
  if c = '\x22' then ['\\', '\x22']
  else if c = '\\' then ['\\', '\\']
  else if c = '\x08' then ['\\', 'b']
  else if c = '\t' then ['\\', 't']
  else if c = '\n' then ['\\', 'n']
  else if c = '\x0c' then ['\\', 'f']
  else if c = '\r' then ['\\', 'r']
  else if c.toNat < 0x20 then
    ['\\', 'u', '0', '0', lowerHexDigit (c.toNat / 16), lowerHexDigit (c.toNat % 16)]
  else [c]

def quoted (text : String) : List Char :=
  '\x22' :: (text.toList.flatMap escapeChar ++ ['\x22'])

/-! ## On one line

Documents are written on many lines. A value on one line is for exchange with other programs, a
line for each value.
-/

mutual

/-- A value on one line, without blanks. -/
def compactChars : Json → List Char
  | null => ['n', 'u', 'l', 'l']
  | bool true => ['t', 'r', 'u', 'e']
  | bool false => ['f', 'a', 'l', 's', 'e']
  | number literal => literal.toList
  | text value => quoted value
  | list [] => ['[', ']']
  | list (item :: items) => '[' :: (compactChars item ++ compactItems items)
  | object [] => ['\x7b', '\x7d']
  | object ((key, value) :: members) =>
    '\x7b' :: (quoted key ++ ':' :: (compactChars value ++ compactMembers members))

/-- The further items of a list, and its end. -/
def compactItems : List Json → List Char
  | [] => [']']
  | item :: items => ',' :: (compactChars item ++ compactItems items)

/-- The further members of an object, and its end. -/
def compactMembers : List (String × Json) → List Char
  | [] => ['\x7d']
  | (key, value) :: members =>
    ',' :: (quoted key ++ ':' :: (compactChars value ++ compactMembers members))

end

/-- A value on one line, without blanks. -/
def compact (value : Json) : String := String.ofList value.compactChars

/-! ## On many lines -/

/-- A line end, and the margin of a line at the given depth. -/
def newLine (depth : Nat) : List Char := '\n' :: List.replicate (2 * depth) ' '

mutual

/-- A value on as many lines as it has parts; `depth` is how deep it stands. -/
def prettyChars (depth : Nat) : Json → List Char
  | null => ['n', 'u', 'l', 'l']
  | bool true => ['t', 'r', 'u', 'e']
  | bool false => ['f', 'a', 'l', 's', 'e']
  | number literal => literal.toList
  | text value => quoted value
  | list [] => ['[', ']']
  | list (item :: items) =>
    '[' :: (newLine (depth + 1) ++ prettyChars (depth + 1) item ++ prettyItems depth items)
  | object [] => ['\x7b', '\x7d']
  | object ((key, value) :: members) =>
    '\x7b' :: (newLine (depth + 1) ++ quoted key ++ [':', ' '] ++ prettyChars (depth + 1) value ++
      prettyMembers depth members)

/-- The further items of a list, and its end. -/
def prettyItems (depth : Nat) : List Json → List Char
  | [] => newLine depth ++ [']']
  | item :: items =>
    ',' :: (newLine (depth + 1) ++ prettyChars (depth + 1) item ++ prettyItems depth items)

/-- The further members of an object, and its end. -/
def prettyMembers (depth : Nat) : List (String × Json) → List Char
  | [] => newLine depth ++ ['\x7d']
  | (key, value) :: members =>
    ',' :: (newLine (depth + 1) ++ quoted key ++ [':', ' '] ++ prettyChars (depth + 1) value ++
      prettyMembers depth members)

end

/-- A value with one item or member on each line. -/
def pretty (value : Json) : String := String.ofList (value.prettyChars 0)

end QuizCompiler.Json
