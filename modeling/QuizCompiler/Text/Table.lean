import QuizCompiler.Text.Blank

/-! # Tables

Large tables are kept as one text each, with entries parted by blanks.
-/

namespace QuizCompiler.Text

/-- The words of a text, given the word that goes on, backwards. -/
def wordsFrom (word : List Char) : List Char → List String
  | [] => if word.isEmpty then [] else [String.ofList word.reverse]
  | c :: rest =>
    if isAsciiBlank c then
      if word.isEmpty then wordsFrom [] rest
      else String.ofList word.reverse :: wordsFrom [] rest
    else wordsFrom (c :: word) rest

/-- The words of a text: its longest stretches without a blank. -/
def words (text : String) : List String := wordsFrom [] text.toList

end QuizCompiler.Text
