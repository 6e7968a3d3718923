import QuizCompiler.Random.Uuid
import QuizCompiler.Text.Blank

/-! # Names of elements

Every element of a document has a random name, and no two elements of a document have
the same one.
-/

namespace QuizCompiler.Quiz

open QuizCompiler.Random Text

/-- What the names of supplements begin with. -/
def supplementMark : String := "meta"

/-- A name that begins with `mark` and was not issued before. -/
def drawName (words : Words) (patience : Nat) (issued : List String) (mark : String) :
    Draw String :=
  drawUntil 16 (fun first =>
    let name := mark ++ (Uuid.ofWords words first).text
    if issued.contains name then none else some name) patience

/-- Whether a name is of the form that random names have. -/
def isGeneratedName (name : String) : Bool :=
  Uuid.isAccepted ((after? supplementMark.toList name.toList).getD name.toList)

/-- The expression that holds as long as the question of a name is not answered. -/
def unansweredExpression (name : String) : String := "\x7b" ++ name ++ "\x7d empty"

end QuizCompiler.Quiz
