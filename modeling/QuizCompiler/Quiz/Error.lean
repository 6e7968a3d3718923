import QuizCompiler.Files.System
import QuizCompiler.Quiz.Question
import QuizCompiler.Toml.Excerpt

/-! # Errors

Why a configuration or a document cannot be had. An error may have an error as its cause,
and that one too.
-/

namespace QuizCompiler.Quiz

open Data Files

/-- Why a configuration cannot be read. -/
inductive ConfigError
  | unreadable (error : FileError)
  /-- The text is not well-formed. -/
  | malformed
  /-- The text is well-formed but says something that a configuration cannot. -/
  | unfit (text : String) (fault : Located Fault)
deriving Repr

namespace ConfigError

/-- The error in the text or the file. -/
def cause : ConfigError → String
  | unreadable error => error.message
  | malformed => "TOML parse error\n"
  | unfit text fault => Toml.excerpt text fault.span (fault.value.message .toml)

def message (error : ConfigError) : String :=
  match error with
  | unreadable _ => "IO error: " ++ error.cause
  | _ => "TOML parse error: " ++ error.cause

end ConfigError

/-- The environment variable that can name the source. -/
def sourceVariable : String := "DOC_PATH"

/-- Why a document cannot be made or written. There is no error for putting it into words: any
document has a text. -/
inductive CompileError
  /-- No source was named. -/
  | noSource
  | unreadable (path : String) (error : FileError)
  | unwritable (path : String) (error : FileError)
  | config (path : String) (error : ConfigError)
  | invalid (error : QuestionError)
deriving Repr

namespace CompileError

def message : CompileError → String
  | noSource =>
    s!"No quiz source given. Pass a markdown file path or set the {sourceVariable} " ++
      "environment variable"
  | unreadable path error => s!"IO error reading {path}: {error.message}"
  | unwritable path error => s!"IO error writing {path}: {error.message}"
  | config path error => s!"Config error loading {path}: {error.message}"
  | invalid error => s!"Invalid quiz source: {error.message}"

/-- The wordings of what caused an error, the nearest cause first. -/
def causes : CompileError → List String
  | noSource => []
  | unreadable _ error => [error.message]
  | unwritable _ error => [error.message]
  | config _ error => [error.message, error.cause]
  | invalid error => [error.message]

end CompileError

end QuizCompiler.Quiz
