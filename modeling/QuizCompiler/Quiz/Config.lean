import QuizCompiler.Quiz.Document

/-! # Configuration

The options of the envelope that every compiled document gets. Each of them has a
default, and members with other names are ignored.
-/

namespace QuizCompiler.Quiz

open Data

/-- The options of the envelope. -/
structure Config where
  progressBar : ProgressBar
  backButton : Option Bool
  completedHtml : String
  completionMessages : List CompletionMessage
deriving DecidableEq, Repr

namespace Config

/-- The message at the end of a quiz that has no other. -/
def defaultCompletedHtml : String :=
  "<h4>You got <b>\x7bcorrectAnswers\x7d</b> out of " ++
    "<b>\x7bquestionCount\x7d</b> correct answers.</h4>"

/-- The options of a quiz without a configuration. -/
def default : Config := ⟨.bottom, none, defaultCompletedHtml, []⟩

instance : Inhabited Config := ⟨default⟩

/-- Where the progress bar stands. -/
def progressBarField (format : Format) : RecordField Config :=
  ⟨"show_progress_bar", false, fun c d =>
    return { c with progressBar := ← Decoder.variant format ProgressBar.variants d }⟩

/-- Whether there is a button that leads back. -/
def backButtonField : RecordField Config :=
  ⟨"show_prev_button", false, fun c d =>
    return { c with backButton := ← Decoder.optional Decoder.bool d }⟩

/-- The message at the end. -/
def completedHtmlField : RecordField Config :=
  ⟨"completed_html", false, fun c d => return { c with completedHtml := ← Decoder.text d }⟩

/-- The messages that can take the place of the one at the end. -/
def completionMessagesField (format : Format) : RecordField Config :=
  ⟨"completed_html_on_condition", false, fun c d =>
    return { c with
      completionMessages := ← Decoder.list (CompletionMessage.record.decode format) d }⟩

def record (format : Format) : Record Config where
  name := "QuizConfig"
  fields := [progressBarField format, backButtonField, completedHtmlField,
    completionMessagesField format]
  sorted := [completedHtmlField, completionMessagesField format, backButtonField,
    progressBarField format]
  start := default

/-- Read a configuration. -/
def decode (format : Format) : Decoder Config := (record format).decode format

/-- The configuration that a JSON value is, or the first fault. -/
def ofJson (value : Json) : Decoded Config := decode .json value.toLocated

/-- A configuration as JSON. -/
def toJson (config : Config) : Json :=
  .object
    [("show_progress_bar", .text config.progressBar.word),
      ("show_prev_button", match config.backButton with
        | some shown => .bool shown
        | none => .null),
      ("completed_html", .text config.completedHtml),
      ("completed_html_on_condition",
        .list (config.completionMessages.map CompletionMessage.toJson))]

end Config

end QuizCompiler.Quiz
