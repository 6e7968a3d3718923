import QuizCompiler.Json.Data
import QuizCompiler.Json.Printer
import QuizCompiler.Data.Decode

/-! # Quiz documents

The document that a renderer shows: pages of elements in an envelope of options. A
document is written as JSON and can be read from it.
-/

namespace QuizCompiler.Quiz

open Data

/-! ## Parts of a document -/

/-- Where the progress bar stands. -/
inductive ProgressBar
  | off
  | top
  | bottom
  | both
  /-- The renderer decides. -/
  | auto
deriving DecidableEq, Repr

/-- A message that is shown at the end if an expression holds. -/
structure CompletionMessage where
  expression : String
  html : String
deriving DecidableEq, Repr

/-- The order in which the choices of a question are shown. -/
inductive ChoiceOrder
  /-- As they stand in the document. -/
  | asWritten
  | ascending
  | descending
  | random
deriving DecidableEq, Repr

/-- Markup that is shown as it is. -/
structure Markup where
  name : String
  html : String
deriving DecidableEq, Repr

/-- A question as it is shown. -/
structure ChoicePrompt where
  name : String
  title : String
  description : String
  choices : List String
  correctAnswers : List String
  order : ChoiceOrder
  /-- The question can be answered as long as this expression holds. -/
  enabledIf : String
  isRequired : Bool
deriving DecidableEq, Repr

/-- An element of a page. -/
inductive Element
  | markup (element : Markup)
  | prompt (element : ChoicePrompt)
deriving DecidableEq, Repr

def Element.name : Element → String
  | markup element => element.name
  | prompt element => element.name

def Element.prompt? : Element → Option ChoicePrompt
  | prompt element => some element
  | markup _ => none

/-- A page. -/
structure Page where
  elements : List Element
deriving DecidableEq, Repr

/-- A document. -/
structure Document where
  title : String
  progressBar : ProgressBar
  /-- Whether there is a button that leads back. -/
  backButton : Option Bool
  pages : List Page
  /-- The message at the end. -/
  completedHtml : String
  /-- The messages that take its place if their expressions hold. -/
  completionMessages : List CompletionMessage
deriving DecidableEq, Repr

namespace Document

def elements (document : Document) : List Element := document.pages.flatMap Page.elements

/-- All questions, in order. -/
def prompts (document : Document) : List ChoicePrompt := document.elements.filterMap Element.prompt?

def elementNames (document : Document) : List String := document.elements.map Element.name

def questionCount (document : Document) : Nat := document.prompts.length

end Document

/-! ## Writing -/

def ProgressBar.word : ProgressBar → String
  | off => "off"
  | top => "top"
  | bottom => "bottom"
  | both => "both"
  | auto => "auto"

def ChoiceOrder.word : ChoiceOrder → String
  | asWritten => "none"
  | ascending => "asc"
  | descending => "desc"
  | random => "random"

def textsToJson (texts : List String) : Json := .list (texts.map Json.text)

/-- A completion message as JSON. -/
def CompletionMessage.toJson (message : CompletionMessage) : Json :=
  .object [("expression", .text message.expression), ("html", .text message.html)]

/-- An element as JSON. -/
def Element.toJson : Element → Json
  | markup element =>
    .object [("type", .text "html"), ("name", .text element.name), ("html", .text element.html)]
  | prompt element =>
    .object
      [("type", .text "radiogroup"), ("name", .text element.name), ("title", .text element.title),
        ("description", .text element.description), ("choices", textsToJson element.choices),
        ("correctAnswer", textsToJson element.correctAnswers),
        ("choicesOrder", .text element.order.word), ("enableIf", .text element.enabledIf),
        ("isRequired", .bool element.isRequired)]

/-- A page as JSON. -/
def Page.toJson (page : Page) : Json :=
  .object [("elements", .list (page.elements.map Element.toJson))]

namespace Document

/-- The member for the back button, which is left out if nothing is said about it. -/
def backButtonMember (document : Document) : List (String × Json) :=
  match document.backButton with
  | some shown => [("showPrevButton", .bool shown)]
  | none => []

/-- The member for the completion messages, which is left out if there are none. -/
def completionMember (document : Document) : List (String × Json) :=
  if document.completionMessages.isEmpty then []
  else
    [("completedHtmlOnCondition",
      .list (document.completionMessages.map CompletionMessage.toJson))]

/-- A document as JSON. -/
def toJson (document : Document) : Json :=
  .object
    ([("title", .text document.title), ("showProgressBar", .text document.progressBar.word)] ++
      document.backButtonMember ++
      [("pages", .list (document.pages.map Page.toJson)),
        ("completedHtml", .text document.completedHtml)] ++
      document.completionMember)

/-- A document as it is written. -/
def text (document : Document) : String := document.toJson.pretty

end Document

/-! ## Reading -/

/-- The places of the progress bar with their words. -/
def ProgressBar.variants : List (String × ProgressBar) :=
  [off, top, bottom, both, auto].map fun bar => (bar.word, bar)

/-- The orders of choices with their words. -/
def ChoiceOrder.variants : List (String × ChoiceOrder) :=
  [asWritten, ascending, descending, random].map fun order => (order.word, order)

namespace CompletionMessage

/-- The expression under which a message applies. -/
def expressionField : RecordField CompletionMessage :=
  ⟨"expression", true, fun m d => return { m with expression := ← Decoder.text d }⟩

def htmlField : RecordField CompletionMessage :=
  ⟨"html", true, fun m d => return { m with html := ← Decoder.text d }⟩

def record : Record CompletionMessage where
  name := "CompletionCondition"
  fields := [expressionField, htmlField]
  sorted := [expressionField, htmlField]
  start := ⟨"", ""⟩

end CompletionMessage

namespace Markup

def nameField : RecordField Markup :=
  ⟨"name", true, fun m d => return { m with name := ← Decoder.text d }⟩

/-- What is shown. -/
def htmlField : RecordField Markup :=
  ⟨"html", true, fun m d => return { m with html := ← Decoder.text d }⟩

def record : Record Markup where
  name := "HtmlElement"
  fields := [nameField, htmlField]
  sorted := [htmlField, nameField]
  start := ⟨"", ""⟩

end Markup

namespace ChoicePrompt

def nameField : RecordField ChoicePrompt :=
  ⟨"name", true, fun p d => return { p with name := ← Decoder.text d }⟩

def titleField : RecordField ChoicePrompt :=
  ⟨"title", true, fun p d => return { p with title := ← Decoder.text d }⟩

def descriptionField : RecordField ChoicePrompt :=
  ⟨"description", true, fun p d => return { p with description := ← Decoder.text d }⟩

def choicesField : RecordField ChoicePrompt :=
  ⟨"choices", true, fun p d => return { p with choices := ← Decoder.list Decoder.text d }⟩

def correctAnswersField : RecordField ChoicePrompt :=
  ⟨"correctAnswer", true, fun p d =>
    return { p with correctAnswers := ← Decoder.list Decoder.text d }⟩

def orderField : RecordField ChoicePrompt :=
  ⟨"choicesOrder", true, fun p d =>
    return { p with order := ← Decoder.variant .taggedJson ChoiceOrder.variants d }⟩

/-- The expression that has to hold for a question to be answered. -/
def enabledIfField : RecordField ChoicePrompt :=
  ⟨"enableIf", true, fun p d => return { p with enabledIf := ← Decoder.text d }⟩

/-- Whether a question has to be answered. -/
def isRequiredField : RecordField ChoicePrompt :=
  ⟨"isRequired", true, fun p d => return { p with isRequired := ← Decoder.bool d }⟩

/-- How a question is read. -/
def record : Record ChoicePrompt where
  name := "RadioGroupElement"
  fields := [nameField, titleField, descriptionField, choicesField, correctAnswersField, orderField,
    enabledIfField, isRequiredField]
  sorted := [choicesField, orderField, correctAnswersField, descriptionField, enabledIfField,
    isRequiredField, nameField, titleField]
  start := ⟨"", "", "", [], [], .asWritten, "", false⟩

end ChoicePrompt

namespace Element

/-- The kinds of elements. -/
inductive Kind
  | markup
  | prompt
deriving DecidableEq, Repr

/-- Read the kind of an element. -/
def decodeKind : Decoder Kind := fun datum =>
  match datum.value with
  | .text name => Decoder.named [("html", .markup), ("radiogroup", .prompt)] datum.span name
  | other => faultAt datum (.wrongType other .variantName)

/-- Read an element of a known kind. -/
def ofKind (kind : Kind) : Decoder Element := fun datum =>
  match kind with
  | .markup => (Markup.record.decode .taggedJson datum).map markup
  | .prompt => (ChoicePrompt.record.decode .taggedJson datum).map prompt

/-- Read an element. Its kind is the member `type`, or the first item of a list. -/
def decode : Decoder Element := fun datum =>
  match datum.value with
  | .table members =>
    match member? members "type" with
    | some kind => do ofKind (← decodeKind kind) datum
    | none => faultAt datum (.missingField "type")
  | .list (kind :: items) => do ofKind (← decodeKind kind) ⟨datum.span, .list items⟩
  | .list [] => faultAt datum (.missingField "type")
  | other => faultAt datum (.wrongType other (.tagged "Element"))

end Element

namespace Page

def elementsField : RecordField Page :=
  ⟨"elements", true, fun p d => return { p with elements := ← Decoder.list Element.decode d }⟩

def record : Record Page where
  name := "Page"
  fields := [elementsField]
  sorted := [elementsField]
  start := ⟨[]⟩

end Page

namespace Document

def titleField : RecordField Document :=
  ⟨"title", true, fun q d => return { q with title := ← Decoder.text d }⟩

/-- Where the progress bar of a document stands. -/
def progressBarField : RecordField Document :=
  ⟨"showProgressBar", true, fun q d =>
    return { q with progressBar := ← Decoder.variant .json ProgressBar.variants d }⟩

def backButtonField : RecordField Document :=
  ⟨"showPrevButton", false, fun q d =>
    return { q with backButton := ← Decoder.optional Decoder.bool d }⟩

def pagesField : RecordField Document :=
  ⟨"pages", true, fun q d =>
    return { q with pages := ← Decoder.list (Page.record.decode .json) d }⟩

/-- The message at the end of a document. -/
def completedHtmlField : RecordField Document :=
  ⟨"completedHtml", true, fun q d => return { q with completedHtml := ← Decoder.text d }⟩

/-- The messages that can take its place. -/
def completionMessagesField : RecordField Document :=
  ⟨"completedHtmlOnCondition", false, fun q d =>
    return { q with
      completionMessages := ← Decoder.list (CompletionMessage.record.decode .json) d }⟩

def record : Record Document where
  name := "QuizDocument"
  fields := [titleField, progressBarField, backButtonField, pagesField, completedHtmlField,
    completionMessagesField]
  sorted := [completedHtmlField, completionMessagesField, pagesField, backButtonField,
    progressBarField, titleField]
  start := ⟨"", .bottom, none, [], "", []⟩

/-- The document that a JSON value is, or the first fault. -/
def ofJson (value : Json) : Decoded Document := record.decode .json value.toLocated

end Document

end QuizCompiler.Quiz
