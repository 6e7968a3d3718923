import QuizCompiler.Markdown.Event
import QuizCompiler.Text.Escape

/-! # Rendering as HTML

Events are rendered one after the other. A block starts on a line of its own; inside an
image the text of the events becomes the alternative text.
-/

namespace QuizCompiler.Markdown

open Text

/-- HTML that is being written. -/
structure Page where
  html : String
  /-- Whether the last thing written ended a line. -/
  lineDone : Bool
  /-- The columns of the table at hand. -/
  columns : List Alignment
  /-- The number of the cell in its row. -/
  cell : Nat
  inHead : Bool
  /-- How many spans are open inside of an image's alternative text, the image included. -/
  altDepth : Nat
  /-- The title of the image whose alternative text is being written. -/
  imageTitle : String

namespace Page

def empty : Page := ⟨"", true, [], 0, false, 0, ""⟩

def write (s : String) (page : Page) : Page :=
  if s.isEmpty then page
  else { page with html := page.html ++ s, lineDone := s.back? = some '\n' }

/-- Write text that was escaped; only its own last character counts as an end of line. -/
def writeText (escaped source : String) (page : Page) : Page :=
  { page with html := page.html ++ escaped, lineDone := source.back? = some '\n' }

/-- Go to a new line unless the page is at one. -/
def freshLine (page : Page) : Page := if page.lineDone then page else page.write "\n"

/-- The opening tag of a table cell. -/
def cellStart (page : Page) : String :=
  let name := if page.inHead then "<th" else "<td"
  let style := match page.columns[page.cell]? with
    | some .left => " style=\"text-align: left\">"
    | some .center => " style=\"text-align: center\">"
    | some .right => " style=\"text-align: right\">"
    | _ => ">"
  name ++ style

/-- The attributes of a link or an image after its address, up to the closing bracket. -/
def titleAttribute (title : String) : String :=
  if title.isEmpty then "" else "\" title=\"" ++ escapeAttribute title

/-- Write what a pair opens with. -/
def start (tag : Tag) (page : Page) : Page :=
  match tag with
  | .paragraph => page.freshLine.write "<p>"
  | .heading level => page.freshLine.write ("<h" ++ toString level ++ ">")
  | .quote => page.freshLine.write "<blockquote>\n"
  | .codeBlock info =>
    let language := ((info.getD "").splitOn " ").headD ""
    page.freshLine.write (if language.isEmpty then "<pre><code>"
      else "<pre><code class=\"language-" ++ escapeAttribute language ++ "\">")
  | .htmlBlock => page
  | .list none => page.freshLine.write "<ul>\n"
  | .list (some first) =>
    page.freshLine.write
      (if first = 1 then "<ol>\n" else "<ol start=\"" ++ toString first ++ "\">\n")
  | .item => page.freshLine.write "<li>"
  | .table columns => { page with columns := columns }.write "<table>"
  | .tableHead => { page with inHead := true, cell := 0 }.write "<thead><tr>"
  | .tableRow => { page with cell := 0 }.write "<tr>"
  | .tableCell => page.write page.cellStart
  | .span .emphasis => page.write "<em>"
  | .span .strong => page.write "<strong>"
  | .span .strikethrough => page.write "<del>"
  | .link destination title =>
    page.write ("<a href=\"" ++ escapeAddress destination ++ titleAttribute title ++ "\">")
  | .mail address => page.write ("<a href=\"mailto:" ++ escapeAddress address ++ "\">")
  | .image destination title =>
    { page with altDepth := 1, imageTitle := title }.write
      ("<img src=\"" ++ escapeAddress destination ++ "\" alt=\"")

/-- Write what a pair closes with. -/
def stop (tag : Tag) (page : Page) : Page :=
  match tag with
  | .paragraph => page.write "</p>\n"
  | .heading level => page.write ("</h" ++ toString level ++ ">\n")
  | .quote => page.write "</blockquote>\n"
  | .codeBlock _ => page.write "</code></pre>\n"
  | .htmlBlock => page
  | .list none => page.write "</ul>\n"
  | .list (some _) => page.write "</ol>\n"
  | .item => page.write "</li>\n"
  | .table _ => page.write "</tbody></table>\n"
  | .tableHead => { page.write "</tr></thead><tbody>\n" with inHead := false }
  | .tableRow => page.write "</tr>\n"
  | .tableCell =>
    { page.write (if page.inHead then "</th>" else "</td>") with cell := page.cell + 1 }
  | .span .emphasis => page.write "</em>"
  | .span .strong => page.write "</strong>"
  | .span .strikethrough => page.write "</del>"
  | .link _ _ => page.write "</a>"
  | .mail _ => page.write "</a>"
  | .image _ _ => page

/-- What an event adds to the alternative text of an image. -/
def alternative (event : Event) (page : Page) : Page :=
  match event with
  | .start _ => { page with altDepth := page.altDepth + 1 }
  | .stop _ =>
    if page.altDepth = 1 then
      { page with altDepth := 0 }.write (titleAttribute page.imageTitle ++ "\" />")
    else { page with altDepth := page.altDepth - 1 }
  | .text content => page.writeText (escapeAttribute content) content
  | .code content => page.writeText (escapeAttribute content) content
  | .inlineHtml content => page.writeText (escapeAttribute content) content
  | .html _ => page
  | .softBreak => page.write " "
  | .hardBreak => page.write " "
  | .rule => page.write " "
  | .task true => page.write "[x]"
  | .task false => page.write "[ ]"

/-- Render one event. -/
def render (page : Page) (event : Event) : Page :=
  if page.altDepth ≠ 0 then page.alternative event
  else
    match event with
    | .start tag => page.start tag
    | .stop tag => page.stop tag
    | .text content => page.writeText (escapeContent content) content
    | .code content => page.write ("<code>" ++ escapeContent content ++ "</code>")
    | .html content => page.write content
    | .inlineHtml content => page.write content
    | .softBreak => page.write "\n"
    | .hardBreak => page.write "<br />\n"
    | .rule => page.freshLine.write "<hr />\n"
    | .task true => page.write "<input disabled=\"\" type=\"checkbox\" checked=\"\"/>\n"
    | .task false => page.write "<input disabled=\"\" type=\"checkbox\"/>\n"

end Page

/-- The HTML of a sequence of events. -/
def renderHtml (events : List Event) : String := (events.foldl Page.render .empty).html

end QuizCompiler.Markdown
