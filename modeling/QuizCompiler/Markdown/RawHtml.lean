import QuizCompiler.Text.Blank

/-! # Raw HTML

Tags, comments, processing instructions, declarations and character data, as they may
stand inside a paragraph, and the ways a block of HTML begins. Each reader takes the
text after the opening angle bracket and gives back what follows the construct.
-/

namespace QuizCompiler.Markdown

open Text

/-! ## Tags -/

/-- Drop blanks, and line ends too where a tag may go over several lines. -/
def skipTagBlanks (multiline : Bool) (text : List Char) : List Char :=
  text.dropWhile fun c => isInlineBlank c || (multiline && c == '\n')

/-- What may stand in an attribute value without quotes. -/
def isBareValueChar (c : Char) : Bool :=
  !(c == '\x27' || c == '\x22' || c == ' ' || c == '=' || c == '>' || c == '<' ||
    c == '\x60' || c == '\n')

/-- What follows an attribute value. -/
def attributeValue? (multiline : Bool) : List Char → Option (List Char)
  | [] => none
  | c :: rest =>
    if c == '\x27' || c == '\x22' then
      let inside := rest.takeWhile (· != c)
      if !multiline && inside.contains '\n' then none
      else
        match rest.drop inside.length with
        | _ :: after => some after
        | [] => none
    else if isBareValueChar c then some (rest.dropWhile isBareValueChar)
    else none

/-- What follows an attribute, its value included. -/
def attribute? (multiline : Bool) : List Char → Option (List Char)
  | [] => none
  | c :: rest =>
    if c.isAlpha || c == '_' || c == ':' then
      let after := rest.dropWhile fun d =>
        isAsciiAlnum d || d == '_' || d == '.' || d == ':' || d == '-'
      match skipTagBlanks multiline after with
      | '=' :: value => attributeValue? multiline (skipTagBlanks multiline value)
      | _ => some after
    else none

/-- What follows the attributes of an opening tag and the blanks after them. Every
attribute is set off by a blank; `fuel` bounds their number. -/
def attributes? (multiline : Bool) : Nat → List Char → Option (List Char)
  | 0, _ => none
  | fuel + 1, text =>
    let spaced := skipTagBlanks multiline text
    match spaced with
    | '/' :: _ => some spaced
    | '>' :: _ => some spaced
    | _ =>
      if spaced.length = text.length then none
      else (attribute? multiline spaced).bind (attributes? multiline fuel)

/-- What follows a tag. -/
def tag? (multiline : Bool) (text : List Char) : Option (List Char) :=
  let close? : List Char → Option (List Char) := fun rest =>
    match rest with
    | '>' :: after => some after
    | _ => none
  let name? : List Char → Option (List Char) := fun rest =>
    match rest with
    | c :: more =>
      if c.isAlpha then some (more.dropWhile fun d => isAsciiAlnum d || d == '-') else none
    | [] => none
  match text with
  | '/' :: rest => (name? rest).bind fun after => close? (after.dropWhile isInlineBlank)
  | _ =>
    (name? text).bind fun after =>
      (attributes? multiline (after.length + 1) after).bind fun after =>
        match after with
        | '/' :: rest => close? rest
        | rest => close? rest

/-! ## Other constructs inside a paragraph -/

/-- What follows the first place where `word` stands. -/
def afterFirst? (word : List Char) : List Char → Option (List Char)
  | [] => after? word []
  | c :: rest =>
    match after? word (c :: rest) with
    | some after => some after
    | none => afterFirst? word rest

/-- What follows a comment, a declaration or character data; the text begins after
the exclamation mark. -/
def markupDeclaration? : List Char → Option (List Char)
  | '-' :: '-' :: rest =>
    match rest with
    | '>' :: after => some after
    | '-' :: '>' :: after => some after
    | _ => afterFirst? ['-', '-', '>'] rest
  | '[' :: rest =>
    match after? ['C', 'D', 'A', 'T', 'A', '['] rest with
    | some data => afterFirst? [']', ']', '>'] data
    | none => none
  | c :: rest => if c.isAlpha then afterFirst? ['>'] rest else none
  | [] => none

/-- How much HTML the text after an angle bracket holds, and whether it is a tag. -/
def inlineHtml? : List Char → Option (Bool × List Char)
  | '!' :: rest => (markupDeclaration? rest).map (false, ·)
  | '?' :: rest => (afterFirst? ['?', '>'] rest).map (false, ·)
  | text => (tag? true text).map (true, ·)

/-! ## Blocks -/

/-- How a block of HTML ends. -/
inductive HtmlBlockEnd
  /-- With the line that holds the given text. -/
  | text (mark : List Char)
  /-- Before the next blank line. -/
  | blankLine
deriving DecidableEq, Repr

/-- The tags that begin a block of HTML whatever follows them. -/
def blockTags : List String :=
  ["address", "article", "aside", "base", "basefont", "blockquote", "body", "caption", "center",
   "col", "colgroup", "dd", "details", "dialog", "dir", "div", "dl", "dt", "fieldset",
   "figcaption", "figure", "footer", "form", "frame", "frameset", "h1", "h2", "h3", "h4", "h5",
   "h6", "head", "header", "hr", "html", "iframe", "legend", "li", "link", "main", "menu",
   "menuitem", "nav", "noframes", "ol", "optgroup", "option", "p", "param", "search", "section",
   "summary", "table", "tbody", "td", "tfoot", "th", "thead", "title", "tr", "track", "ul"]

/-- The tags whose block goes on to their closing tag. -/
def rawTextTags : List String := ["pre", "style", "script", "textarea"]

/-- Whether the text begins with the word in either case, and what follows it. -/
def afterTagName? (word : String) (text : List Char) : Option (List Char) :=
  let name := word.toList
  if (text.take name.length).map Char.toLower = name then some (text.drop name.length) else none

/-- The text that ends a block whose beginning follows the angle bracket. -/
def markedEnd? (text : List Char) : Option (List Char) :=
  let rawText := rawTextTags.find? fun word =>
    match afterTagName? word text with
    | some [] => true
    | some (c :: _) => isAsciiBlank c || c == '>'
    | none => false
  match rawText with
  | some word => some ("</".toList ++ word.toList ++ ['>'])
  | none =>
    match text with
    | '!' :: '-' :: '-' :: _ => some ['-', '-', '>']
    | '?' :: _ => some ['?', '>']
    | '!' :: '[' :: rest =>
      if (after? ['C', 'D', 'A', 'T', 'A', '['] rest).isSome then some [']', ']', '>'] else none
    | '!' :: c :: _ => if c.isAlpha then some ['>'] else none
    | _ => none

/-- Whether the text after the angle bracket is the beginning of a block-level tag. -/
def startsBlockTag (text : List Char) : Bool :=
  let inner := match text with | '/' :: rest => rest | _ => text
  let name := inner.takeWhile isAsciiAlnum
  blockTags.contains (String.ofList (name.map Char.toLower)) &&
    (match inner.drop name.length with
    | [] => true
    | '/' :: '>' :: _ => true
    | c :: _ => c == ' ' || c == '\t' || c == '>')

/-- How a block of HTML ends that may cut a paragraph short. -/
def interruptingHtml? : List Char → Option HtmlBlockEnd
  | '<' :: rest =>
    match markedEnd? rest with
    | some mark => some (.text mark)
    | none => if startsBlockTag rest then some .blankLine else none
  | _ => none

/-- How a block of HTML ends that begins here. A single tag of any name begins one if
it has its line for itself. -/
def htmlBlock? (text : List Char) : Option HtmlBlockEnd :=
  match interruptingHtml? text with
  | some ending => some ending
  | none =>
    match text with
    | '<' :: rest =>
      match tag? false rest with
      | some after => if after.all isInlineBlank then some .blankLine else none
      | none => none
    | _ => none

end QuizCompiler.Markdown
