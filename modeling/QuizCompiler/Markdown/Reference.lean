import QuizCompiler.Markdown.Entity
import QuizCompiler.Text.CaseFold

/-! # Link references

The parts that links and link definitions are made of: labels, destinations, titles.
Labels agree if they fold to the same text once runs of blanks are made single.
-/

namespace QuizCompiler.Markdown

open Text

/-- Where a link leads, and its title. -/
structure Target where
  destination : List Char
  title : List Char
deriving DecidableEq, Repr

/-- Make each run of blanks a single space. -/
def collapseBlanks : List Char → List Char
  | [] => []
  | c :: rest =>
    if isAsciiBlank c then
      match rest with
      | [] => [' ']
      | d :: _ => if isAsciiBlank d then collapseBlanks rest else ' ' :: collapseBlanks rest
    else c :: collapseBlanks rest

/-- The form under which labels are compared. -/
def normalLabel (raw : List Char) : List Char :=
  foldCase (dropTrailing isAsciiBlank (collapseBlanks (raw.dropWhile isAsciiBlank)))

/-- The most characters a label may have. -/
def labelLimit : Nat := 1000

/-- The text of a label whose opening bracket has been read, and what follows the
closing one. Brackets inside are escaped; `raw` holds backwards what was read. -/
def labelFrom? (escaped : Bool) (raw : List Char) : List Char → Option (List Char × List Char)
  | [] => none
  | c :: rest =>
    if labelLimit ≤ raw.length then none
    else if escaped then labelFrom? false (c :: raw) rest
    else if c = '[' then none
    else if c = ']' then some (raw.reverse, rest)
    else labelFrom? (c == '\\') (c :: raw) rest

/-- The normal form of a label whose opening bracket has been read, and what follows
it. A label is not blank. -/
def label? (text : List Char) : Option (List Char × List Char) :=
  match labelFrom? false [] text with
  | some (raw, after) => if raw.all isAsciiBlank then none else some (normalLabel raw, after)
  | none => none

/-- Read a destination in angle brackets, of which the first has been read. -/
def pointedDestination? (escaped : Bool) (raw : List Char) :
    List Char → Option (List Char × List Char)
  | [] => none
  | c :: rest =>
    if c = '\n' then none
    else if escaped then pointedDestination? false (c :: raw) rest
    else if c = '<' then none
    else if c = '>' then some (raw.reverse, rest)
    else pointedDestination? (c == '\\') (c :: raw) rest

/-- Read a destination without brackets: it ends at a blank, a control character, or a
parenthesis that it did not open. At most `limit` parentheses may be open when one
more opens. -/
def bareDestination? (limit depth : Nat) (escaped : Bool) (raw : List Char) :
    List Char → Option (List Char × List Char)
  | [] => if depth = 0 then some (raw.reverse, []) else none
  | c :: rest =>
    if c.toNat ≤ 0x20 then if depth = 0 then some (raw.reverse, c :: rest) else none
    else if escaped then bareDestination? limit depth false (c :: raw) rest
    else if c = '(' then
      if limit < depth then none else bareDestination? limit (depth + 1) false (c :: raw) rest
    else if c = ')' then
      if depth = 0 then some (raw.reverse, c :: rest)
      else bareDestination? limit (depth - 1) false (c :: raw) rest
    else bareDestination? limit depth (c == '\\') (c :: raw) rest

/-- A destination as written, and what follows it. -/
def destination? (limit : Nat) : List Char → Option (List Char × List Char)
  | '<' :: rest => pointedDestination? false [] rest
  | text => bareDestination? limit 0 false [] text

/-- The sign that closes a title opened by `c`. -/
def titleClose? (c : Char) : Option Char :=
  if c == '\x22' || c == '\x27' then some c
  else if c == '(' then some ')'
  else none

/-- What is left of a line after its indentation, which does not count inside a
paragraph. -/
def skipLineStart (text : List Char) : List Char := text.dropWhile isSpaceOrTab

/-- Read the title of a definition up to its closing sign. -/
def definitionTitleFrom? (close : Char) (escaped : Bool) (raw : List Char) :
    List Char → Option (List Char × List Char)
  | [] => none
  | c :: rest =>
    if escaped then definitionTitleFrom? close false (c :: raw) rest
    else if c = close then some (raw.reverse, rest)
    else definitionTitleFrom? close (c == '\\') (c :: raw) rest

/-- The title of a definition as written, and what follows it. -/
def definitionTitle? : List Char → Option (List Char × List Char)
  | c :: rest =>
    match titleClose? c with
    | some close => definitionTitleFrom? close false [] rest
    | none => none
  | [] => none

/-- Read the title of a link up to its closing sign; an opening parenthesis may not
stand in a title in parentheses. The number counts characters that were read ahead. -/
def linkTitleFrom? (opening close : Char) : (skip : Nat) → (value : List Char) →
    List Char → Option (List Char × List Char)
  | _, _, [] => none
  | skip + 1, value, _ :: rest => linkTitleFrom? opening close skip value rest
  | 0, value, c :: rest =>
    if c = close then some (value.reverse, rest)
    else if c = opening then none
    else if c = '\n' then
      linkTitleFrom? opening close (rest.length - (skipLineStart rest).length) ('\n' :: value) rest
    else if c = '&' then
      match entity? rest with
      | some (text, after) =>
        linkTitleFrom? opening close (rest.length - after.length) (text.reverse ++ value) rest
      | none => linkTitleFrom? opening close 0 (c :: value) rest
    else if c = '\\' then
      match rest with
      | d :: _ =>
        if isAsciiPunct d then linkTitleFrom? opening close 1 (d :: value) rest
        else linkTitleFrom? opening close 0 (c :: value) rest
      | [] => none
    else linkTitleFrom? opening close 0 (c :: value) rest

/-- The title of a link, and what follows it. -/
def linkTitle? : List Char → Option (List Char × List Char)
  | c :: rest =>
    match titleClose? c with
    | some close => linkTitleFrom? c close 0 [] rest
    | none => none
  | [] => none

/-- Drop blanks, among them at most one line end. -/
def skipSeparator (text : List Char) : List Char :=
  match text.dropWhile isInlineBlank with
  | '\n' :: rest => rest.dropWhile isInlineBlank
  | rest => rest

/-- How deep parentheses may be nested in the destination of a link. -/
def linkNesting : Nat := 32

/-- The parenthesis after the text of a link: its target, and what follows it. -/
def inlineTarget? : List Char → Option (Target × List Char)
  | '(' :: rest =>
    match destination? linkNesting (skipSeparator rest) with
    | none => none
    | some (raw, after) =>
      let spaced := skipSeparator after
      let (title, after) := match linkTitle? spaced with
        | some (title, after) => (title, skipSeparator after)
        | none => ([], spaced)
      match after with
      | ')' :: after => some (⟨unescape raw, title⟩, after)
      | _ => none
  | _ => none

/-- A definition: the label's normal form, the target, and how much of the text follows.
It ends with its line; a title that does not is no part of the definition. -/
def definition? : List Char → Option ((List Char × Target) × List Char)
  | '[' :: rest =>
    match label? rest with
    | some (label, ':' :: after) =>
      let text := skipSeparator after
      match destination? 1 text with
      | none => none
      | some (raw, after) =>
        if after.length = text.length then none
        else
          let bare : (List Char × Target) × List Char := ((label, ⟨unescape raw, []⟩), after)
          let spaced := after.dropWhile isInlineBlank
          let newLine := match spaced with | [] => true | c :: _ => c == '\n'
          if !newLine && spaced.length = after.length then none
          else
            let titled := match definitionTitle? (skipSeparator after) with
              | some (title, after) =>
                let rest := after.dropWhile isInlineBlank
                match rest with
                | [] => some (title, rest)
                | '\n' :: _ => some (title, rest)
                | _ => none
              | none => none
            match titled with
            | some (title, rest) => some ((label, ⟨unescape raw, unescape title⟩), rest)
            | none => if newLine then some bare else none
    | _ => none
  | _ => none

/-- The definitions of a document, the first of each label in force. -/
abbrev Definitions := List (List Char × Target)

/-- The target that a label stands for. -/
def Definitions.find? (definitions : Definitions) (label : List Char) : Option Target :=
  definitions.lookup label

end QuizCompiler.Markdown
