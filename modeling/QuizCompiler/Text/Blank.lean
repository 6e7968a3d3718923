/-! # Blank characters

Two kinds of blank matter here. Labels, titles and descriptions are trimmed of the
characters with the Unicode property `White_Space`; markup looks only at the few
ASCII blanks that may stand inside a line.
-/

namespace QuizCompiler.Text

/-- The characters with the Unicode property `White_Space`. -/
def isBlank (c : Char) : Bool :=
  let n := c.toNat
  (9 ≤ n && n ≤ 13) || n == 0x20 || n == 0x85 || n == 0xA0 || n == 0x1680 ||
    (0x2000 ≤ n && n ≤ 0x200A) || n == 0x2028 || n == 0x2029 || n == 0x202F ||
    n == 0x205F || n == 0x3000

/-- Tab, vertical tab, form feed and space: blank, but not the end of a line. -/
def isInlineBlank (c : Char) : Bool :=
  c == ' ' || c == '\t' || c == '\x0b' || c == '\x0c'

/-- The characters that indent a line. -/
def isSpaceOrTab (c : Char) : Bool := c == ' ' || c == '\t'

/-- The ASCII blanks, line ends included. -/
def isAsciiBlank (c : Char) : Bool :=
  isInlineBlank c || c == '\n' || c == '\r'

/-- Drop from the end of a list as long as `p` holds. -/
def dropTrailing {α : Type} (p : α → Bool) (xs : List α) : List α :=
  (xs.reverse.dropWhile p).reverse

/-- The text without the blanks at either end. -/
def trimChars (cs : List Char) : List Char :=
  dropTrailing isBlank (cs.dropWhile isBlank)

/-- The text without the blanks at either end. -/
def trim (s : String) : String := String.ofList (trimChars s.toList)

/-- Digits and letters of ASCII. -/
def isAsciiAlnum (c : Char) : Bool := c.isDigit || c.isAlpha

/-- The ASCII characters that a backslash escapes: printable, not a letter, digit or blank. -/
def isAsciiPunct (c : Char) : Bool :=
  let n := c.toNat
  (0x21 ≤ n && n ≤ 0x2F) || (0x3A ≤ n && n ≤ 0x40) || (0x5B ≤ n && n ≤ 0x60) ||
    (0x7B ≤ n && n ≤ 0x7E)

/-- Length of the run of `c` at the head of a text. -/
def runLength (c : Char) : List Char → Nat
  | [] => 0
  | d :: rest => if d = c then runLength c rest + 1 else 0

/-- What follows `lead` at the head of a text, if the text starts with it. -/
def after? : (lead text : List Char) → Option (List Char)
  | [], rest => some rest
  | _ :: _, [] => none
  | c :: lead, d :: rest => if c = d then after? lead rest else none

/-- Whether `word` occurs somewhere in the text. -/
def occursIn (word : List Char) : List Char → Bool
  | [] => word.isEmpty
  | c :: rest => (after? word (c :: rest)).isSome || occursIn word rest

theorem dropTrailing_of_last {α : Type} {p : α → Bool} {xs : List α} {x : α} (h : p x = false) :
    dropTrailing p (xs ++ [x]) = xs ++ [x] := by
  simp [dropTrailing, h]

end QuizCompiler.Text
