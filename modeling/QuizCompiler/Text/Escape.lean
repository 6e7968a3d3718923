import QuizCompiler.Text.Blank
import QuizCompiler.Text.Digit

/-! # Escaping text for HTML

A text is made safe as content or as an attribute by writing some characters as
references. Addresses are written with percent signs instead, byte by byte.
-/

namespace QuizCompiler.Text

/-- The reference that stands for a character in an attribute, if it needs one. -/
def attributeReference? (c : Char) : Option (List Char) :=
  if c = '&' then some ['&', 'a', 'm', 'p', ';']
  else if c = '<' then some ['&', 'l', 't', ';']
  else if c = '>' then some ['&', 'g', 't', ';']
  else if c = '\x22' then some ['&', 'q', 'u', 'o', 't', ';']
  else none

/-- Write `&`, `<`, `>` and the double quote as references. -/
def escapeAttribute (s : String) : String :=
  String.ofList (s.toList.flatMap fun c => (attributeReference? c).getD [c])

/-- Write `&`, `<` and `>` as references. -/
def escapeContent (s : String) : String :=
  String.ofList (s.toList.flatMap fun c =>
    if c = '\x22' then [c] else (attributeReference? c).getD [c])

/-- Put `reference` in the place of every `c`. -/
def replaceChar (c : Char) (reference : List Char) (text : List Char) : List Char :=
  text.flatMap fun d => if d = c then reference else [d]

/-- Write `&`, `<`, `>` and the double quote as references, one kind after the other.
The ampersand comes first, so that no reference is escaped a second time. -/
def escapeInTurn (s : String) : String :=
  String.ofList
    (replaceChar '\x22' ['&', 'q', 'u', 'o', 't', ';']
      (replaceChar '>' ['&', 'g', 't', ';']
        (replaceChar '<' ['&', 'l', 't', ';']
          (replaceChar '&' ['&', 'a', 'm', 'p', ';'] s.toList))))

/-- No reference that is written in one turn is changed in a later one. -/
theorem escapeInTurn_eq_escapeAttribute (s : String) : escapeInTurn s = escapeAttribute s := by
  unfold escapeInTurn escapeAttribute
  simp only [replaceChar, List.flatMap_assoc]
  congr 2
  funext c
  by_cases hampersand : c = '&'
  · subst hampersand
    rfl
  by_cases hless : c = '<'
  · subst hless
    rfl
  by_cases hgreater : c = '>'
  · subst hgreater
    rfl
  by_cases hquote : c = '\x22'
  · subst hquote
    rfl
  simp [attributeReference?, hampersand, hless, hgreater, hquote]

/-- The characters that an address shows as they are. -/
def isAddressChar (c : Char) : Bool :=
  isAsciiAlnum c || ['!', '#', '$', '%', '(', ')', '*', '+', ',', '-', '.', '/', ':', ';', '=',
    '?', '@', '_', '~'].contains c

/-- A byte as it reads in an address. -/
def percentByte (byte : UInt8) : List Char :=
  ['%', upperHexDigit (byte.toNat / 16), upperHexDigit (byte.toNat % 16)]

/-- What a character reads as in an address that is an attribute. -/
def addressChar (c : Char) : List Char :=
  if c = '&' then ['&', 'a', 'm', 'p', ';']
  else if c = '\x27' then ['&', '#', 'x', '2', '7', ';']
  else if isAddressChar c then [c]
  else (String.singleton c).toUTF8.toList.flatMap percentByte

/-- Write an address as an attribute. -/
def escapeAddress (s : String) : String := String.ofList (s.toList.flatMap addressChar)

end QuizCompiler.Text
