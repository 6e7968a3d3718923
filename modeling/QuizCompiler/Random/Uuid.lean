import QuizCompiler.Random.Draw
import QuizCompiler.Text.Digit

/-! # Random identifiers

Sixteen random bytes, six bits of which are fixed to say that they are random. They are
written as hexadecimal digits in five groups.
-/

namespace QuizCompiler.Random

open Text

/-- An identifier of sixteen bytes. -/
structure Uuid where
  bytes : Vector UInt8 16
deriving DecidableEq, Repr

namespace Uuid

/-- The identifier that random bytes make: four bits of the seventh byte give the version,
two bits of the ninth the variant. -/
def ofRandom (bytes : Vector UInt8 16) : Uuid :=
  ⟨(bytes.set 6 (bytes[6] &&& 0x0f ||| 0x40)).set 8 (bytes[8] &&& 0x3f ||| 0x80)⟩

/-- The identifier that is made of the lowest bytes of sixteen words of a stream. -/
def ofWords (words : Words) (first : Nat) : Uuid :=
  ofRandom (Vector.ofFn fun k => (words (first + k)).toUInt8)

/-! ## The written form -/

/-- The two digits of a byte. -/
def hexPair (byte : UInt8) : List Char :=
  [lowerHexDigit (byte.toNat / 16), lowerHexDigit (byte.toNat % 16)]

/-- How many digits stand between hyphens. -/
def groupSizes : List Nat := [8, 4, 4, 4, 12]

/-- Set digits into groups of the given sizes, with hyphens between them. -/
def hyphenate : List Nat → List Char → List Char
  | [], digits => digits
  | [_], digits => digits
  | size :: sizes, digits => digits.take size ++ '-' :: hyphenate sizes (digits.drop size)

/-- An identifier as it is written. -/
def text (id : Uuid) : String :=
  String.ofList (hyphenate groupSizes (id.bytes.toList.flatMap hexPair))

/-! ## The accepted forms -/

/-- Hexadecimal digits, in either case. -/
def isHexDigit (c : Char) : Bool := c.isDigit || ('a' ≤ c && c ≤ 'f') || ('A' ≤ c && c ≤ 'F')

/-- Whether a text consists of groups of digits of the given sizes, parted by hyphens. -/
def isHyphenated : List Nat → List Char → Bool
  | [], text => text.isEmpty
  | [size], text => text.length == size && text.all isHexDigit
  | size :: sizes, text =>
    let group := text.take size
    group.length == size && group.all isHexDigit &&
      match text.drop size with
      | '-' :: rest => isHyphenated sizes rest
      | _ => false

/-- What follows `urn:uuid:`, written in any case. -/
def afterUrn? (text : List Char) : Option (List Char) :=
  if (text.take 9).map Char.toLower = ['u', 'r', 'n', ':', 'u', 'u', 'i', 'd', ':'] then
    some (text.drop 9)
  else none

/-- What stands between braces. -/
def inBraces? (text : List Char) : Option (List Char) :=
  match text with
  | '\x7b' :: rest => if rest.getLast? = some '\x7d' then some rest.dropLast else none
  | _ => none

/-- Whether a text is an identifier: digits alone, or grouped, and then possibly in braces
or behind `urn:uuid:`. -/
def isAccepted (text : List Char) : Bool :=
  (text.length == 32 && text.all isHexDigit) ||
    isHyphenated groupSizes text ||
    ((inBraces? text).any (isHyphenated groupSizes)) ||
    ((afterUrn? text).any (isHyphenated groupSizes))

end Uuid

end QuizCompiler.Random
