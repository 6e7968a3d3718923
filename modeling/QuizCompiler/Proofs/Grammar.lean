import Mathlib.Data.List.DropRight
import QuizCompiler.Json.Reader

/-! # The grammar of JSON

Which texts are JSON, and which value each of them denotes, said without a reader. The
parts of the reader that take blanks, texts and numbers take all that the grammar allows.
-/

namespace QuizCompiler.Json

open QuizCompiler.Text

/-! ## The grammar -/

/-- A run of blanks. -/
def IsBlank (text : List Char) : Prop := ∀ c ∈ text, c ∈ [' ', '\n', '\r', '\t']

/-- One digit or more. -/
structure IsDigits (text : List Char) : Prop where
  ne_nil : text ≠ []
  digits : ∀ c ∈ text, c.isDigit = true

/-- The digits before the point: a zero, or digits that do not begin with one. -/
def IsWhole (text : List Char) : Prop := text = ['0'] ∨ IsDigits text ∧ text.head? ≠ some '0'

/-- A point with digits, or nothing. -/
def IsFraction (text : List Char) : Prop :=
  text = [] ∨ ∃ digits, text = '.' :: digits ∧ IsDigits digits

/-- A mark, a sign if there is one, and digits, or nothing. -/
def IsExponent (text : List Char) : Prop :=
  text = [] ∨ ∃ mark ∈ ['e', 'E'], ∃ sign ∈ [[], ['+'], ['-']], ∃ digits,
    text = mark :: (sign ++ digits) ∧ IsDigits digits

/-- A number. -/
def IsNumber (text : List Char) : Prop :=
  ∃ sign ∈ [[], ['-']], ∃ whole fraction exponent,
    text = sign ++ (whole ++ (fraction ++ exponent)) ∧
      IsWhole whole ∧ IsFraction fraction ∧ IsExponent exponent

/-- What a backslash and a character stand for. -/
def escapes : List (Char × Char) :=
  [('\x22', '\x22'), ('\\', '\\'), ('/', '/'), ('b', '\x08'), ('f', '\x0c'), ('n', '\n'),
    ('r', '\r'), ('t', '\t')]

/-- What stands between the quotes of a text, and the characters that it spells. -/
inductive Spells : List Char → List Char → Prop
  | nil : Spells [] []
  | plain {c : Char} {spelled chars : List Char} :
    c ≠ '\x22' → c ≠ '\\' → 0x20 ≤ c.toNat → Spells spelled chars →
      Spells (c :: spelled) (c :: chars)
  | escape {letter c : Char} {spelled chars : List Char} :
    (letter, c) ∈ escapes → Spells spelled chars → Spells ('\\' :: letter :: spelled) (c :: chars)
  /-- A number below 2^16 that is no half of a pair. -/
  | unit {a b c d : Char} {unit : Nat} {spelled chars : List Char} :
    fourDigits? a b c d = some unit → unit < 0xD800 ∨ 0xE000 ≤ unit → Spells spelled chars →
      Spells ('\\' :: 'u' :: a :: b :: c :: d :: spelled) (Char.ofNat unit :: chars)
  /-- A number from 2^16 on, given by two halves. -/
  | pair {a b c d a' b' c' d' : Char} {high low : Nat} {spelled chars : List Char} :
    fourDigits? a b c d = some (0xD800 + high) → high < 0x400 →
      fourDigits? a' b' c' d' = some (0xDC00 + low) → low < 0x400 → Spells spelled chars →
      Spells ('\\' :: 'u' :: a :: b :: c :: d :: '\\' :: 'u' :: a' :: b' :: c' :: d' :: spelled)
        (Char.ofNat (0x10000 + high * 0x400 + low) :: chars)

/-- A text between quotes, with blanks around it. -/
inductive DenotesKey : List Char → String → Prop
  | key {before spelled chars after : List Char} :
    IsBlank before → Spells spelled chars → IsBlank after →
      DenotesKey (before ++ '\x22' :: (spelled ++ '\x22' :: after)) (String.ofList chars)

mutual

/-- A value without blanks around it. -/
inductive DenotesBare : List Char → Json → Prop
  | null : DenotesBare ['n', 'u', 'l', 'l'] .null
  | true : DenotesBare ['t', 'r', 'u', 'e'] (.bool true)
  | false : DenotesBare ['f', 'a', 'l', 's', 'e'] (.bool false)
  | number {literal : List Char} :
    IsNumber literal → DenotesBare literal (.number (String.ofList literal))
  | text {spelled chars : List Char} :
    Spells spelled chars →
      DenotesBare ('\x22' :: (spelled ++ ['\x22'])) (.text (String.ofList chars))
  | emptyList {blank : List Char} :
    IsBlank blank → DenotesBare ('[' :: (blank ++ [']'])) (.list [])
  | list {text : List Char} {items : List Json} :
    DenotesItems text items → DenotesBare ('[' :: (text ++ [']'])) (.list items)
  | emptyObject {blank : List Char} :
    IsBlank blank → DenotesBare ('\x7b' :: (blank ++ ['\x7d'])) (.object [])
  | object {text : List Char} {members : List (String × Json)} :
    DenotesMembers text members → DenotesBare ('\x7b' :: (text ++ ['\x7d'])) (.object members)

/-- A value with blanks around it, such as a whole text. -/
inductive Denotes : List Char → Json → Prop
  | blanks {before text after : List Char} {value : Json} :
    IsBlank before → DenotesBare text value → IsBlank after →
      Denotes (before ++ (text ++ after)) value

/-- One item or more, with commas between them. -/
inductive DenotesItems : List Char → List Json → Prop
  | last {text : List Char} {item : Json} : Denotes text item → DenotesItems text [item]
  | more {text rest : List Char} {item : Json} {items : List Json} :
    Denotes text item → DenotesItems rest items →
      DenotesItems (text ++ ',' :: rest) (item :: items)

/-- One member or more, with commas between them. -/
inductive DenotesMembers : List Char → List (String × Json) → Prop
  | last {key text : List Char} {name : String} {value : Json} :
    DenotesKey key name → Denotes text value → DenotesMembers (key ++ ':' :: text) [(name, value)]
  | more {key text rest : List Char} {name : String} {value : Json}
    {members : List (String × Json)} :
    DenotesKey key name → Denotes text value → DenotesMembers rest members →
      DenotesMembers (key ++ ':' :: (text ++ ',' :: rest)) ((name, value) :: members)

end

/-! ## Blanks -/

theorem isJsonBlank_iff {c : Char} : isJsonBlank c = true ↔ c ∈ [' ', '\n', '\r', '\t'] := by
  simp [isJsonBlank, or_assoc]

theorem skipBlank_of_isBlank {blank rest : List Char} (hblank : IsBlank blank) :
    skipBlank (blank ++ rest) = skipBlank rest := by
  apply List.dropWhile_append_of_pos
  intro c hc
  exact isJsonBlank_iff.mpr (hblank c hc)

theorem skipBlank_skipBlank (text : List Char) : skipBlank (skipBlank text) = skipBlank text :=
  List.dropWhile_idempotent _ _

theorem skipBlank_cons {c : Char} {rest : List Char} (hc : isJsonBlank c = false) :
    skipBlank (c :: rest) = c :: rest :=
  List.dropWhile_cons_of_neg (by simp [hc])

/-! ## Texts -/

/-- Each letter of the table is read as the character that it stands for. -/
theorem escapeTarget?_of_mem {letter c : Char} (hescape : (letter, c) ∈ escapes) :
    letter ≠ 'u' ∧ escapeTarget? letter = some c := by
  have hall : ∀ escape ∈ escapes, escape.1 ≠ 'u' ∧ escapeTarget? escape.1 = some escape.2 := by
    decide
  exact hall _ hescape

theorem readTextFrom_plain {c : Char} (done rest : List Char) (hquote : c ≠ '\x22')
    (hslash : c ≠ '\\') (hprintable : 0x20 ≤ c.toNat) :
    readTextFrom none done (c :: rest) = readTextFrom none (c :: done) rest := by
  have hcontrol : ¬ c.toNat < 0x20 := by omega
  rw [readTextFrom]
  · simp [hquote, hslash, hcontrol]
  · intro a b d e rest hc
    exact absurd hc hslash
  · intro d rest hc
    exact absurd hc hslash

theorem readTextFrom_escape {letter c : Char} (done rest : List Char) (hletter : letter ≠ 'u')
    (htarget : escapeTarget? letter = some c) :
    readTextFrom none done ('\\' :: letter :: rest) = readTextFrom none (c :: done) rest := by
  rw [readTextFrom]
  · intro a b d e rest hu
    exact absurd hu hletter
  · exact htarget

/-- Four digits outside of the range of surrogates are read as the character of that number. -/
theorem readTextFrom_unit {a b c d : Char} {unit : Nat} (done rest : List Char)
    (hunit : fourDigits? a b c d = some unit) (hrange : unit < 0xD800 ∨ 0xE000 ≤ unit) :
    readTextFrom none done ('\\' :: 'u' :: a :: b :: c :: d :: rest) =
      readTextFrom none (Char.ofNat unit :: done) rest := by
  have hjoin : joinUnit? none unit = some (.inr (Char.ofNat unit)) := by
    have hhigh : ¬ (0xD800 ≤ unit ∧ unit < 0xDC00) := by omega
    have hlow : ¬ (0xDC00 ≤ unit ∧ unit < 0xE000) := by omega
    simp [joinUnit?, hhigh, hlow]
  simp only [readTextFrom, hunit, Option.bind_some, hjoin]

/-- Two surrogates in the right order are read as one character beyond the first plane. -/
theorem readTextFrom_pair {a b c d a' b' c' d' : Char} {high low : Nat} (done rest : List Char)
    (hhigh : fourDigits? a b c d = some (0xD800 + high)) (hhighRange : high < 0x400)
    (hlow : fourDigits? a' b' c' d' = some (0xDC00 + low)) (hlowRange : low < 0x400) :
    readTextFrom none done ('\\' :: 'u' :: a :: b :: c :: d ::
        '\\' :: 'u' :: a' :: b' :: c' :: d' :: rest) =
      readTextFrom none (Char.ofNat (0x10000 + high * 0x400 + low) :: done) rest := by
  have hfirst : joinUnit? none (0xD800 + high) = some (.inl (0xD800 + high)) := by
    have hrange : 0xD800 + high < 0xDC00 := by omega
    simp [joinUnit?, hrange]
  have hsecond : joinUnit? (some (0xD800 + high)) (0xDC00 + low) =
      some (.inr (Char.ofNat (0x10000 + high * 0x400 + low))) := by
    have hrange : 0xDC00 + low < 0xE000 := by omega
    simp [joinUnit?, hrange]
  simp only [readTextFrom, hhigh, hlow, Option.bind_some, hfirst, hsecond]

/-- A spelled text is read up to its closing quote. -/
theorem readTextFrom_of_spells {spelled chars : List Char} (hspells : Spells spelled chars)
    (done rest : List Char) :
    readTextFrom none done (spelled ++ '\x22' :: rest) =
      some (String.ofList (done.reverse ++ chars), rest) := by
  induction hspells generalizing done with
  | nil => simp [readTextFrom]
  | plain hquote hslash hprintable _ ih =>
      rw [List.cons_append, readTextFrom_plain _ _ hquote hslash hprintable, ih]
      simp
  | escape hescape _ ih =>
      obtain ⟨hletter, htarget⟩ := escapeTarget?_of_mem hescape
      simp only [List.cons_append]
      rw [readTextFrom_escape _ _ hletter htarget, ih]
      simp
  | unit hunit hrange _ ih =>
      simp only [List.cons_append]
      rw [readTextFrom_unit _ _ hunit hrange, ih]
      simp
  | pair hhigh hhighRange hlow hlowRange _ ih =>
      simp only [List.cons_append]
      rw [readTextFrom_pair _ _ hhigh hhighRange hlow hlowRange, ih]
      simp

/-- The text behind a quote is read up to the next quote that is not escaped. -/
theorem readText_of_spells {spelled chars : List Char} (hspells : Spells spelled chars)
    (rest : List Char) :
    readText (spelled ++ '\x22' :: rest) = some (String.ofList chars, rest) :=
  readTextFrom_of_spells hspells [] rest

/-! ## Numbers -/

theorem afterDigits?_append {digits rest : List Char} (hdigits : IsDigits digits)
    (hrest : ∀ c ∈ rest.head?, c.isDigit = false) : afterDigits? (digits ++ rest) = some rest := by
  obtain ⟨hne, hall⟩ := hdigits
  cases digits with
  | nil => exact absurd rfl hne
  | cons c digits =>
      have hstop : rest.dropWhile Char.isDigit = rest := by
        cases rest with
        | nil => rfl
        | cons d rest => exact List.dropWhile_cons_of_neg (by simp [hrest d rfl])
      have hskip : (digits ++ rest).dropWhile Char.isDigit = rest := by
        rw [List.dropWhile_append_of_pos fun d hd => hall d (List.mem_cons_of_mem _ hd), hstop]
      simp only [List.cons_append, afterDigits?, hall c List.mem_cons_self, if_true, hskip]

theorem afterWhole?_append {whole rest : List Char} (hwhole : IsWhole whole)
    (hrest : ∀ c ∈ rest.head?, c.isDigit = false) : afterWhole? (whole ++ rest) = some rest := by
  rcases hwhole with rfl | ⟨hdigits, hzero⟩
  · rfl
  · rw [afterWhole?]
    · exact afterDigits?_append hdigits hrest
    · intro tail htail
      cases whole with
      | nil => exact hdigits.ne_nil rfl
      | cons c whole =>
          obtain ⟨rfl, -⟩ := List.cons.inj htail
          exact hzero rfl

/-- An exponent, where there is one, begins with neither a digit nor a point. -/
theorem IsExponent.head {exponent : List Char} (hexponent : IsExponent exponent) :
    ∀ c ∈ exponent.head?, c.isDigit = false ∧ c ≠ '.' := by
  rcases hexponent with rfl | ⟨mark, hmark, sign, -, digits, rfl, -⟩
  · simp
  · have hall : ∀ mark ∈ ['e', 'E'], mark.isDigit = false ∧ mark ≠ '.' := by simp
    simpa using hall mark hmark

theorem afterFraction?_append {fraction exponent : List Char} (hfraction : IsFraction fraction)
    (hexponent : IsExponent exponent) :
    afterFraction? (fraction ++ exponent) = some exponent := by
  rcases hfraction with rfl | ⟨digits, rfl, hdigits⟩
  · rw [List.nil_append, afterFraction?]
    rintro rest rfl
    exact (hexponent.head '.' rfl).2 rfl
  · exact afterDigits?_append hdigits fun c hc => (hexponent.head c hc).1

theorem afterExponent?_eq {exponent : List Char} (hexponent : IsExponent exponent) :
    afterExponent? exponent = some [] := by
  rcases hexponent with rfl | ⟨mark, hmark, sign, hsign, digits, rfl, hdigits⟩
  · rfl
  · have hend : afterDigits? (digits ++ []) = some [] := afterDigits?_append hdigits (by simp)
    rw [List.append_nil] at hend
    have hmark : (mark = 'e' || mark = 'E') = true := by simpa using hmark
    simp only [List.mem_cons, List.not_mem_nil, or_false] at hsign
    simp only [afterExponent?, hmark, if_true]
    rcases hsign with rfl | rfl | rfl
    · -- without a sign the digits follow at once
      cases digits with
      | nil => exact absurd rfl hdigits.ne_nil
      | cons d digits =>
          have hd := hdigits.digits d List.mem_cons_self
          rw [List.nil_append]
          split
          next heq =>
            obtain ⟨rfl, -⟩ := List.cons.inj heq
            cases hd
          next heq =>
            obtain ⟨rfl, -⟩ := List.cons.inj heq
            cases hd
          next => exact hend
    · exact hend
    · exact hend

theorem IsWhole.head {whole : List Char} (hwhole : IsWhole whole) :
    ∃ c rest, whole = c :: rest ∧ c.isDigit = true := by
  rcases hwhole with rfl | ⟨hdigits, -⟩
  · exact ⟨'0', [], rfl, rfl⟩
  · obtain ⟨c, rest, rfl⟩ := List.exists_cons_of_ne_nil hdigits.ne_nil
    exact ⟨c, rest, rfl, hdigits.digits c List.mem_cons_self⟩

/-- Every number of the grammar is read to its end. -/
theorem afterNumber?_eq {text : List Char} (hnumber : IsNumber text) :
    afterNumber? text = some [] := by
  obtain ⟨sign, hsign, whole, fraction, exponent, rfl, hwhole, hfraction, hexponent⟩ := hnumber
  have hrest : ∀ c ∈ (fraction ++ exponent).head?, c.isDigit = false := by
    rcases hfraction with rfl | ⟨digits, rfl, -⟩
    · exact fun c hc => (hexponent.head c hc).1
    · simp
  simp only [List.mem_cons, List.not_mem_nil, or_false] at hsign
  have hunsigned : (do afterExponent? (← afterFraction? (←
      afterWhole? (whole ++ (fraction ++ exponent))))) = some [] := by
    simp only [afterWhole?_append hwhole hrest, afterFraction?_append hfraction hexponent,
      afterExponent?_eq hexponent, Option.bind_eq_bind, Option.bind_some]
  rcases hsign with rfl | rfl
  · obtain ⟨c, tail, rfl, hc⟩ := hwhole.head
    rw [List.nil_append, afterNumber?]
    · exact hunsigned
    · intro rest hminus
      obtain ⟨rfl, -⟩ := List.cons.inj hminus
      cases hc
  · exact hunsigned

/-- The characters of a number are those that a reader of numbers takes. -/
theorem IsNumber.isNumberChar {text : List Char} (hnumber : IsNumber text) :
    ∀ c ∈ text, isNumberChar c = true := by
  have hdigit {digits : List Char} (hdigits : IsDigits digits) :
      ∀ c ∈ digits, Json.isNumberChar c = true := by
    intro c hc
    simp [Json.isNumberChar, hdigits.digits c hc]
  obtain ⟨sign, hsign, whole, fraction, exponent, rfl, hwhole, hfraction, hexponent⟩ := hnumber
  intro c hc
  simp only [List.mem_append] at hc
  -- in the sign, the whole part, the fraction or the exponent
  rcases hc with hc | hc | hc | hc
  · have hall : ∀ sign ∈ [[], ['-']], ∀ c ∈ sign, Json.isNumberChar c = true := by
      simp [Json.isNumberChar]
    exact hall sign hsign c hc
  · rcases hwhole with rfl | ⟨hdigits, -⟩
    · obtain rfl := List.mem_singleton.mp hc
      rfl
    · exact hdigit hdigits c hc
  · rcases hfraction with rfl | ⟨digits, rfl, hdigits⟩
    · cases hc
    · rcases List.mem_cons.mp hc with rfl | hc
      · rfl
      · exact hdigit hdigits c hc
  · rcases hexponent with rfl | ⟨mark, hmark, sign, hsign, digits, rfl, hdigits⟩
    · cases hc
    · have hmarks : ∀ mark ∈ ['e', 'E'], Json.isNumberChar mark = true := by
        simp [Json.isNumberChar]
      have hsigns : ∀ sign ∈ [[], ['+'], ['-']], ∀ c ∈ sign, Json.isNumberChar c = true := by
        simp [Json.isNumberChar]
      rcases List.mem_cons.mp hc with rfl | hc
      · exact hmarks c hmark
      · rcases List.mem_append.mp hc with hc | hc
        · exact hsigns sign hsign c hc
        · exact hdigit hdigits c hc

theorem IsNumber.head {text : List Char} (hnumber : IsNumber text) :
    ∃ c rest, text = c :: rest ∧ (c.isDigit = true ∨ c = '-') := by
  obtain ⟨sign, hsign, whole, fraction, exponent, rfl, hwhole, -, -⟩ := hnumber
  simp only [List.mem_cons, List.not_mem_nil, or_false] at hsign
  rcases hsign with rfl | rfl
  · obtain ⟨c, tail, rfl, hc⟩ := hwhole.head
    exact ⟨c, _, rfl, .inl hc⟩
  · exact ⟨'-', _, rfl, .inr rfl⟩

/-- What may follow a number. -/
def EndsNumber (rest : List Char) : Prop := ∀ c ∈ rest.head?, isNumberChar c = false

/-- A number ends where something else than the signs of numbers follows. -/
theorem readNumber_append {literal rest : List Char} (hnumber : IsNumber literal)
    (hrest : EndsNumber rest) :
    readNumber (literal ++ rest) = some (.number (String.ofList literal), rest) := by
  have hchars := hnumber.isNumberChar
  have htake : (literal ++ rest).takeWhile isNumberChar = literal := by
    rw [List.takeWhile_append_of_pos hchars]
    cases rest with
    | nil => simp
    | cons c rest => simp [hrest c rfl]
  have hdrop : (literal ++ rest).dropWhile isNumberChar = rest := by
    rw [List.dropWhile_append_of_pos hchars]
    cases rest with
    | nil => rfl
    | cons c rest => simp [hrest c rfl]
  simp only [readNumber, htake, hdrop, afterNumber?_eq hnumber, if_true]

end QuizCompiler.Json
