import QuizCompiler.Markdown.Event
import QuizCompiler.Proofs.Trimming

/-! # Plain text

Words of ASCII letters and digits, parted by single spaces, are no markup: such a text is
its own inline content, begins no block but a paragraph, and has nothing to be trimmed.
-/

namespace QuizCompiler.Text

/-- A word of ASCII letters and digits that begins with a letter. -/
def IsWord (word : String) : Prop :=
  word.toList.head?.any Char.isAlpha = true ∧ word.toList.all isAsciiAlnum = true

instance (word : String) : Decidable (IsWord word) := inferInstanceAs (Decidable (_ ∧ _))

/-- One or more words, joined by single spaces. -/
def IsPlain (text : String) : Prop :=
  ∃ words : List String, words ≠ [] ∧ (∀ word ∈ words, IsWord word) ∧
    text = " ".intercalate words

/-! ## Letters and digits -/

theorem isAsciiAlnum_of_isAlpha {c : Char} (hc : c.isAlpha = true) : isAsciiAlnum c = true := by
  simp [isAsciiAlnum, hc]

/-- A letter or digit is none of the signs that mean something to markdown. -/
theorem ne_of_isAsciiAlnum {c : Char} (hc : isAsciiAlnum c = true) {sign : Char}
    (hsign : isAsciiAlnum sign = false) : c ≠ sign := by
  rintro rfl
  rw [hsign] at hc
  cases hc

theorem toNat_of_isAlpha {c : Char} (hc : c.isAlpha = true) :
    (65 ≤ c.toNat ∧ c.toNat ≤ 90) ∨ (97 ≤ c.toNat ∧ c.toNat ≤ 122) := by
  rcases Bool.or_eq_true_iff.mp hc with hupper | hlower
  · have hcodes : 65 ≤ c.val ∧ c.val ≤ 90 := of_decide_eq_true hupper
    exact Or.inl hcodes
  · have hcodes : 97 ≤ c.val ∧ c.val ≤ 122 := by simpa using Bool.and_eq_true_iff.mp hlower
    exact Or.inr hcodes

theorem toNat_of_isAsciiAlnum {c : Char} (hc : isAsciiAlnum c = true) :
    48 ≤ c.toNat ∧ c.toNat ≤ 122 := by
  rcases Bool.or_eq_true_iff.mp hc with hdigit | halpha
  · have hcodes : 48 ≤ c.toNat ∧ c.toNat ≤ 57 := Char.isDigit_iff_toNat.mp hdigit
    omega
  · have hcodes := toNat_of_isAlpha halpha
    omega

theorem isDigit_of_isAlpha {c : Char} (hc : c.isAlpha = true) : c.isDigit = false := by
  have hcodes := toNat_of_isAlpha hc
  rw [← Bool.not_eq_true, Char.isDigit_iff_toNat]
  change ¬ (48 ≤ c.toNat ∧ c.toNat ≤ 57)
  omega

theorem isBlank_of_isAsciiAlnum {c : Char} (hc : isAsciiAlnum c = true) : isBlank c = false := by
  obtain ⟨hlow, hhigh⟩ := toNat_of_isAsciiAlnum hc
  simp only [isBlank, Bool.or_eq_false_iff, Bool.and_eq_false_iff, decide_eq_false_iff_not,
    beq_eq_false_iff_ne]
  omega

theorem isInlineBlank_of_isAsciiAlnum {c : Char} (hc : isAsciiAlnum c = true) :
    isInlineBlank c = false := by
  simp only [isInlineBlank, Bool.or_eq_false_iff, beq_eq_false_iff_ne]
  exact ⟨⟨⟨ne_of_isAsciiAlnum hc rfl, ne_of_isAsciiAlnum hc rfl⟩, ne_of_isAsciiAlnum hc rfl⟩,
    ne_of_isAsciiAlnum hc rfl⟩

/-! ## Spaced text -/

/-- Letters and digits with single spaces between them, but none at either end. -/
inductive Spaced : List Char → Prop
  | last {c : Char} (hc : isAsciiAlnum c = true) : Spaced [c]
  | char {c : Char} {rest : List Char} (hc : isAsciiAlnum c = true) (hrest : Spaced rest) :
      Spaced (c :: rest)
  | gap {c : Char} {rest : List Char} (hc : isAsciiAlnum c = true) (hrest : Spaced rest) :
      Spaced (c :: ' ' :: rest)

namespace Spaced

variable {text : List Char}

theorem head (hspaced : Spaced text) :
    ∃ c rest, text = c :: rest ∧ isAsciiAlnum c = true := by
  cases hspaced with
  | last hc => exact ⟨_, _, rfl, hc⟩
  | char hc _ => exact ⟨_, _, rfl, hc⟩
  | gap hc _ => exact ⟨_, _, rfl, hc⟩

theorem last_char (hspaced : Spaced text) :
    ∃ init c, text = init ++ [c] ∧ isAsciiAlnum c = true := by
  induction hspaced with
  | last hc => exact ⟨[], _, rfl, hc⟩
  | @char c _ _ _ ih =>
      obtain ⟨init, last, rfl, hlast⟩ := ih
      exact ⟨c :: init, last, rfl, hlast⟩
  | @gap c _ _ _ ih =>
      obtain ⟨init, last, rfl, hlast⟩ := ih
      exact ⟨c :: ' ' :: init, last, rfl, hlast⟩

theorem alnum_or_space (hspaced : Spaced text) :
    ∀ c ∈ text, isAsciiAlnum c = true ∨ c = ' ' := by
  induction hspaced with
  | last hc => simpa using Or.inl hc
  | char hc _ ih => simpa using ⟨Or.inl hc, ih⟩
  | gap hc _ ih => simpa using ⟨Or.inl hc, ih⟩

/-- No sign of markdown is in a spaced text. -/
theorem not_mem (hspaced : Spaced text) {sign : Char} (hsign : isAsciiAlnum sign = false)
    (hspace : sign ≠ ' ') : sign ∉ text := by
  intro hmem
  rcases hspaced.alnum_or_space sign hmem with halnum | rfl
  · exact ne_of_isAsciiAlnum halnum hsign rfl
  · exact hspace rfl

/-- What no letter or digit passes drops nothing from the front of a spaced text. -/
theorem dropWhile_eq (hspaced : Spaced text) {p : Char → Bool}
    (hp : ∀ c, isAsciiAlnum c = true → p c = false) : text.dropWhile p = text := by
  obtain ⟨c, rest, rfl, hc⟩ := hspaced.head
  exact List.dropWhile_cons_of_neg (by simp [hp c hc])

theorem dropTrailing_eq (hspaced : Spaced text) {p : Char → Bool}
    (hp : ∀ c, isAsciiAlnum c = true → p c = false) : dropTrailing p text = text := by
  obtain ⟨init, c, rfl, hc⟩ := hspaced.last_char
  exact dropTrailing_of_last (hp c hc)

theorem trimmed {text : String} (hspaced : Spaced text.toList) : Trimmed text := by
  refine ⟨fun c hc => ?_, fun c hc => ?_⟩
  · obtain ⟨first, rest, htext, hfirst⟩ := hspaced.head
    rw [htext] at hc
    obtain rfl := Option.some.inj hc
    exact isBlank_of_isAsciiAlnum hfirst
  · obtain ⟨init, last, htext, hlast⟩ := hspaced.last_char
    obtain rfl : last = c := by simpa [htext] using hc
    exact isBlank_of_isAsciiAlnum hlast

theorem of_alnum {c : Char} {rest : List Char}
    (halnum : ∀ d ∈ c :: rest, isAsciiAlnum d = true) : Spaced (c :: rest) := by
  induction rest generalizing c with
  | nil => exact .last (halnum c List.mem_cons_self)
  | cons d rest ih =>
      exact .char (halnum c List.mem_cons_self)
        (ih fun e he => halnum e (List.mem_cons_of_mem _ he))

theorem join {other : List Char} (hspaced : Spaced text) (hother : Spaced other) :
    Spaced (text ++ ' ' :: other) := by
  induction hspaced with
  | last hc => exact .gap hc hother
  | char hc _ ih => exact .char hc ih
  | gap hc _ ih => exact .gap hc ih

end Spaced

theorem IsWord.cons {word : String} (hword : IsWord word) :
    ∃ c rest, word.toList = c :: rest ∧ c.isAlpha = true ∧
      ∀ d ∈ c :: rest, isAsciiAlnum d = true := by
  obtain ⟨hhead, halnum⟩ := hword
  cases hlist : word.toList with
  | nil => simp [hlist] at hhead
  | cons c rest =>
      rw [hlist] at hhead halnum
      exact ⟨c, rest, rfl, hhead, List.all_eq_true.mp halnum⟩

namespace IsPlain

variable {text : String}

/-- Plain text is spaced: its words are letters and digits. -/
theorem spaced (hplain : IsPlain text) : Spaced text.toList := by
  obtain ⟨words, hne, hwords, rfl⟩ := hplain
  rw [String.toList_intercalate]
  induction words with
  | nil => exact absurd rfl hne
  | cons word rest ih =>
      have hword : Spaced word.toList := by
        obtain ⟨c, more, hlist, -, halnum⟩ := (hwords word List.mem_cons_self).cons
        rw [hlist]
        exact .of_alnum halnum
      cases rest with
      | nil => simpa using hword
      | cons next rest =>
          have hrest := ih (by simp) fun other hother =>
            hwords other (List.mem_cons_of_mem _ hother)
          simpa using hword.join hrest

/-- A plain text begins with a letter, not with a digit. -/
theorem head (hplain : IsPlain text) : ∃ c rest, text.toList = c :: rest ∧ c.isAlpha = true := by
  obtain ⟨words, hne, hwords, rfl⟩ := hplain
  rw [String.toList_intercalate]
  cases words with
  | nil => exact absurd rfl hne
  | cons word rest =>
      obtain ⟨c, more, hlist, hc, -⟩ := (hwords word List.mem_cons_self).cons
      cases rest with
      | nil => exact ⟨c, more, by simp [hlist], hc⟩
      | cons next rest => exact ⟨c, _, by simp [hlist]; rfl, hc⟩

theorem trimmed (hplain : IsPlain text) : Trimmed text := hplain.spaced.trimmed

theorem ne_empty (hplain : IsPlain text) : text ≠ "" := by
  rintro rfl
  obtain ⟨c, rest, htext, -⟩ := hplain.head
  cases htext

end IsPlain

end QuizCompiler.Text

namespace QuizCompiler.Markdown

open QuizCompiler.Text

/-! ## Plain text as markdown -/

section Reading

variable {definitions : Definitions} {before : Option Char} {rest : List Char} {r : Reading}

/-- Text goes to the end of the latest text, be it empty. -/
theorem Reading.addText_eq (r : Reading) :
    ∃ before others, ∀ content,
      r.addText content = ⟨.done (.text (before ++ content)) :: others, r.brackets, r.margins⟩ := by
  unfold addText
  split
  next before others _ => exact ⟨before, others, fun _ => rfl⟩
  next => exact ⟨[], r.pieces, fun _ => rfl⟩

/-- Text that is added piece by piece makes up one piece. -/
theorem Reading.addText_addText (first second : List Char) (r : Reading) :
    (r.addText first).addText second = r.addText (first ++ second) := by
  obtain ⟨before, others, hadd⟩ := r.addText_eq
  rw [hadd, hadd, ← List.append_assoc]
  rfl

/-- A letter or digit is text, whatever stands around it. -/
theorem step_of_isAsciiAlnum {c : Char} (hc : isAsciiAlnum c = true) :
    step definitions before c rest r = (r.addText [c], 0) := by
  have hne (sign : Char) (hsign : isAsciiAlnum sign = false) : c ≠ sign :=
    ne_of_isAsciiAlnum hc hsign
  -- every branch of a step but the last is for a sign
  simp [step, isInlineBlank_of_isAsciiAlnum hc, hne '\\' rfl, hne '\x60' rfl, hne '<' rfl,
    hne '[' rfl, hne '!' rfl, hne ']' rfl, hne '&' rfl, hne '*' rfl, hne '_' rfl, hne '~' rfl,
    hne '\n' rfl]

/-- A space before a letter or digit is text: no line ends behind it. -/
theorem step_space (hrest : Spaced rest) :
    step definitions before ' ' rest r = (r.addText [' '], 0) := by
  obtain ⟨c, more, rfl, hc⟩ := hrest.head
  have hmore : (c :: more).takeWhile isInlineBlank = [] := by
    simp [isInlineBlank_of_isAsciiAlnum hc]
  have hstep : step definitions before ' ' (c :: more) r = stepBlank ' ' (c :: more) r := rfl
  -- only a line end after the space would not make it text
  rw [hstep, stepBlank, hmore]
  simp only [List.length_nil, List.drop_zero]
  split
  next after heq => exact absurd (List.cons.inj heq).1 (ne_of_isAsciiAlnum hc rfl)
  next => rfl

/-- Spaced text is read as it stands. -/
theorem readFrom_of_spaced {text : List Char} (hspaced : Spaced text) :
    readFrom definitions 0 before text r = r.addText text := by
  induction hspaced generalizing before r with
  | last hc =>
      rw [readFrom, step_of_isAsciiAlnum hc]
      rfl
  | char hc _ ih =>
      rw [readFrom, step_of_isAsciiAlnum hc]
      exact ih.trans (Reading.addText_addText _ _ r)
  | gap hc hrest ih =>
      rw [readFrom, step_of_isAsciiAlnum hc]
      change readFrom _ 0 _ (' ' :: _) _ = _
      rw [readFrom, step_space hrest]
      rw [Reading.addText_addText]
      exact ih.trans (Reading.addText_addText _ _ r)

end Reading

/-- Spaced text is its own content. -/
theorem Prose.content_of_spaced {definitions : Definitions} {text : List Char}
    (hspaced : Spaced text) : (Prose.ofLine text).content definitions = [.text text] := by
  rw [content, ofLine, readFrom_of_spaced hspaced]
  rfl

/-- No closing signs have to be taken off a heading of spaced text. -/
theorem atxContent_of_spaced {text : List Char} (hspaced : Spaced text) :
    atxContent (' ' :: text) = text := by
  have hlead : (' ' :: text).dropWhile isInlineBlank = text := by
    rw [List.dropWhile_cons_of_pos rfl]
    exact hspaced.dropWhile_eq fun c hc => isInlineBlank_of_isAsciiAlnum hc
  have htrail (sign : Char) (hsign : isAsciiAlnum sign = false) :
      dropTrailing (· == sign) text = text :=
    hspaced.dropTrailing_eq fun c hc => beq_false_of_ne (ne_of_isAsciiAlnum hc hsign)
  unfold atxContent
  rw [hlead]
  -- there is no closing run of number signs either
  simp only [htrail ' ' rfl, htrail '#' rfl]
  obtain ⟨init, c, rfl, hc⟩ := hspaced.last_char
  rw [if_neg (by simp), if_neg (by simpa using ne_of_isAsciiAlnum hc rfl)]

end QuizCompiler.Markdown
