import Mathlib.Data.List.Basic
import QuizCompiler.Quiz.Name

/-! # The forms of identifiers

An identifier is accepted in four forms, which differ in length and in where they have hyphens.
None of them begins like the mark of supplements, so a name can be read in one way at most.
-/

namespace QuizCompiler.Text

theorem after?_eq_some_iff {lead text rest : List Char} :
    after? lead text = some rest ↔ text = lead ++ rest := by
  induction lead generalizing text with
  | nil => simp [after?, eq_comm]
  | cons c lead ih =>
      cases text with
      | nil => simp [after?]
      | cons d text =>
          by_cases hcd : c = d
          · simp [after?, hcd, ih]
          · simp [after?, hcd, Ne.symm hcd]

/-- Only a letter itself and its capital letter have it as lower case. -/
theorem eq_toLower_or_eq_toUpper (c : Char) : c = c.toLower ∨ c = c.toLower.toUpper := by
  have hraise {d : Char} (hd : 'a'.val ≤ d.val ∧ d.val ≤ 'z'.val) :
      d.toUpper.val = d.val + ('A'.val - 'a'.val) := by
    delta Char.toUpper
    rw [dif_pos hd]
  by_cases hupper : c.val ≥ 'A'.val ∧ c.val ≤ 'Z'.val
  · right
    have hlower : c.toLower.val = c.val + 32 := congrArg Char.val (dif_pos hupper)
    have hfirst : 65 ≤ c.val.toNat := UInt32.le_iff_toNat_le.mp hupper.1
    have hlast : c.val.toNat ≤ 90 := UInt32.le_iff_toNat_le.mp hupper.2
    have hcode : c.toLower.val.toNat = c.val.toNat + 32 := by
      rw [hlower, UInt32.toNat_add]
      exact Nat.mod_eq_of_lt (Nat.lt_of_le_of_lt (Nat.add_le_add_right hlast 32) (by decide))
    have hletter : 'a'.val ≤ c.toLower.val ∧ c.toLower.val ≤ 'z'.val := by
      rw [UInt32.le_iff_toNat_le, UInt32.le_iff_toNat_le, hcode]
      exact ⟨Nat.add_le_add_right hfirst 32, Nat.add_le_add_right hlast 32⟩
    -- the distance between the two cases is added and taken off again
    apply Char.ext
    rw [hraise hletter, hlower, UInt32.add_assoc]
    exact (UInt32.add_zero c.val).symm
  · left
    have hsame : c.toLower = c := dif_neg hupper
    exact hsame.symm

/-- Characters of ASCII take one byte each. -/
theorem utf8ByteSize_of_ascii {s : String} (hascii : ∀ c ∈ s.toList, c.toNat < 128) :
    s.utf8ByteSize = s.toList.length := by
  induction s using String.push_induction with
  | empty => rfl
  | push s c ih =>
      rw [String.toList_push] at hascii ⊢
      have hc : c.utf8Size = 1 := by
        rw [Char.utf8Size_eq_one_iff, UInt32.le_iff_toNat_le]
        exact Nat.le_of_lt_succ (hascii c (by simp))
      rw [String.utf8ByteSize_push, hc, ih fun d hd => hascii d (by simp [hd]), List.length_append]
      rfl

end QuizCompiler.Text

namespace QuizCompiler.Random.Uuid

open QuizCompiler.Text

/-! ## The forms -/

/-- So many hexadecimal digits, each in either case. -/
structure IsDigits (size : Nat) (digits : List Char) : Prop where
  length : digits.length = size
  all : ∀ c ∈ digits, isHexDigit c = true

/-- Groups of digits of the given sizes, with hyphens between them. -/
inductive IsGrouped : List Nat → List Char → Prop
  | nil : IsGrouped [] []
  | last {size : Nat} {group : List Char} (hgroup : IsDigits size group) : IsGrouped [size] group
  | more {size next : Nat} {sizes : List Nat} {group rest : List Char}
      (hgroup : IsDigits size group) (hrest : IsGrouped (next :: sizes) rest) :
      IsGrouped (size :: next :: sizes) (group ++ '-' :: rest)

/-- The forms in which an identifier is accepted. -/
inductive IsForm : List Char → Prop
  | digits {text : List Char} (hdigits : IsDigits 32 text) : IsForm text
  | grouped {text : List Char} (hgrouped : IsGrouped [8, 4, 4, 4, 12] text) : IsForm text
  | braced {text : List Char} (hgrouped : IsGrouped [8, 4, 4, 4, 12] text) :
      IsForm ('\x7b' :: (text ++ ['\x7d']))
  | urn {lead text : List Char} (hlead : lead.map Char.toLower = "urn:uuid:".toList)
      (hgrouped : IsGrouped [8, 4, 4, 4, 12] text) : IsForm (lead ++ text)

/-! ## Acceptance -/

theorem isDigits_iff {size : Nat} {text : List Char} :
    (text.length == size && text.all isHexDigit) = true ↔ IsDigits size text := by
  rw [Bool.and_eq_true, beq_iff_eq, List.all_eq_true]
  exact ⟨fun h => ⟨h.1, h.2⟩, fun h => ⟨h.length, h.all⟩⟩

/-- A group ends at the first hyphen, since digits are none. -/
theorem isHyphenated_cons_iff {size next : Nat} {sizes : List Nat} {text : List Char} :
    isHyphenated (size :: next :: sizes) text = true ↔
      ∃ group rest, text = group ++ '-' :: rest ∧ IsDigits size group ∧
        isHyphenated (next :: sizes) rest = true := by
  rw [isHyphenated, Bool.and_eq_true, isDigits_iff]
  · constructor
    · rintro ⟨hgroup, hmatch⟩
      split at hmatch
      next rest hdrop =>
        exact ⟨text.take size, rest, by rw [← hdrop, List.take_append_drop], hgroup, hmatch⟩
      next => cases hmatch
    · rintro ⟨group, rest, rfl, hgroup, hrest⟩
      rw [List.take_left' hgroup.length, List.drop_left' hgroup.length]
      exact ⟨hgroup, hrest⟩
  · exact List.cons_ne_nil next sizes

/-- Groups are accepted just if they are digits of the right number with hyphens between them. -/
theorem isHyphenated_iff {sizes : List Nat} {text : List Char} :
    isHyphenated sizes text = true ↔ IsGrouped sizes text := by
  induction sizes generalizing text with
  | nil =>
      rw [isHyphenated, List.isEmpty_iff]
      constructor
      · rintro rfl
        exact .nil
      · intro hgrouped
        cases hgrouped
        rfl
  | cons size sizes ih =>
      -- no hyphen follows the last group
      cases sizes with
      | nil =>
          rw [isHyphenated, isDigits_iff]
          constructor
          · exact .last
          · intro hgrouped
            cases hgrouped
            assumption
      | cons next sizes =>
          rw [isHyphenated_cons_iff]
          constructor
          · rintro ⟨group, rest, rfl, hgroup, hrest⟩
            exact .more hgroup (ih.mp hrest)
          · intro hgrouped
            cases hgrouped with
            | more hgroup hrest => exact ⟨_, _, rfl, hgroup, ih.mpr hrest⟩

theorem inBraces?_eq_some_iff {text inner : List Char} :
    inBraces? text = some inner ↔ text = '\x7b' :: (inner ++ ['\x7d']) := by
  constructor
  · intro hbraces
    unfold inBraces? at hbraces
    split at hbraces
    next rest =>
      split at hbraces
      next hlast =>
        obtain ⟨front, rfl⟩ := List.getLast?_eq_some_iff.mp hlast
        rw [List.dropLast_concat] at hbraces
        rw [Option.some.inj hbraces]
      next => cases hbraces
    next => cases hbraces
  · rintro rfl
    simp [inBraces?]

theorem length_of_lead {lead : List Char} (hlead : lead.map Char.toLower = "urn:uuid:".toList) :
    lead.length = 9 := by
  rw [← List.length_map Char.toLower, hlead]
  rfl

/-- The lead of a resource name counts in lower case, in upper case, or mixed. -/
theorem afterUrn?_eq_some_iff {text inner : List Char} :
    afterUrn? text = some inner ↔
      ∃ lead, lead.map Char.toLower = "urn:uuid:".toList ∧ text = lead ++ inner := by
  constructor
  · intro hurn
    unfold afterUrn? at hurn
    split at hurn
    next hlead =>
      rw [← Option.some.inj hurn]
      exact ⟨text.take 9, hlead, (List.take_append_drop 9 text).symm⟩
    next => cases hurn
  · rintro ⟨lead, hlead, rfl⟩
    rw [afterUrn?, List.take_left' (length_of_lead hlead), List.drop_left' (length_of_lead hlead)]
    exact if_pos hlead

/-- What is accepted are the four forms and nothing else. -/
theorem isAccepted_iff {text : List Char} : isAccepted text = true ↔ IsForm text := by
  simp only [isAccepted, Bool.or_eq_true, isDigits_iff, Option.any_eq_true, isHyphenated_iff,
    inBraces?_eq_some_iff, afterUrn?_eq_some_iff, groupSizes]
  constructor
  · rintro (((hdigits | hgrouped) | ⟨inner, rfl, hgrouped⟩) | ⟨inner, ⟨lead, hlead, rfl⟩, hgrouped⟩)
    · exact .digits hdigits
    · exact .grouped hgrouped
    · exact .braced hgrouped
    · exact .urn hlead hgrouped
  · intro hform
    cases hform with
    | digits hdigits => exact .inl (.inl (.inl hdigits))
    | grouped hgrouped => exact .inl (.inl (.inr hgrouped))
    | braced hgrouped => exact .inl (.inr ⟨_, rfl, hgrouped⟩)
    | urn hlead hgrouped => exact .inr ⟨_, ⟨_, hlead, rfl⟩, hgrouped⟩

instance (text : List Char) : Decidable (IsForm text) := decidable_of_iff _ isAccepted_iff

/-! ## Characters -/

/-- The characters of identifiers that are no digits. -/
def signs : List Char := ['-', '\x7b', '\x7d'] ++ "urn:uuid:".toList ++ "URN:UUID:".toList

theorem ascii_of_isHexDigit {c : Char} (hc : isHexDigit c = true) : c.toNat < 128 := by
  simp only [isHexDigit, Bool.or_eq_true, Bool.and_eq_true, decide_eq_true_eq] at hc
  rcases hc with (hdigit | ⟨-, hlast⟩) | ⟨-, hlast⟩
  · have hcodes : 48 ≤ c.toNat ∧ c.toNat ≤ 57 := Char.isDigit_iff_toNat.mp hdigit
    omega
  · have hcode : c.toNat ≤ 102 := hlast
    omega
  · have hcode : c.toNat ≤ 70 := hlast
    omega

theorem IsGrouped.char {sizes : List Nat} {text : List Char} (hgrouped : IsGrouped sizes text) :
    ∀ c ∈ text, isHexDigit c = true ∨ c = '-' := by
  induction hgrouped with
  | nil => simp
  | last hgroup => exact fun c hc => .inl (hgroup.all c hc)
  | more hgroup _ ih =>
      intro c hc
      rcases List.mem_append.mp hc with hc | hc
      · exact .inl (hgroup.all c hc)
      · rcases List.mem_cons.mp hc with rfl | hc
        · exact .inr rfl
        · exact ih c hc

theorem mem_of_mem_lead {lead : List Char} (hlead : lead.map Char.toLower = "urn:uuid:".toList)
    {c : Char} (hc : c ∈ lead) : c ∈ "urn:uuid:".toList ∨ c ∈ "URN:UUID:".toList := by
  have hlower : c.toLower ∈ "urn:uuid:".toList := hlead ▸ List.mem_map_of_mem hc
  rcases eq_toLower_or_eq_toUpper c with heq | heq
  · exact .inl (heq ▸ hlower)
  · right
    have hupper : "URN:UUID:".toList = "urn:uuid:".toList.map Char.toUpper := by decide
    rw [heq, hupper]
    exact List.mem_map_of_mem hlower

/-- All four forms are made of digits, hyphens, braces and the letters of the lead. -/
theorem IsForm.char {text : List Char} (hform : IsForm text) :
    ∀ c ∈ text, isHexDigit c = true ∨ c ∈ signs := by
  have hgroups {text : List Char} (hgrouped : IsGrouped [8, 4, 4, 4, 12] text) :
      ∀ c ∈ text, isHexDigit c = true ∨ c ∈ signs := by
    intro c hc
    rcases hgrouped.char c hc with hdigit | rfl
    · exact .inl hdigit
    · exact .inr (by simp [signs])
  intro c hc
  cases hform with
  | digits hdigits => exact .inl (hdigits.all c hc)
  | grouped hgrouped => exact hgroups hgrouped c hc
  | braced hgrouped =>
      rcases List.mem_cons.mp hc with rfl | hc
      · exact .inr (by simp [signs])
      · rcases List.mem_append.mp hc with hc | hc
        · exact hgroups hgrouped c hc
        · obtain rfl := List.mem_singleton.mp hc
          exact .inr (by simp [signs])
  | urn hlead hgrouped =>
      rcases List.mem_append.mp hc with hc | hc
      · rcases mem_of_mem_lead hlead hc with hc | hc
        · exact .inr (List.mem_append_left _ (List.mem_append_right _ hc))
        · exact .inr (List.mem_append_right _ hc)
      · exact hgroups hgrouped c hc

/-- No form has a character outside of ASCII, so that characters are bytes. -/
theorem IsForm.ascii {text : List Char} (hform : IsForm text) : ∀ c ∈ text, c.toNat < 128 := by
  have hsigns : ∀ c ∈ signs, c.toNat < 128 := by simp [signs]
  intro c hc
  rcases hform.char c hc with hdigit | hsign
  · exact ascii_of_isHexDigit hdigit
  · exact hsigns c hsign

/-! ## Layouts -/

/-- Where the hyphens between groups of the given sizes stand if the first begins at `start`. -/
def hyphenPlaces : Nat → List Nat → List Nat
  | start, size :: next :: sizes =>
    (start + size) :: hyphenPlaces (start + size + 1) (next :: sizes)
  | _, _ => []

/-- How long groups of the given sizes are with hyphens between them. -/
def groupedLength : List Nat → Nat
  | size :: next :: sizes => size + (groupedLength (next :: sizes) + 1)
  | [size] => size
  | [] => 0

theorem idxsOf_hyphen_eq_nil {text : List Char} (hnone : '-' ∉ text) (start : Nat) :
    text.idxsOf '-' start = [] := by
  rw [List.idxsOf_eq_nil_iff]
  intro c hc
  rw [beq_eq_false_iff_ne]
  rintro rfl
  exact hnone hc

theorem IsDigits.not_hyphen {size : Nat} {digits : List Char} (hdigits : IsDigits size digits) :
    '-' ∉ digits := by
  intro hmem
  cases hdigits.all _ hmem

theorem not_hyphen_of_lead {lead : List Char}
    (hlead : lead.map Char.toLower = "urn:uuid:".toList) : '-' ∉ lead := by
  have hnone : '-' ∉ "urn:uuid:".toList ∧ '-' ∉ "URN:UUID:".toList := by decide
  intro hmem
  exact (mem_of_mem_lead hlead hmem).elim hnone.1 hnone.2

/-- Hyphens stand between groups and nowhere else. -/
theorem IsGrouped.idxsOf_hyphen {sizes : List Nat} {text : List Char}
    (hgrouped : IsGrouped sizes text) (start : Nat) :
    text.idxsOf '-' start = hyphenPlaces start sizes := by
  induction hgrouped generalizing start with
  | nil => rfl
  | last hgroup => exact idxsOf_hyphen_eq_nil hgroup.not_hyphen start
  | more hgroup _ ih =>
      rw [List.idxsOf_append, idxsOf_hyphen_eq_nil hgroup.not_hyphen, hgroup.length,
        List.idxsOf_cons, ih]
      rfl

theorem IsGrouped.length {sizes : List Nat} {text : List Char} (hgrouped : IsGrouped sizes text) :
    text.length = groupedLength sizes := by
  induction hgrouped with
  | nil => rfl
  | last hgroup => exact hgroup.length
  | more hgroup _ ih =>
      rw [List.length_append, List.length_cons, hgroup.length, ih]
      rfl

/-- How many bytes each of the forms takes, and where it has hyphens. -/
def layouts : List (Nat × List Nat) :=
  [(32, []), (36, [8, 13, 18, 23]), (38, [9, 14, 19, 24]), (45, [17, 22, 27, 32])]

/-- The length of a form and the places of its hyphens are those of one of the layouts. -/
theorem IsForm.layout {text : List Char} (hform : IsForm text) :
    (text.length, text.idxsOf '-') ∈ layouts := by
  cases hform with
  | digits hdigits =>
      rw [hdigits.length, idxsOf_hyphen_eq_nil hdigits.not_hyphen]
      decide
  | grouped hgrouped =>
      rw [hgrouped.length, hgrouped.idxsOf_hyphen]
      decide
  | braced hgrouped =>
      rw [List.length_cons, List.length_append, hgrouped.length, List.idxsOf_cons,
        List.idxsOf_append, hgrouped.idxsOf_hyphen, idxsOf_hyphen_eq_nil (by decide)]
      decide
  | urn hlead hgrouped =>
      -- what stands before the groups moves all hyphens by nine places
      rw [List.length_append, length_of_lead hlead, hgrouped.length, List.idxsOf_append,
        idxsOf_hyphen_eq_nil (not_hyphen_of_lead hlead), length_of_lead hlead,
        hgrouped.idxsOf_hyphen]
      decide

end QuizCompiler.Random.Uuid

namespace QuizCompiler.Quiz

open QuizCompiler.Random QuizCompiler.Text

/-! ## Names -/

theorem after?_supplementMark_iff {name rest : String} :
    after? supplementMark.toList name.toList = some rest.toList ↔ name = "meta" ++ rest := by
  rw [after?_eq_some_iff, ← String.toList_append, String.toList_inj]
  rfl

theorem isGeneratedName_marked (rest : String) :
    isGeneratedName ("meta" ++ rest) = true ↔ Uuid.IsForm rest.toList := by
  rw [isGeneratedName, after?_supplementMark_iff.mpr rfl]
  exact Uuid.isAccepted_iff

theorem isGeneratedName_unmarked {name : String} (hname : ∀ rest, name ≠ "meta" ++ rest) :
    isGeneratedName name = true ↔ Uuid.IsForm name.toList := by
  have hnone : after? supplementMark.toList name.toList = none := by
    rw [Option.eq_none_iff_forall_ne_some]
    intro rest hrest
    rw [← String.toList_ofList (l := rest)] at hrest
    exact hname _ (after?_supplementMark_iff.mp hrest)
  rw [isGeneratedName, hnone]
  exact Uuid.isAccepted_iff

/-- There is no `m` in any form, so no identifier begins like the mark of supplements. -/
theorem not_isForm_marked (rest : String) : ¬ Uuid.IsForm ("meta" ++ rest).toList := by
  intro hform
  have hm : Uuid.isHexDigit 'm' = false ∧ 'm' ∉ Uuid.signs := by decide
  rcases hform.char 'm' (by simp) with hdigit | hsign
  · rw [hm.1] at hdigit
    cases hdigit
  · exact hm.2 hsign

/-- The text of a form, which is all ASCII, takes as many bytes as its layout says. -/
theorem layout_of_isForm {text : String} (hform : Uuid.IsForm text.toList) :
    (text.utf8ByteSize, text.toList.idxsOf '-') ∈ Uuid.layouts := by
  rw [utf8ByteSize_of_ascii hform.ascii]
  exact hform.layout

/-- A name is recognised just if it has one of the four forms, without the mark of supplements if
it begins with that. It never has one of them with the mark as well. All else is refused: another
length in bytes, other places of hyphens, other characters and a second mark. -/
theorem isGeneratedName_iff_isForm (name : String) :
    (∀ rest, name = "meta" ++ rest → (isGeneratedName name = true ↔ Uuid.IsForm rest.toList)) ∧
      ((∀ rest, name ≠ "meta" ++ rest) →
        (isGeneratedName name = true ↔ Uuid.IsForm name.toList)) ∧
      (Uuid.IsForm name.toList → ∀ rest, name ≠ "meta" ++ rest) ∧
      (isGeneratedName name = true →
        ∃ mark ∈ ["", "meta"], ∃ rest, name = mark ++ rest ∧
          (rest.utf8ByteSize, rest.toList.idxsOf '-') ∈ Uuid.layouts ∧
          ∀ c ∈ rest.toList, Uuid.isHexDigit c = true ∨ c ∈ Uuid.signs) ∧
      ∀ rest, isGeneratedName ("meta" ++ ("meta" ++ rest)) = false := by
  refine ⟨?_, isGeneratedName_unmarked, ?_, ?_, ?_⟩
  · rintro rest rfl
    exact isGeneratedName_marked rest
  · rintro hform rest rfl
    exact not_isForm_marked rest hform
  · intro hname
    by_cases hmark : ∃ rest, name = "meta" ++ rest
    · obtain ⟨rest, rfl⟩ := hmark
      have hform := (isGeneratedName_marked rest).mp hname
      exact ⟨"meta", by simp, rest, rfl, layout_of_isForm hform, hform.char⟩
    · have hform := (isGeneratedName_unmarked (not_exists.mp hmark)).mp hname
      exact ⟨"", by simp, name, by simp, layout_of_isForm hform, hform.char⟩
  · intro rest
    rw [← Bool.not_eq_true, isGeneratedName_marked]
    exact not_isForm_marked rest

/-- Letters may change their case anywhere but in the mark, of which there may be one. -/
theorem isGeneratedName_mixedCase :
    isGeneratedName "metaUrn:uuid:67E55044-10b1-426f-9247-BB680e5fe0c8" = true ∧
      isGeneratedName "Urn:uuid:67E55044-10b1-426f-9247-BB680e5fe0c8" = true ∧
      isGeneratedName "metametaUrn:uuid:67E55044-10b1-426f-9247-BB680e5fe0c8" = false := by
  have hform : Uuid.IsForm "Urn:uuid:67E55044-10b1-426f-9247-BB680e5fe0c8".toList := by decide
  obtain ⟨hmarked, -, -, -, htwice⟩ :=
    isGeneratedName_iff_isForm "metaUrn:uuid:67E55044-10b1-426f-9247-BB680e5fe0c8"
  obtain ⟨-, hunmarked, hnone, -, -⟩ :=
    isGeneratedName_iff_isForm "Urn:uuid:67E55044-10b1-426f-9247-BB680e5fe0c8"
  refine ⟨?_, (hunmarked (hnone hform)).mpr hform, ?_⟩
  · exact (hmarked "Urn:uuid:67E55044-10b1-426f-9247-BB680e5fe0c8" rfl).mpr hform
  · exact htwice "Urn:uuid:67E55044-10b1-426f-9247-BB680e5fe0c8"

end QuizCompiler.Quiz
