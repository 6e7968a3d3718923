import Mathlib.Data.List.Induction
import Mathlib.Data.List.Nodup
import QuizCompiler.Proofs.Trimming
import QuizCompiler.Quiz.Draft

/-! # From sections to questions

The last quote and the last list of a section decide, with its heading, whether a
question can be made of it and which one. A question that passed the checks is well
posed: it has one correct answer among distinct choices.
-/

namespace QuizCompiler.Quiz

open QuizCompiler.Text

/-! ## What a section says -/

namespace Block

def quote? : Block → Option String
  | .quote text => some text
  | _ => none

def list? : Block → Option (List Choice)
  | .list choices => some choices
  | _ => none

/-- The HTML that a block adds to the supplement of its question. -/
def supplement : Block → String
  | .heading _ text => "<p>" ++ escapeInTurn text ++ "</p>\n"
  | .other html => html
  | _ => ""

end Block

namespace Section

def lastQuote? (part : Section) : Option String := (part.content.filterMap Block.quote?).getLast?

def lastList? (part : Section) : Option (List Choice) :=
  (part.content.filterMap Block.list?).getLast?

end Section

def labels (choices : List Choice) : List String := choices.map Choice.label

def checkedLabels (choices : List Choice) : List String :=
  (choices.filter Choice.checked).map Choice.label

namespace Draft

/-- The draft that a section describes: later quotes and lists take the place of earlier ones,
while all other blocks are kept. -/
def describedBy (part : Section) : Draft where
  position := part.position
  title := trim part.heading
  description := (part.lastQuote?.map trim).getD ""
  choices := labels (part.lastList?.getD [])
  correctAnswers := checkedLabels (part.lastList?.getD [])
  supplement := String.join (part.content.map Block.supplement)
  described := part.lastQuote?.isSome
  offered := part.lastList?.isSome

theorem value_foldlM_read (draft : Draft) (content : List Block) :
    (content.foldlM read draft).value =
      content.foldl (fun draft block => (draft.read block).value) draft := by
  induction content generalizing draft with
  | nil => rfl
  | cons block rest ih =>
      rw [List.foldlM_cons, Logged.bind_eq]
      exact ih _

/-- The draft of a section holds its last quote, its last list, and what its blocks are kept as. -/
theorem value_ofSection (part : Section) : (ofSection part).value = describedBy part := by
  obtain ⟨heading, position, content⟩ := part
  rw [ofSection, value_foldlM_read]
  -- the latest block decides, so the content is taken apart at its end
  induction content using List.reverseRecOn with
  | nil => rfl
  | append_singleton content block ih =>
      rw [List.foldl_append, List.foldl_cons, List.foldl_nil, ih]
      cases block <;>
        simp [read, setDescription, setChoices, addSupplement, describedBy, labels,
          checkedLabels, Section.lastQuote?, Section.lastList?, Block.quote?, Block.list?,
          Block.supplement, String.join_append, List.filterMap_append]

end Draft

/-! ## Checks -/

namespace Draft

/-- Nothing is repeated if the labels differ from each other and from those seen before. -/
theorem repeatAfter?_eq_none_iff {seen labels : List String} :
    repeatAfter? seen labels = none ↔ labels.Nodup ∧ ∀ label ∈ labels, label ∉ seen := by
  induction labels generalizing seen with
  | nil => simp [repeatAfter?]
  | cons label rest ih =>
      rw [repeatAfter?]
      by_cases hseen : label ∈ seen
      · simp [hseen]
      · rw [if_neg (by simpa using hseen), ih, List.nodup_cons]
        simp only [List.mem_cons, not_or, forall_eq_or_imp]
        constructor
        · rintro ⟨hnodup, hrest⟩
          exact ⟨⟨fun hmem => (hrest label hmem).1 rfl, hnodup⟩, hseen,
            fun other hother => (hrest other hother).2⟩
        · rintro ⟨⟨hnot, hnodup⟩, -, hrest⟩
          refine ⟨hnodup, fun other hother => ⟨?_, hrest other hother⟩⟩
          rintro rfl
          exact hnot hother

theorem firstRepeat?_eq_none_iff {labels : List String} :
    firstRepeat? labels = none ↔ labels.Nodup := by
  simp [firstRepeat?, repeatAfter?_eq_none_iff]

/-- What a draft needs to be a question. -/
structure Passes (draft : Draft) : Prop where
  title_ne : draft.title ≠ ""
  description_ne : draft.description ≠ ""
  choices_ne : draft.choices ≠ []
  label_ne : ∀ label ∈ draft.choices, label ≠ ""
  choices_nodup : draft.choices.Nodup
  one_answer : draft.correctAnswers.length = 1

def question (draft : Draft) : Question where
  title := draft.title
  description := draft.description
  choices := draft.choices
  correctAnswers := draft.correctAnswers
  supplement := if draft.supplement.isEmpty then none else some draft.supplement

/-- No part is missing if title, description, choices and correct answers are all there. -/
theorem missingPart?_eq_none_iff {draft : Draft} :
    draft.missingPart? = none ↔
      draft.title ≠ "" ∧ draft.description ≠ "" ∧ draft.choices ≠ [] ∧
        draft.correctAnswers ≠ [] := by
  unfold missingPart?
  split_ifs <;> simp_all

/-- A shape is supported if all choices have different labels that are not blank, and one of them at
most is right. -/
theorem unsupported?_eq_none_iff {draft : Draft} :
    draft.unsupported? = none ↔
      (∀ label ∈ draft.choices, label ≠ "") ∧ draft.choices.Nodup ∧
        draft.correctAnswers.length ≤ 1 := by
  rw [← firstRepeat?_eq_none_iff]
  unfold unsupported?
  by_cases hblank : draft.choices.any String.isEmpty = true
  · rw [if_pos hblank]
    obtain ⟨label, hlabel, hempty⟩ := List.any_eq_true.mp hblank
    simp only [reduceCtorEq, false_iff]
    rintro ⟨hlabels, -⟩
    exact hlabels label hlabel (String.isEmpty_iff.mp hempty)
  · rw [if_neg hblank]
    have hlabels : ∀ label ∈ draft.choices, label ≠ "" := by
      intro label hlabel hempty
      exact hblank (List.any_eq_true.mpr ⟨label, hlabel, String.isEmpty_iff.mpr hempty⟩)
    cases hrepeat : firstRepeat? draft.choices with
    | none => simpa using fun _ => hlabels
    | some label => simp

/-- The two rounds of checks together are what a draft has to pass. -/
theorem passes_iff {draft : Draft} :
    draft.Passes ↔ draft.missingPart? = none ∧ draft.unsupported? = none := by
  rw [missingPart?_eq_none_iff, unsupported?_eq_none_iff]
  constructor
  · rintro ⟨htitle, hdescription, hchoices, hlabels, hnodup, hanswer⟩
    refine ⟨⟨htitle, hdescription, hchoices, ?_⟩, hlabels, hnodup, by omega⟩
    intro hnone
    simp [hnone] at hanswer
  · rintro ⟨⟨htitle, hdescription, hchoices, hanswer⟩, hlabels, hnodup, hle⟩
    have hpos := List.length_pos_iff.mpr hanswer
    exact ⟨htitle, hdescription, hchoices, hlabels, hnodup, by omega⟩

/-- A draft that passes is the question with its fields. -/
theorem validate_of_passes {draft : Draft} (hpasses : draft.Passes) :
    draft.validate = .ok draft.question := by
  obtain ⟨hmissing, hshape⟩ := passes_iff.mp hpasses
  rw [validate, hmissing, hshape]
  rfl

/-- A missing part is reported before anything else. -/
theorem validate_of_missingPart? {draft : Draft} {part : MissingPart}
    (hmissing : draft.missingPart? = some part) :
    draft.validate = .error ⟨.missing part, draft.displayTitle, draft.position⟩ := by
  rw [validate, hmissing]

theorem validate_of_unsupported? {draft : Draft} {shape : Unsupported}
    (hmissing : draft.missingPart? = none) (hshape : draft.unsupported? = some shape) :
    draft.validate = .error ⟨.unsupported shape, draft.displayTitle, draft.position⟩ := by
  -- a shape is reported with the title itself, which is not empty here
  have htitle := (missingPart?_eq_none_iff.mp hmissing).1
  simp [validate, hmissing, hshape, displayTitle, String.isEmpty_iff, htitle]

/-- The error for a draft that fails a check names the draft. -/
theorem validate_of_not_passes {draft : Draft} (hfails : ¬ draft.Passes) :
    ∃ flaw, draft.validate = .error ⟨flaw, draft.displayTitle, draft.position⟩ := by
  rw [passes_iff, not_and] at hfails
  cases hmissing : draft.missingPart? with
  | some part => exact ⟨.missing part, validate_of_missingPart? hmissing⟩
  | none =>
      cases hshape : draft.unsupported? with
      | none => exact absurd hshape (hfails hmissing)
      | some shape => exact ⟨.unsupported shape, validate_of_unsupported? hmissing hshape⟩

/-- A question comes of a draft that passes, and of no other one. -/
theorem passes_of_validate {draft : Draft} {question : Question}
    (hvalid : draft.validate = .ok question) : draft.Passes ∧ question = draft.question := by
  by_cases hpasses : draft.Passes
  · rw [validate_of_passes hpasses] at hvalid
    exact ⟨hpasses, (Except.ok.inj hvalid).symm⟩
  · obtain ⟨flaw, hflaw⟩ := validate_of_not_passes hpasses
    rw [hflaw] at hvalid
    cases hvalid

end Draft

/-! ## Good sections -/

/-- A section is good if it has a title, its last quote is not blank, and its last list has
distinct labels with text, exactly one of them checked. -/
structure Section.Good (part : Section) : Prop where
  titled : trim part.heading ≠ ""
  described : ∃ text, part.lastQuote? = some text ∧ trim text ≠ ""
  offered : ∃ choices, part.lastList? = some choices ∧ choices ≠ [] ∧
    (choices.filter Choice.checked).length = 1 ∧
    (∀ choice ∈ choices, choice.label ≠ "") ∧ (choices.map Choice.label).Nodup

theorem Section.good_iff_passes {part : Section} :
    part.Good ↔ (Draft.describedBy part).Passes := by
  constructor
  · rintro ⟨htitle, ⟨text, hquote, htext⟩, choices, hlist, hne, hone, hlabels, hnodup⟩
    refine ⟨htitle, ?_, ?_, ?_, ?_, ?_⟩
    · simpa [Draft.describedBy, hquote] using htext
    · simpa [Draft.describedBy, hlist, labels] using hne
    · simpa [Draft.describedBy, hlist, labels] using hlabels
    · simpa [Draft.describedBy, hlist, labels] using hnodup
    · simpa [Draft.describedBy, hlist, checkedLabels] using hone
  · rintro ⟨htitle, hdescription, hchoices, hlabels, hnodup, hone⟩
    refine ⟨htitle, ?_, ?_⟩
    · cases hquote : part.lastQuote? with
      | none => simp [Draft.describedBy, hquote] at hdescription
      | some text => exact ⟨text, rfl, by simpa [Draft.describedBy, hquote] using hdescription⟩
    · cases hlist : part.lastList? with
      | none => simp [Draft.describedBy, hlist, labels] at hchoices
      | some choices =>
          simp only [Draft.describedBy, hlist, labels, checkedLabels, Option.getD_some,
            List.length_map] at hchoices hlabels hnodup hone
          exact ⟨choices, rfl, by simpa using hchoices, hone, by simpa using hlabels, hnodup⟩

namespace Source

/-- Good sections become questions, one for each. -/
theorem value_questionsOf_of_good {parts : List Section} (hgood : ∀ part ∈ parts, part.Good) :
    (questionsOf parts).value =
      .ok (parts.map fun part => (Draft.describedBy part).question) := by
  induction parts with
  | nil => rfl
  | cons part rest ih =>
      have hpasses := Section.good_iff_passes.mp (hgood part List.mem_cons_self)
      have hrest := ih fun other hother => hgood other (List.mem_cons_of_mem _ hother)
      rw [questionsOf, Logged.bind_eq, Draft.value_ofSection, Draft.validate_of_passes hpasses]
      simp [hrest, Except.map]

/-- The first bad section decides, whatever stands after it. -/
theorem value_questionsOf_of_bad {before : List Section} {part : Section}
    (after : List Section) (hgood : ∀ other ∈ before, other.Good) (hbad : ¬ part.Good) :
    ∃ flaw, (questionsOf (before ++ part :: after)).value =
      .error ⟨flaw, (Draft.describedBy part).displayTitle, part.position⟩ := by
  induction before with
  | nil =>
      rw [Section.good_iff_passes] at hbad
      obtain ⟨flaw, hflaw⟩ := Draft.validate_of_not_passes hbad
      refine ⟨flaw, ?_⟩
      rw [List.nil_append, questionsOf, Logged.bind_eq, Draft.value_ofSection, hflaw]
      rfl
  | cons first rest ih =>
      obtain ⟨flaw, hflaw⟩ := ih fun other hother => hgood other (List.mem_cons_of_mem _ hother)
      have hpasses := Section.good_iff_passes.mp (hgood first List.mem_cons_self)
      refine ⟨flaw, ?_⟩
      rw [List.cons_append, questionsOf, Logged.bind_eq, Draft.value_ofSection,
        Draft.validate_of_passes hpasses]
      simp [hflaw, Except.map]

end Source

/-! ## Well-posed questions -/

/-- The parts of a question that can be shown and answered: texts without blanks around them,
distinct choices, and one correct answer that is one of the choices. -/
structure WellPosed (title description : String) (choices correctAnswers : List String) :
    Prop where
  title_ne : title ≠ ""
  title_trimmed : Trimmed title
  description_ne : description ≠ ""
  description_trimmed : Trimmed description
  choices_ne : choices ≠ []
  choices_nodup : choices.Nodup
  choice_ne : ∀ label ∈ choices, label ≠ ""
  choice_trimmed : ∀ label ∈ choices, Trimmed label
  one_answer : ∃ label, correctAnswers = [label] ∧ choices.count label = 1

/-- A question is well posed if its parts are. -/
def Question.IsWellPosed (question : Question) : Prop :=
  WellPosed question.title question.description question.choices question.correctAnswers

theorem trimmed_label_of_lastList? {part : Section} {choices : List Choice}
    (htrimmed : ∀ block ∈ part.content, ∀ choice ∈ block.choices, Trimmed choice.label)
    (hlist : part.lastList? = some choices) : ∀ choice ∈ choices, Trimmed choice.label := by
  obtain ⟨block, hblock, hchoices⟩ := List.mem_filterMap.mp (List.mem_of_getLast? hlist)
  have hread : block.choices = choices := by
    cases block <;> simp_all [Block.list?, Block.choices]
  exact hread ▸ htrimmed block hblock

/-- The question of a good section is well posed if the labels in the section are trimmed. -/
theorem Section.Good.isWellPosed {part : Section} (hgood : part.Good)
    (htrimmed : ∀ block ∈ part.content, ∀ choice ∈ block.choices, Trimmed choice.label) :
    (Draft.describedBy part).question.IsWellPosed := by
  obtain ⟨htitle, ⟨text, hquote, htext⟩, choices, hlist, hne, hone, hlabels, hnodup⟩ := hgood
  -- the label that is checked is one of the labels, and they are distinct
  have hlast := trimmed_label_of_lastList? htrimmed hlist
  obtain ⟨answer, hanswer⟩ := List.length_eq_one_iff.mp hone
  have hmem : answer ∈ choices := by
    have hchecked : answer ∈ choices.filter Choice.checked := by simp [hanswer]
    exact (List.mem_filter.mp hchecked).1
  constructor
  case title_ne => exact htitle
  case title_trimmed => exact trimmed_trim _
  case description_ne => simpa [Draft.question, Draft.describedBy, hquote] using htext
  case description_trimmed =>
    simpa [Draft.question, Draft.describedBy, hquote] using trimmed_trim text
  case choices_ne => simpa [Draft.question, Draft.describedBy, hlist, labels] using hne
  case choices_nodup => simpa [Draft.question, Draft.describedBy, hlist, labels] using hnodup
  case choice_ne => simpa [Draft.question, Draft.describedBy, hlist, labels] using hlabels
  case choice_trimmed => simpa [Draft.question, Draft.describedBy, hlist, labels] using hlast
  case one_answer =>
    refine ⟨answer.label, by simp [Draft.question, Draft.describedBy, hlist, checkedLabels,
      hanswer], ?_⟩
    simp only [Draft.question, Draft.describedBy, hlist, labels, Option.getD_some]
    exact List.count_eq_one_of_mem hnodup (List.mem_map_of_mem hmem)

end QuizCompiler.Quiz
