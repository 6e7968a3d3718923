import QuizCompiler.Proofs.Validation

/-! # Drafts under edits

Whatever is done to a draft, a question that it passes as has all its parts, and its labels
are distinct. That its answers are choices is not checked: it holds because a list fills in
both together, and fails once labels are assigned to one of them alone.
-/

namespace QuizCompiler.Quiz.Draft

/-- Make changes one after the other. -/
def editAll (draft : Draft) (edits : List Edit) : Logged Draft := edits.foldlM edit draft

theorem value_editAll_nil (draft : Draft) : (draft.editAll []).value = draft := rfl

theorem value_editAll_cons (draft : Draft) (change : Edit) (rest : List Edit) :
    (draft.editAll (change :: rest)).value =
      ((draft.edit change).value.editAll rest).value := rfl

/-! ## Answers and choices -/

/-- All answers are labels of choices. -/
def AnswersOffered (draft : Draft) : Prop :=
  ∀ answer ∈ draft.correctAnswers, answer ∈ draft.choices

namespace Edit

def assignsLabels : Edit → Bool
  | .assignChoices _ => true
  | .assignCorrectAnswers _ => true
  | _ => false

/-- Whether an edit gives a draft its choices and its answers at once. -/
def joinsLabels : Edit → Bool
  | .offer _ => true
  | .clear => true
  | _ => false

/-- Whether every assignment of labels is undone by a later edit that gives a draft its choices
and its answers at once. -/
def labelsJoined : List Edit → Bool
  | [] => true
  | edit :: rest => (!edit.assignsLabels || rest.any joinsLabels) && labelsJoined rest

end Edit

theorem checkedLabels_subset {choices : List Choice} {label : String}
    (hlabel : label ∈ checkedLabels choices) : label ∈ labels choices := by
  obtain ⟨choice, hchoice, rfl⟩ := List.mem_map.mp hlabel
  exact List.mem_map_of_mem (List.mem_filter.mp hchoice).1

theorem answersOffered_blank : blank.AnswersOffered := by
  intro answer hanswer
  cases hanswer

theorem answersOffered_start (heading : String) (position : Nat) :
    (start heading position).AnswersOffered := by
  intro answer hanswer
  cases hanswer

/-- An edit that gives a draft its choices and its answers at once leaves answers that are
offered. -/
theorem answersOffered_of_joinsLabels (draft : Draft) {change : Edit}
    (hjoins : change.joinsLabels = true) : (draft.edit change).value.AnswersOffered := by
  cases change with
  | offer choices => exact fun _ => checkedLabels_subset
  | clear => exact answersOffered_blank
  | _ => cases hjoins

/-- Only an edit that assigns labels by themselves can bring an answer that is not offered. -/
theorem AnswersOffered.edit {draft : Draft} (hoffered : draft.AnswersOffered) {change : Edit}
    (hkeeps : change.assignsLabels = false) : (draft.edit change).value.AnswersOffered := by
  cases change with
  | offer choices => exact answersOffered_of_joinsLabels draft rfl
  | clear => exact answersOffered_of_joinsLabels draft rfl
  | assignChoices labels => cases hkeeps
  | assignCorrectAnswers labels => cases hkeeps
  | _ => exact hoffered

/-- The answers are choices in the end if they are at the beginning, or if some edit makes them
so, and no assignment stands after it. -/
theorem answersOffered_editAll {draft : Draft} {edits : List Edit}
    (hjoined : Edit.labelsJoined edits = true)
    (hstart : draft.AnswersOffered ∨ edits.any Edit.joinsLabels = true) :
    (draft.editAll edits).value.AnswersOffered := by
  induction edits generalizing draft with
  | nil => simpa [value_editAll_nil] using hstart
  | cons change rest ih =>
      rw [value_editAll_cons]
      simp only [Edit.labelsJoined, Bool.and_eq_true, Bool.or_eq_true, Bool.not_eq_true'] at hjoined
      obtain ⟨hchange, hrest⟩ := hjoined
      apply ih hrest
      rcases hchange with hkeeps | hlater
      · rcases hstart with hoffered | hany
        · exact .inl (hoffered.edit hkeeps)
        · rw [List.any_cons, Bool.or_eq_true] at hany
          exact hany.imp_left (answersOffered_of_joinsLabels draft)
      · exact .inr hlater

/-! ## Questions -/

/-- A question has a title, a description, distinct choices and an answer, whatever was done to
its draft before it passed. Its answers are choices if every assignment of labels was undone
by a later list. -/
theorem question_of_editAll (first : Draft) (edits : List Edit) (question : Question)
    (hfirst : first = blank ∨ ∃ heading position, first = start heading position)
    (hvalid : (first.editAll edits).value.validate = .ok question) :
    question.title ≠ "" ∧ question.description ≠ "" ∧ question.choices ≠ [] ∧
      question.choices.Nodup ∧ question.correctAnswers ≠ [] ∧
      (Edit.labelsJoined edits = true →
        ∀ answer ∈ question.correctAnswers, answer ∈ question.choices) := by
  obtain ⟨hpasses, rfl⟩ := passes_of_validate hvalid
  have hanswer : (first.editAll edits).value.correctAnswers ≠ [] := by
    intro hnone
    have hone := hpasses.one_answer
    rw [hnone] at hone
    cases hone
  refine ⟨hpasses.title_ne, hpasses.description_ne, hpasses.choices_ne, hpasses.choices_nodup,
    hanswer, fun hjoined => answersOffered_editAll hjoined (.inl ?_)⟩
  rcases hfirst with rfl | ⟨heading, position, rfl⟩
  · exact answersOffered_blank
  · exact answersOffered_start heading position

/-- Answers are assigned that are no choices, before a list gives both. -/
def repairedEdits : List Edit :=
  [.offer [⟨"a", true⟩], .assignCorrectAnswers ["z"], .describe " d ", .assignTitle "Q",
    .offer [⟨"a", false⟩, ⟨"b", true⟩]]

/-- Labels that were assigned without a choice do no harm once a list follows. -/
theorem question_of_repairedEdits :
    (blank.editAll repairedEdits).value.validate = .ok ⟨"Q", "d", ["a", "b"], ["b"], none⟩ ∧
      Edit.labelsJoined repairedEdits = true ∧ ["a", "b"].Nodup ∧
      ∀ answer ∈ ["b"], answer ∈ ["a", "b"] := by
  have hvalid : (blank.editAll repairedEdits).value.validate =
      .ok ⟨"Q", "d", ["a", "b"], ["b"], none⟩ := by decide +kernel
  have hjoined : Edit.labelsJoined repairedEdits = true := rfl
  obtain ⟨-, -, -, hnodup, -, hanswers⟩ :=
    question_of_editAll blank repairedEdits _ (.inl rfl) hvalid
  exact ⟨hvalid, hjoined, hnodup, hanswers hjoined⟩

/-- An answer that is assigned by its label alone need not be a choice. -/
theorem assigned_answer_no_choice :
    ((start "Q" 1).editAll
        [.describe "d", .offer [⟨"a", true⟩], .assignCorrectAnswers ["b"]]).value.validate =
      .ok ⟨"Q", "d", ["a"], ["b"], none⟩ ∧
    ¬ ∀ answer ∈ (⟨"Q", "d", ["a"], ["b"], none⟩ : Question).correctAnswers,
        answer ∈ (⟨"Q", "d", ["a"], ["b"], none⟩ : Question).choices := by
  refine ⟨by decide +kernel, ?_⟩
  intro hanswers
  have hchoice := hanswers "b" List.mem_cons_self
  simp at hchoice

end QuizCompiler.Quiz.Draft
