import QuizCompiler.Proofs.Partition
import QuizCompiler.Proofs.Validation

/-! # Sections are independent

Nothing goes on past a heading of the first two levels. A source that is parted before one has
the sections and the dropped blocks of its parts, and the questions of a part do not depend on
what is in the other; only positions are counted on.
-/

namespace QuizCompiler.Quiz

/-- Whether nothing in a sequence of blocks belongs to a section before it: it is empty, or
begins with a heading of the first two levels. -/
def StartsAfresh (blocks : List Block) : Prop := ∀ block ∈ blocks.head?, block.isBody = false

/-- An error in a source before which `n` sections are put. -/
def QuestionError.shift (n : Nat) (error : QuestionError) : QuestionError :=
  { error with position := n + error.position }

/-! ## Sections and dropped blocks -/

section Parts

variable {first second : List Block}

/-- A section ends where the second part begins, at the latest. -/
theorem takeWhile_isBody_append (hsecond : StartsAfresh second) :
    (first ++ second).takeWhile Block.isBody = first.takeWhile Block.isBody := by
  have hnone : second.takeWhile Block.isBody = [] := by
    cases second with
    | nil => rfl
    | cons block rest => rw [List.takeWhile_cons_of_neg (by simpa using hsecond block rfl)]
  rw [List.takeWhile_append]
  split
  next hall => rw [hnone, List.append_nil, (List.takeWhile_prefix _).eq_of_length hall]
  next => rfl

/-- The sections of the second part are counted on from those of the first. -/
theorem sectionsFrom_append (hsecond : StartsAfresh second) (n : Nat) :
    sectionsFrom n (first ++ second) =
      sectionsFrom n first ++ sectionsFrom (n + first.countP Block.opensSection) second := by
  induction first generalizing n with
  | nil => rfl
  | cons block rest ih =>
      rw [List.cons_append, List.countP_cons]
      rcases block.title_or_section_or_body with ⟨text, rfl⟩ | ⟨text, rfl⟩ | hbody
      · exact ih n
      · rw [sectionsFrom_section, sectionsFrom_section, takeWhile_isBody_append hsecond, ih,
          List.cons_append]
        simp [Block.opensSection, Nat.add_comm, Nat.add_left_comm]
      · rw [sectionsFrom_of_isBody hbody, sectionsFrom_of_isBody hbody, ih,
          Block.opensSection_of_isBody hbody]
        rfl

/-- Whether a section is open before a part does not matter to what begins afresh. -/
theorem droppedFrom_of_startsAfresh (hsecond : StartsAfresh second) (inside : Bool) :
    droppedFrom inside second = droppedFrom false second := by
  cases second with
  | nil => rfl
  | cons block rest =>
      rcases block.title_or_section_or_body with ⟨text, rfl⟩ | ⟨text, rfl⟩ | hbody
      · rfl
      · rfl
      · rw [hsecond block rfl] at hbody
        cases hbody

theorem droppedFrom_append (hsecond : StartsAfresh second) (inside : Bool) :
    droppedFrom inside (first ++ second) =
      droppedFrom inside first ++ droppedFrom false second := by
  induction first generalizing inside with
  | nil => exact droppedFrom_of_startsAfresh hsecond inside
  | cons block rest ih =>
      rw [List.cons_append]
      rcases block.title_or_section_or_body with ⟨text, rfl⟩ | ⟨text, rfl⟩ | hbody
      · exact ih false
      · exact ih true
      · rw [droppedFrom_of_isBody hbody, droppedFrom_of_isBody hbody, ih]
        split <;> rfl

/-- The parts keep their sections and what they drop. -/
theorem value_ofBlocks_append (first : List Block) (hsecond : StartsAfresh second) :
    (Source.ofBlocks (first ++ second)).value.sections =
        (Source.ofBlocks first).value.sections ++
          (Source.ofBlocks second).value.sections.map
            (Section.shift (first.countP Block.opensSection)) ∧
      (Source.ofBlocks (first ++ second)).value.dropped =
        (Source.ofBlocks first).value.dropped ++ (Source.ofBlocks second).value.dropped := by
  rw [Source.value_ofBlocks, Source.value_ofBlocks, Source.value_ofBlocks]
  refine ⟨?_, droppedFrom_append hsecond false⟩
  rw [sectionsFrom_append hsecond, Nat.zero_add, ← sectionsFrom_eq_map_shift]

end Parts

/-! ## Questions -/

/-- Only the error of a draft tells where the draft stands. -/
theorem Draft.validate_shift (n : Nat) (draft : Draft) :
    ({ draft with position := n + draft.position } : Draft).validate =
      draft.validate.mapError (QuestionError.shift n) := by
  have hmissing : ({ draft with position := n + draft.position } : Draft).missingPart? =
      draft.missingPart? := rfl
  have hshape : ({ draft with position := n + draft.position } : Draft).unsupported? =
      draft.unsupported? := rfl
  unfold validate
  rw [hmissing, hshape]
  cases draft.missingPart? with
  | some missing => rfl
  | none => cases draft.unsupported? <;> rfl

/-- A section that is moved passes or fails as before, with its new position in the message. -/
theorem Draft.validate_describedBy_shift (n : Nat) (part : Section) :
    (describedBy (part.shift n)).validate =
      (describedBy part).validate.mapError (QuestionError.shift n) :=
  validate_shift n (describedBy part)

namespace Source

theorem value_questionsOf_cons (part : Section) (rest : List Section) :
    (questionsOf (part :: rest)).value =
      (Draft.describedBy part).validate.bind fun question =>
        (questionsOf rest).value.map (question :: ·) := by
  rw [questionsOf, Logged.bind_eq, Draft.value_ofSection]
  cases (Draft.describedBy part).validate <;> rfl

/-- The second part is read only if the first one passes. -/
theorem value_questionsOf_append (first second : List Section) :
    (questionsOf (first ++ second)).value =
      (questionsOf first).value.bind fun questions =>
        (questionsOf second).value.map (questions ++ ·) := by
  induction first with
  | nil =>
      rw [List.nil_append]
      cases (questionsOf second).value <;> rfl
  | cons part rest ih =>
      rw [List.cons_append, value_questionsOf_cons, value_questionsOf_cons, ih]
      cases (Draft.describedBy part).validate with
      | error error => rfl
      | ok question =>
          cases (questionsOf rest).value with
          | error error => rfl
          | ok questions => cases (questionsOf second).value <;> rfl

/-- Sections that are counted on give the same questions or the same error further on. -/
theorem value_questionsOf_map_shift (n : Nat) (parts : List Section) :
    (questionsOf (parts.map (Section.shift n))).value =
      (questionsOf parts).value.mapError (QuestionError.shift n) := by
  induction parts with
  | nil => rfl
  | cons part rest ih =>
      rw [List.map_cons, value_questionsOf_cons, value_questionsOf_cons, ih,
        Draft.validate_describedBy_shift]
      cases (Draft.describedBy part).validate with
      | error error => rfl
      | ok question => cases (questionsOf rest).value <;> rfl

end Source

/-- A source that is parted where a part starts afresh has the sections and the dropped blocks of
the first part and then those of the second, whose sections are counted on. Its questions are
those of both parts. If the first part has an error, that is the error of the whole; if only the
second has one, it is reported with its position counted on and is otherwise the same. -/
theorem ofBlocks_append_independent (first second : List Block)
    (hsecond : StartsAfresh second) :
    (Source.ofBlocks (first ++ second)).value.sections =
        (Source.ofBlocks first).value.sections ++
          (Source.ofBlocks second).value.sections.map
            (Section.shift (first.countP Block.opensSection)) ∧
      (Source.ofBlocks (first ++ second)).value.dropped =
        (Source.ofBlocks first).value.dropped ++ (Source.ofBlocks second).value.dropped ∧
      (∀ questions others,
        (Source.ofBlocks first).value.questions.value = .ok questions →
        (Source.ofBlocks second).value.questions.value = .ok others →
          (Source.ofBlocks (first ++ second)).value.questions.value = .ok (questions ++ others)) ∧
      (∀ error, (Source.ofBlocks first).value.questions.value = .error error →
        (Source.ofBlocks (first ++ second)).value.questions.value = .error error) ∧
      ∀ questions error,
        (Source.ofBlocks first).value.questions.value = .ok questions →
        (Source.ofBlocks second).value.questions.value = .error error →
          (Source.ofBlocks (first ++ second)).value.questions.value =
            .error (error.shift (first.countP Block.opensSection)) := by
  obtain ⟨hsections, hdropped⟩ := value_ofBlocks_append first hsecond
  -- the three statements about questions are cases of one equation
  have hquestions : (Source.ofBlocks (first ++ second)).value.questions.value =
      (Source.ofBlocks first).value.questions.value.bind fun questions =>
        ((Source.ofBlocks second).value.questions.value.mapError
          (QuestionError.shift (first.countP Block.opensSection))).map (questions ++ ·) := by
    unfold Source.questions
    rw [hsections, Source.value_questionsOf_append, Source.value_questionsOf_map_shift]
  refine ⟨hsections, hdropped, ?_, ?_, ?_⟩
  · intro questions others hfirst hothers
    rw [hquestions, hfirst, hothers]
    rfl
  · intro error hfirst
    rw [hquestions, hfirst]
    rfl
  · intro questions error hfirst herror
    rw [hquestions, hfirst, herror]
    rfl

/-- A source with one question that passes. -/
def soundPart : List Block :=
  [.other "<p>before</p>\n", .heading 1 "T", .heading 2 "A", .quote "a", .list [⟨"x", true⟩]]

/-- A source with a question that passes and one without choices. -/
def flawedPart : List Block :=
  [.heading 2 "B", .quote "b", .list [⟨"y", false⟩, ⟨"z", true⟩], .heading 2 "C", .quote "c"]

/-- The flaw of the second part is reported at the place that it has in the whole. -/
theorem ofBlocks_append_flawedPart :
    StartsAfresh flawedPart ∧
      (Source.ofBlocks (soundPart ++ flawedPart)).value.sections.map Section.position =
        [1, 2, 3] ∧
      (Source.ofBlocks (soundPart ++ flawedPart)).value.dropped = [.other "<p>before</p>\n"] ∧
      (Source.ofBlocks flawedPart).value.questions.value =
        .error ⟨.missing .choices, "C", 2⟩ ∧
      (Source.ofBlocks (soundPart ++ flawedPart)).value.questions.value =
        .error ⟨.missing .choices, "C", 3⟩ := by
  have hafresh : StartsAfresh flawedPart := by
    rintro block ⟨⟩
    rfl
  have hsound : (Source.ofBlocks soundPart).value.questions.value =
      .ok [⟨"A", "a", ["x"], ["x"], none⟩] := by decide +kernel
  have hflawed : (Source.ofBlocks flawedPart).value.questions.value =
      .error ⟨.missing .choices, "C", 2⟩ := by decide +kernel
  obtain ⟨hsections, hdropped, -, -, herror⟩ :=
    ofBlocks_append_independent soundPart flawedPart hafresh
  refine ⟨hafresh, ?_, ?_, hflawed, herror _ _ hsound hflawed⟩
  · rw [hsections]
    decide +kernel
  · rw [hdropped]
    decide +kernel

end QuizCompiler.Quiz
