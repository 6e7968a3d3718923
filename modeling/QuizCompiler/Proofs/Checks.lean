import QuizCompiler.Proofs.Validation

/-! # The order of the checks

A draft may have many flaws. The first one in a fixed order is reported, with the title and the
position of the draft; a draft without any becomes a question with its own parts.
-/

namespace QuizCompiler.Quiz

/-! ## Repeated labels -/

/-- The label at a place stands also before it, there or in a list above. -/
def RepeatsAt (seen labels : List String) (place : Nat) (label : String) : Prop :=
  labels[place]? = some label ∧ (label ∈ seen ∨ label ∈ labels.take place)

theorem repeatsAt_cons_zero {seen rest : List String} {first label : String} :
    RepeatsAt seen (first :: rest) 0 label ↔ label = first ∧ label ∈ seen := by
  simp [RepeatsAt, eq_comm]

/-- A repeat behind the first label is one of the others, with that label seen before them. -/
theorem repeatsAt_cons_succ {seen rest : List String} {first label : String} {place : Nat} :
    RepeatsAt seen (first :: rest) (place + 1) label ↔
      RepeatsAt (first :: seen) rest place label := by
  simp [RepeatsAt, or_left_comm, or_assoc]

namespace Draft

/-- The label that is reported repeats at the least place where any does. -/
theorem repeatAfter?_eq_some_iff {seen labels : List String} {label : String} :
    repeatAfter? seen labels = some label ↔
      ∃ place, RepeatsAt seen labels place label ∧
        ∀ earlier < place, ∀ other, ¬ RepeatsAt seen labels earlier other := by
  induction labels generalizing seen with
  | nil => simp [repeatAfter?, RepeatsAt]
  | cons first rest ih =>
      rw [repeatAfter?]
      -- a label seen before is the first repetition itself; else the rest has it, one place on
      by_cases hseen : first ∈ seen
      · rw [if_pos (by simpa using hseen), Option.some.injEq]
        constructor
        · rintro rfl
          exact ⟨0, repeatsAt_cons_zero.mpr ⟨rfl, hseen⟩, by simp⟩
        · rintro ⟨place, hplace, hleast⟩
          cases place with
          | zero => exact (repeatsAt_cons_zero.mp hplace).1.symm
          | succ place =>
              exact absurd (repeatsAt_cons_zero.mpr ⟨rfl, hseen⟩) (hleast 0 (by omega) first)
      · rw [if_neg (by simpa using hseen), ih]
        have hzero (other : String) : ¬ RepeatsAt seen (first :: rest) 0 other := by
          rw [repeatsAt_cons_zero]
          rintro ⟨rfl, hother⟩
          exact hseen hother
        constructor
        · rintro ⟨place, hplace, hleast⟩
          refine ⟨place + 1, repeatsAt_cons_succ.mpr hplace, ?_⟩
          intro earlier hearlier other
          cases earlier with
          | zero => exact hzero other
          | succ earlier =>
              rw [repeatsAt_cons_succ]
              exact hleast earlier (by omega) other
        · rintro ⟨place, hplace, hleast⟩
          cases place with
          | zero => exact absurd hplace (hzero label)
          | succ place =>
              refine ⟨place, repeatsAt_cons_succ.mp hplace, ?_⟩
              intro earlier hearlier other
              rw [← repeatsAt_cons_succ]
              exact hleast (earlier + 1) (by omega) other

end Draft

/-! ## Flaws and their order -/

/-- The place of a flaw in the order in which flaws are looked for. -/
def Flaw.rank : Flaw → Nat
  | .missing .title => 0
  | .missing .description => 1
  | .missing .choices => 2
  | .missing .correctAnswer => 3
  | .unsupported .blankChoice => 4
  | .unsupported (.duplicateChoice _) => 5
  | .unsupported (.multipleCorrectAnswers _) => 6

namespace Draft

/-- What can be wrong with a draft. Of the labels that repeat one before them, only the first is
named. -/
inductive HasFlaw (draft : Draft) : Flaw → Prop
  | title (htitle : draft.title = "") : HasFlaw draft (.missing .title)
  | description (hdescription : draft.description = "") : HasFlaw draft (.missing .description)
  | choices (hchoices : draft.choices = []) : HasFlaw draft (.missing .choices)
  | correctAnswer (hanswers : draft.correctAnswers = []) : HasFlaw draft (.missing .correctAnswer)
  | blankChoice (hblank : "" ∈ draft.choices) : HasFlaw draft (.unsupported .blankChoice)
  | duplicateChoice {place : Nat} {label : String}
      (hlabel : draft.choices[place]? = some label) (hbefore : label ∈ draft.choices.take place)
      (hleast : ∀ earlier < place, ∀ other, draft.choices[earlier]? = some other →
        other ∉ draft.choices.take earlier) :
      HasFlaw draft (.unsupported (.duplicateChoice label))
  | multipleCorrectAnswers (hmany : 1 < draft.correctAnswers.length) :
      HasFlaw draft (.unsupported (.multipleCorrectAnswers draft.correctAnswers.length))

/-- A draft has the flaw for one label only: the one whose repeat comes first. -/
theorem hasFlaw_duplicateChoice_iff {draft : Draft} {label : String} :
    draft.HasFlaw (.unsupported (.duplicateChoice label)) ↔
      firstRepeat? draft.choices = some label := by
  rw [firstRepeat?, repeatAfter?_eq_some_iff]
  simp only [RepeatsAt, List.not_mem_nil, false_or, not_and]
  constructor
  · rintro (_ | _ | _ | _ | _ | ⟨hlabel, hbefore, hleast⟩ | _)
    exact ⟨_, ⟨hlabel, hbefore⟩, hleast⟩
  · rintro ⟨place, ⟨hlabel, hbefore⟩, hleast⟩
    exact .duplicateChoice hlabel hbefore hleast

/-- The flaw that comes first in the order. -/
def IsFirstFlaw (draft : Draft) (flaw : Flaw) : Prop :=
  draft.HasFlaw flaw ∧ ∀ other, draft.HasFlaw other → flaw.rank ≤ other.rank

/-- No draft has two flaws of one rank. -/
theorem HasFlaw.eq_of_rank_eq {draft : Draft} {flaw other : Flaw} (hflaw : draft.HasFlaw flaw)
    (hother : draft.HasFlaw other) (hrank : flaw.rank = other.rank) : flaw = other := by
  cases hflaw with
  | duplicateChoice hlabel hbefore hleast =>
      cases hother with
      | duplicateChoice hlabel' hbefore' hleast' =>
          have hfirst := hasFlaw_duplicateChoice_iff.mp (.duplicateChoice hlabel hbefore hleast)
          have hagain := hasFlaw_duplicateChoice_iff.mp (.duplicateChoice hlabel' hbefore' hleast')
          rw [Option.some.inj (hfirst.symm.trans hagain)]
      | _ => simp [Flaw.rank] at hrank
  | _ => cases hother <;> first | rfl | simp [Flaw.rank] at hrank

theorem IsFirstFlaw.unique {draft : Draft} {flaw other : Flaw} (hflaw : draft.IsFirstFlaw flaw)
    (hother : draft.IsFirstFlaw other) : flaw = other :=
  hflaw.1.eq_of_rank_eq hother.1 (Nat.le_antisymm (hflaw.2 _ hother.1) (hother.2 _ hflaw.1))

/-- A missing part is the flaw of least rank. -/
theorem isFirstFlaw_of_missingPart? {draft : Draft} {part : MissingPart}
    (hmissing : draft.missingPart? = some part) : draft.IsFirstFlaw (.missing part) := by
  simp only [missingPart?, String.isEmpty_iff, List.isEmpty_iff] at hmissing
  split_ifs at hmissing with htitle hdescription hchoices hanswers <;> cases hmissing
  · exact ⟨.title htitle, fun other _ => Nat.zero_le _⟩
  · refine ⟨.description hdescription, ?_⟩
    intro other hother
    cases hother <;> first | contradiction | simp [Flaw.rank]
  · refine ⟨.choices hchoices, ?_⟩
    intro other hother
    cases hother <;> first | contradiction | simp [Flaw.rank]
  · refine ⟨.correctAnswer hanswers, ?_⟩
    intro other hother
    cases hother <;> first | contradiction | simp [Flaw.rank]

theorem isFirstFlaw_of_unsupported? {draft : Draft} {shape : Unsupported}
    (hmissing : draft.missingPart? = none) (hshape : draft.unsupported? = some shape) :
    draft.IsFirstFlaw (.unsupported shape) := by
  obtain ⟨htitle, hdescription, hchoices, hanswers⟩ := missingPart?_eq_none_iff.mp hmissing
  unfold unsupported? at hshape
  -- no part is missing, so the flaws of shape are the only ones, in this order of rank
  by_cases hblank : "" ∈ draft.choices
  · rw [if_pos (List.any_eq_true.mpr ⟨"", hblank, rfl⟩)] at hshape
    cases hshape
    refine ⟨.blankChoice hblank, ?_⟩
    intro other hother
    cases hother <;> first | contradiction | simp [Flaw.rank]
  · have hlabels : ¬ draft.choices.any String.isEmpty = true := by
      intro hany
      obtain ⟨label, hlabel, hempty⟩ := List.any_eq_true.mp hany
      exact hblank (String.isEmpty_iff.mp hempty ▸ hlabel)
    rw [if_neg hlabels] at hshape
    cases hrepeat : firstRepeat? draft.choices with
    | some label =>
        simp only [hrepeat, Option.some.injEq] at hshape
        subst hshape
        refine ⟨hasFlaw_duplicateChoice_iff.mpr hrepeat, ?_⟩
        intro other hother
        cases hother <;> first | contradiction | simp [Flaw.rank]
    | none =>
        simp only [hrepeat, Option.ite_none_right_eq_some, Option.some.injEq] at hshape
        obtain ⟨hmany, rfl⟩ := hshape
        refine ⟨.multipleCorrectAnswers hmany, ?_⟩
        intro other hother
        cases hother with
        | duplicateChoice hlabel hbefore hleast =>
            have hfirst := hasFlaw_duplicateChoice_iff.mp (.duplicateChoice hlabel hbefore hleast)
            rw [hrepeat] at hfirst
            cases hfirst
        | multipleCorrectAnswers => exact Nat.le_refl _
        | _ => contradiction

/-- A draft that passes has no flaw at all. -/
theorem not_hasFlaw_of_passes {draft : Draft} (hpasses : draft.Passes) (flaw : Flaw) :
    ¬ draft.HasFlaw flaw := by
  intro hflaw
  cases hflaw with
  | title htitle => exact hpasses.title_ne htitle
  | description hdescription => exact hpasses.description_ne hdescription
  | choices hchoices => exact hpasses.choices_ne hchoices
  | correctAnswer hanswers => simpa [hanswers] using hpasses.one_answer
  | blankChoice hblank => exact hpasses.label_ne "" hblank rfl
  | duplicateChoice hlabel hbefore hleast =>
      have hrepeat := hasFlaw_duplicateChoice_iff.mp (.duplicateChoice hlabel hbefore hleast)
      rw [firstRepeat?_eq_none_iff.mpr hpasses.choices_nodup] at hrepeat
      cases hrepeat
  | multipleCorrectAnswers hmany => exact absurd hpasses.one_answer (Nat.ne_of_gt hmany)

/-- A draft passes, or the first of its flaws is reported. -/
theorem validate_cases (draft : Draft) :
    ((∀ flaw, ¬ draft.HasFlaw flaw) ∧ draft.validate = .ok draft.question) ∨
      ∃ flaw, draft.IsFirstFlaw flaw ∧
        draft.validate = .error ⟨flaw, draft.displayTitle, draft.position⟩ := by
  cases hmissing : draft.missingPart? with
  | some part =>
      exact .inr ⟨.missing part, isFirstFlaw_of_missingPart? hmissing,
        validate_of_missingPart? hmissing⟩
  | none =>
      cases hshape : draft.unsupported? with
      | some shape =>
          exact .inr ⟨.unsupported shape, isFirstFlaw_of_unsupported? hmissing hshape,
            validate_of_unsupported? hmissing hshape⟩
      | none =>
          have hpasses := passes_iff.mpr ⟨hmissing, hshape⟩
          exact .inl ⟨not_hasFlaw_of_passes hpasses, validate_of_passes hpasses⟩

/-- A question is that of a draft if it has its fields, and a supplement just where there is
something in it. -/
theorem eq_question_iff {draft : Draft} {question : Question} :
    question = draft.question ↔
      question.title = draft.title ∧ question.description = draft.description ∧
        question.choices = draft.choices ∧ question.correctAnswers = draft.correctAnswers ∧
        ∀ html, question.supplement = some html ↔ html ≠ "" ∧ html = draft.supplement := by
  have hsupplement (html : String) :
      draft.question.supplement = some html ↔ html ≠ "" ∧ html = draft.supplement := by
    rw [Draft.question, Option.ite_none_left_eq_some, String.isEmpty_iff, Option.some.injEq]
    constructor
    · rintro ⟨hne, rfl⟩
      exact ⟨hne, rfl⟩
    · rintro ⟨hne, rfl⟩
      exact ⟨hne, rfl⟩
  constructor
  · rintro rfl
    exact ⟨rfl, rfl, rfl, rfl, hsupplement⟩
  · obtain ⟨title, description, choices, correctAnswers, supplement⟩ := question
    rintro ⟨rfl, rfl, rfl, rfl, hsame⟩
    obtain rfl : supplement = draft.question.supplement :=
      Option.ext fun html => (hsame html).trans (hsupplement html).symm
    rfl

/-- An error names the first flaw of the draft, and there is none without a flaw. It carries the
position and the title, or a word in the place of an empty title. A question has the parts of
the draft. -/
theorem validate_reports_first_flaw (draft : Draft) :
    (∀ error, draft.validate = .error error ↔
      draft.IsFirstFlaw error.flaw ∧ error.position = draft.position ∧
        error.title = if draft.title = "" then "(untitled)" else draft.title) ∧
    ∀ question, draft.validate = .ok question ↔
      (∀ flaw, ¬ draft.HasFlaw flaw) ∧
        question.title = draft.title ∧ question.description = draft.description ∧
        question.choices = draft.choices ∧ question.correctAnswers = draft.correctAnswers ∧
        ∀ html, question.supplement = some html ↔ html ≠ "" ∧ html = draft.supplement := by
  have htitle : draft.displayTitle = if draft.title = "" then "(untitled)" else draft.title := by
    simp only [displayTitle, String.isEmpty_iff, untitled]
  simp only [← eq_question_iff, ← htitle]
  -- either end of the check settles both equivalences
  rcases draft.validate_cases with ⟨hnone, hok⟩ | ⟨flaw, hfirst, herror⟩
  · constructor
    · intro error
      rw [hok]
      simp only [reduceCtorEq, false_iff]
      rintro ⟨⟨hflaw, -⟩, -⟩
      exact hnone _ hflaw
    · intro question
      rw [hok, Except.ok.injEq]
      constructor
      · rintro rfl
        exact ⟨hnone, rfl⟩
      · rintro ⟨-, rfl⟩
        rfl
  · constructor
    · intro error
      rw [herror, Except.error.injEq]
      constructor
      · rintro rfl
        exact ⟨hfirst, rfl, rfl⟩
      · obtain ⟨other, title, position⟩ := error
        rintro ⟨hother, rfl, rfl⟩
        rw [hfirst.unique hother]
    · intro question
      rw [herror]
      simp only [reduceCtorEq, false_iff]
      rintro ⟨hnone, -⟩
      exact hnone flaw hfirst.1

/-- Of two labels that occur twice, the one that is repeated first is named. -/
example : (⟨3, "Q", "d", ["a", "b", "b", "a"], ["a", "b"], "", true, true⟩ : Draft).validate =
    .error ⟨.unsupported (.duplicateChoice "b"), "Q", 3⟩ := by decide

end Draft

end QuizCompiler.Quiz
