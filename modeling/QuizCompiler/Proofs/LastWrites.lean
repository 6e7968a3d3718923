import Mathlib.Data.List.DropRight
import QuizCompiler.Proofs.Edits

/-! # What a draft remembers

Whatever is done with a draft, each of its fields holds what was last written to it, and a draft
that is made anew is written to in every field. A quote or a list is warned of just if it is not
the first since the draft was made, whatever else was done in between.
-/

namespace QuizCompiler.Quiz.Draft

/-- Something that is done with a draft. -/
inductive Use
  /-- Put a draft for a heading in its place. -/
  | make (heading : String) (position : Nat)
  | change (edit : Edit)

def use (draft : Draft) : Use → Logged Draft
  | .make heading position => return start heading position
  | .change edit => draft.edit edit

def useAll (draft : Draft) (uses : List Use) : Logged Draft := uses.foldlM use draft

namespace Use

/-! ## What a use writes -/

/-- Whether a use leaves nothing of the draft that was there before. -/
def renews : Use → Bool
  | .make _ _ => true
  | .change .clear => true
  | _ => false

def position? : Use → Option Nat
  | .make _ position => some position
  | .change .clear => some 0
  | .change (.assignPosition position) => some position
  | _ => none

def title? : Use → Option String
  | .make heading _ => some (Text.trim heading)
  | .change .clear => some ""
  | .change (.assignTitle title) => some title
  | _ => none

def description? : Use → Option String
  | .make _ _ => some ""
  | .change .clear => some ""
  | .change (.describe text) => some (Text.trim text)
  | .change (.assignDescription description) => some description
  | _ => none

def choices? : Use → Option (List String)
  | .make _ _ => some []
  | .change .clear => some []
  | .change (.offer choices) => some (labels choices)
  | .change (.assignChoices labels) => some labels
  | _ => none

def correctAnswers? : Use → Option (List String)
  | .make _ _ => some []
  | .change .clear => some []
  | .change (.offer choices) => some (checkedLabels choices)
  | .change (.assignCorrectAnswers labels) => some labels
  | _ => none

def supplement? : Use → Option String
  | .make _ _ => some ""
  | .change .clear => some ""
  | .change (.assignSupplement html) => some html
  | _ => none

/-- The HTML that a use adds to the supplement. -/
def added? : Use → Option String
  | .change (.supplement html) => some html
  | _ => none

def describes : Use → Bool
  | .change (.describe _) => true
  | _ => false

def offers : Use → Bool
  | .change (.offer _) => true
  | _ => false

end Use

/-- What the last use that writes a field writes to it. -/
def lastWritten {α : Type} (writes : Use → Option α) (initial : α) (uses : List Use) : α :=
  (uses.filterMap writes).getLast?.getD initial

/-- The HTML that was added since the supplement was last written as a whole. -/
def addedSince (uses : List Use) : String :=
  String.join ((uses.rtakeWhile fun next => next.supplement?.isNone).filterMap Use.added?)

/-- The uses since the draft was last made. -/
def usesSince (uses : List Use) : List Use := uses.rtakeWhile fun next => !next.renews

/-- The warning for what is done next with a draft: for a quote if there was one since the draft
was made, and likewise for a list. It calls the question as the draft does at that moment. -/
def warning? (uses : List Use) (draft : Draft) : Use → Option Notice
  | .change (.describe _) =>
      if (usesSince uses).any Use.describes then
        some (.descriptionReplaced draft.position draft.displayTitle)
      else none
  | .change (.offer _) =>
      if (usesSince uses).any Use.offers then
        some (.choicesReplaced draft.position draft.displayTitle)
      else none
  | _ => none

/-- The warning for the use at a place. -/
def warningAt? (uses : List Use) (place : Nat) : Option Notice :=
  uses[place]?.bind (warning? (uses.take place) (blank.useAll (uses.take place)).value)

/-- Every field of a draft holds what was last written to it. -/
structure Recalls (draft : Draft) (uses : List Use) : Prop where
  position : draft.position = lastWritten Use.position? 0 uses
  title : draft.title = lastWritten Use.title? "" uses
  description : draft.description = lastWritten Use.description? "" uses
  choices : draft.choices = lastWritten Use.choices? [] uses
  correctAnswers : draft.correctAnswers = lastWritten Use.correctAnswers? [] uses
  supplement : draft.supplement = lastWritten Use.supplement? "" uses ++ addedSince uses

/-! ## One more use -/

section Concat

variable (draft : Draft) (uses : List Use) (next : Use)

/-- One more use starts from the draft that the others leave, and its notices come last. -/
theorem useAll_concat :
    draft.useAll (uses ++ [next]) =
      ⟨((draft.useAll uses).value.use next).value,
        (draft.useAll uses).log ++ ((draft.useAll uses).value.use next).log⟩ := by
  induction uses generalizing draft with
  | nil => simp [useAll]
  | cons first rest ih =>
      change (draft.use first >>= fun draft => draft.useAll (rest ++ [next])) = _
      rw [Logged.bind_eq, ih, ← List.append_assoc]
      rfl

theorem value_useAll_concat :
    (draft.useAll (uses ++ [next])).value = ((draft.useAll uses).value.use next).value := by
  rw [useAll_concat]

/-- The last use decides if it writes, and else what was written last before it. -/
theorem lastWritten_concat {α : Type} (writes : Use → Option α) (initial : α) :
    lastWritten writes initial (uses ++ [next]) =
      (writes next).getD (lastWritten writes initial uses) := by
  cases hwrites : writes next with
  | none => simp [lastWritten, hwrites]
  | some value => simp [lastWritten, hwrites]

/-- What is added goes on from what was added before, unless the use sets the supplement itself. -/
theorem addedSince_concat :
    addedSince (uses ++ [next]) =
      if next.supplement?.isNone then addedSince uses ++ next.added?.getD "" else "" := by
  unfold addedSince
  rw [List.rtakeWhile_concat]
  split
  next =>
    rw [List.filterMap_append, String.join_append]
    cases hadded : next.added? <;> simp [hadded]
  next => rfl

/-- A use that makes a new draft forgets all flags, and any other one can only set them. -/
theorem any_usesSince_concat (sets : Use → Bool) :
    (usesSince (uses ++ [next])).any sets =
      (!next.renews && ((usesSince uses).any sets || sets next)) := by
  unfold usesSince
  rw [List.rtakeWhile_concat]
  cases next.renews with
  | true => rfl
  | false => simp

end Concat

/-! ## Fields and flags -/

/-- A field that every use leaves as it is or writes holds what was last written. -/
theorem eq_lastWritten {α : Type} {field : Draft → α} {writes : Use → Option α}
    (hstep : ∀ draft next, field (use draft next).value = (writes next).getD (field draft))
    (draft : Draft) (uses : List Use) :
    field (draft.useAll uses).value = lastWritten writes (field draft) uses := by
  induction uses using List.reverseRecOn with
  | nil => rfl
  | append_singleton uses next ih => rw [value_useAll_concat, hstep, ih, lastWritten_concat]

/-- A flag that is set by some uses, and is not set in a draft that was just made, tells whether
there was such a use since then. -/
theorem eq_any_usesSince {flag : Draft → Bool} {sets : Use → Bool} {draft : Draft}
    (hstart : flag draft = false)
    (hstep : ∀ draft next, flag (use draft next).value =
      (!next.renews && (flag draft || sets next))) (uses : List Use) :
    flag (draft.useAll uses).value = (usesSince uses).any sets := by
  induction uses using List.reverseRecOn with
  | nil => exact hstart
  | append_singleton uses next ih => rw [value_useAll_concat, hstep, ih, any_usesSince_concat]

theorem described_useAll (uses : List Use) :
    (blank.useAll uses).value.described = (usesSince uses).any Use.describes := by
  apply eq_any_usesSince rfl
  intro draft next
  cases next with
  | make heading position => rfl
  | change change =>
      cases change with
      | describe text => simp [use, edit, setDescription, Use.renews, Use.describes]
      | clear => rfl
      | _ => exact (Bool.or_false _).symm

theorem offered_useAll (uses : List Use) :
    (blank.useAll uses).value.offered = (usesSince uses).any Use.offers := by
  apply eq_any_usesSince rfl
  intro draft next
  cases next with
  | make heading position => rfl
  | change change =>
      cases change with
      | offer choices => simp [use, edit, setChoices, Use.renews, Use.offers]
      | clear => rfl
      | _ => exact (Bool.or_false _).symm

/-- A use sets the supplement or adds to it. -/
theorem supplement_use (draft : Draft) (next : Use) :
    (draft.use next).value.supplement =
      next.supplement?.getD (draft.supplement ++ next.added?.getD "") := by
  cases next with
  | make heading position => rfl
  | change change =>
      cases change with
      | supplement html => rfl
      | assignSupplement html => rfl
      | clear => rfl
      | _ => exact String.append_empty.symm

/-- The supplement is what was set last, followed by all that was added since. -/
theorem supplement_useAll (uses : List Use) :
    (blank.useAll uses).value.supplement =
      lastWritten Use.supplement? "" uses ++ addedSince uses := by
  induction uses using List.reverseRecOn with
  | nil => rfl
  | append_singleton uses next ih =>
      rw [value_useAll_concat, supplement_use, ih, lastWritten_concat, addedSince_concat]
      cases next.supplement? with
      | none => simp [String.append_assoc]
      | some html => simp

theorem recalls_useAll (uses : List Use) : (blank.useAll uses).value.Recalls uses := by
  constructor
  case supplement => exact supplement_useAll uses
  all_goals
    apply eq_lastWritten
    intro draft next
    cases next with
    | make heading position => rfl
    | change change => cases change <;> rfl

/-! ## Warnings -/

/-- A use warns of what it replaces, and of nothing else. -/
theorem log_use (uses : List Use) (next : Use) :
    ((blank.useAll uses).value.use next).log =
      (warning? uses (blank.useAll uses).value next).toList := by
  cases next with
  | make heading position => rfl
  | change change =>
      cases change with
      | describe text =>
          rw [warning?, ← described_useAll]
          simp only [use, edit, setDescription, Logged.bind_eq, Logged.noteIf]
          cases (blank.useAll uses).value.described <;> rfl
      | offer choices =>
          rw [warning?, ← offered_useAll]
          simp only [use, edit, setChoices, Logged.bind_eq, Logged.noteIf]
          cases (blank.useAll uses).value.offered <;> rfl
      | _ => rfl

theorem level_of_warning? {uses : List Use} {draft : Draft} {next : Use} {notice : Notice}
    (hwarning : warning? uses draft next = some notice) : notice.level = .warn := by
  unfold warning? at hwarning
  split at hwarning
  · obtain ⟨-, hnotice⟩ := Option.ite_none_right_eq_some.mp hwarning
    cases hnotice
    rfl
  · obtain ⟨-, hnotice⟩ := Option.ite_none_right_eq_some.mp hwarning
    cases hnotice
    rfl
  · cases hwarning

/-- The notices are those of the uses, place by place. -/
theorem log_useAll (uses : List Use) :
    (blank.useAll uses).log = (List.range uses.length).filterMap (warningAt? uses) := by
  induction uses using List.reverseRecOn with
  | nil => rfl
  | append_singleton uses next ih =>
      have habove : ∀ place ∈ List.range uses.length,
          warningAt? (uses ++ [next]) place = warningAt? uses place := by
        intro place hplace
        have hlt := List.mem_range.mp hplace
        simp only [warningAt?, List.getElem?_append_left hlt,
          List.take_append_of_le_length (Nat.le_of_lt hlt)]
      have hlast : warningAt? (uses ++ [next]) uses.length =
          warning? uses (blank.useAll uses).value next := by
        simp [warningAt?]
      rw [useAll_concat, log_use, ih, List.length_append, List.length_singleton, List.range_succ,
        List.filterMap_append, List.filterMap_congr habove, List.filterMap_cons, hlast]
      cases warning? uses (blank.useAll uses).value next <;> rfl

/-- Whatever is done with a draft, each field holds what was last written to it since the draft was
made, and the supplement all that was added to it since. What is done next is warned of just if it
is a quote or a list that is not the first of its kind since then; so the log holds these warnings,
in order. -/
theorem useAll_recalls_and_warns (uses : List Use) :
    (blank.useAll uses).value.Recalls uses ∧
      (∀ next : Use, ((blank.useAll uses).value.use next).log =
        (warning? uses (blank.useAll uses).value next).toList) ∧
      (blank.useAll uses).log = (List.range uses.length).filterMap (warningAt? uses) ∧
      ∀ notice ∈ (blank.useAll uses).log, notice.level = .warn := by
  refine ⟨recalls_useAll uses, log_use uses, log_useAll uses, ?_⟩
  intro notice hnotice
  rw [log_useAll] at hnotice
  obtain ⟨place, -, hwarning⟩ := List.mem_filterMap.mp hnotice
  obtain ⟨next, -, hwarning⟩ := Option.bind_eq_some_iff.mp hwarning
  exact level_of_warning? hwarning

/-- An empty quote counts as one, an assignment does not, and a clear draft forgets both. -/
def clearedUses : List Use :=
  [.make " Q " 3, .change (.describe ""), .change (.assignDescription "a"),
    .change (.describe "b"), .change .clear, .change (.describe " c ")]

/-- A reset between two descriptions keeps the second from replacing the first. -/
theorem useAll_clearedUses :
    (blank.useAll clearedUses).value.description = "c" ∧
      (blank.useAll clearedUses).log = [.descriptionReplaced 3 "Q"] ∧
      Notice.descriptionReplaced 3 "Q" ∈ (blank.useAll clearedUses).log ∧
      (Notice.descriptionReplaced 3 "Q").level = .warn := by
  obtain ⟨hrecalls, -, hlog, hlevel⟩ := useAll_recalls_and_warns clearedUses
  have hwarnings : (List.range clearedUses.length).filterMap (warningAt? clearedUses) =
      [.descriptionReplaced 3 "Q"] := by decide +kernel
  have hmem : Notice.descriptionReplaced 3 "Q" ∈ (blank.useAll clearedUses).log := by
    rw [hlog, hwarnings]
    exact List.mem_singleton_self _
  exact ⟨hrecalls.description.trans (by decide +kernel), hlog.trans hwarnings, hmem,
    hlevel _ hmem⟩

end QuizCompiler.Quiz.Draft
