import QuizCompiler.Proofs.Names

/-! # Documents under rewording

What is drawn for a document depends on how many questions there are and on which of them
have a supplement, but on none of their texts. Two lists of questions that agree in this get
the same page order and the same names from a stream, and leave it at the same place.
-/

namespace QuizCompiler.Random

namespace Draw

/-! ## Draws side by side -/

variable {α β γ δ : Type}

/-- Two draws keep step if from every place of the stream either both have a result or none has,
and if both have, the results are related and the draws stop at the same place. -/
def KeepStep (R : α → β → Prop) (first : Draw α) (second : Draw β) : Prop :=
  ∀ start, Option.Rel (fun run other => R run.1 other.1 ∧ run.2 = other.2) (first start)
    (second start)

namespace KeepStep

theorem refl (draw : Draw α) : KeepStep Eq draw draw := by
  intro start
  cases draw start with
  | none => exact .none
  | some run => exact .some ⟨rfl, rfl⟩

theorem pure {R : α → β → Prop} {value : α} {other : β} (hrelated : R value other) :
    KeepStep R (Pure.pure value) (Pure.pure other) := fun _ => .some ⟨hrelated, rfl⟩

/-- Draws that keep step go on keeping step with what they return. -/
theorem bind {R : α → β → Prop} {S : γ → δ → Prop} {first : Draw α} {second : Draw β}
    {next : α → Draw γ} {other : β → Draw δ} (hfirst : KeepStep R first second)
    (hnext : ∀ value result, R value result → KeepStep S (next value) (other result)) :
    KeepStep S (first >>= next) (second >>= other) := by
  intro start
  change Option.Rel _ ((first start).bind fun run => next run.1 run.2)
    ((second start).bind fun run => other run.1 run.2)
  have hrun := hfirst start
  generalize first start = run, second start = result at hrun ⊢
  cases hrun with
  | none => exact .none
  | @some run result hrun =>
      obtain ⟨value, middle⟩ := run
      obtain ⟨hrelated, rfl⟩ := hrun
      exact hnext value result.1 hrelated result.2

/-- A draw that keeps step with one that ends does so too, at the same place of the stream. -/
theorem exists_result {R : α → β → Prop} {first : Draw α} {second : Draw β}
    (hkeep : KeepStep R first second) {start stop : Nat} {value : α}
    (hvalue : first start = some (value, stop)) :
    ∃ result, second start = some (result, stop) ∧ R value result := by
  have hrun := hkeep start
  rw [hvalue] at hrun
  generalize second start = result at hrun ⊢
  cases hrun with
  | @some _ result hrun =>
      obtain ⟨hrelated, rfl⟩ := hrun
      exact ⟨result.1, rfl, hrelated⟩

end KeepStep

/-! ## Patience -/

/-- A draw is extended by one that has the same result wherever it has one. -/
def ExtendedBy (draw more : Draw α) : Prop :=
  ∀ start run, draw start = some run → more start = some run

namespace ExtendedBy

theorem refl (draw : Draw α) : ExtendedBy draw draw := fun _ _ hrun => hrun

theorem bind {draw more : Draw α} {next others : α → Draw β} (hdraw : ExtendedBy draw more)
    (hnext : ∀ value, ExtendedBy (next value) (others value)) :
    ExtendedBy (draw >>= next) (more >>= others) := by
  rintro start ⟨result, stop⟩ hrun
  obtain ⟨value, middle, hvalue, hresult⟩ := bind_eq_some.mp hrun
  exact bind_eq_some.mpr ⟨value, middle, hdraw _ _ hvalue, hnext value _ _ hresult⟩

end ExtendedBy

end Draw

section Patience

variable {patience more : Nat}

/-- With more patience, a draw that ended ends the same way. -/
theorem drawUntil_extendedBy {α : Type} (hmore : patience ≤ more) (width : Nat)
    (read? : Nat → Option α) :
    (drawUntil width read? patience).ExtendedBy (drawUntil width read? more) := by
  rintro start ⟨value, stop⟩ hrun
  obtain ⟨k, hk, hread⟩ := drawUntil_eq_some.mp hrun
  exact drawUntil_eq_some.mpr ⟨k, by omega, hread⟩

theorem drawSwaps_extendedBy (hmore : patience ≤ more) (words : Words) (n : Nat) :
    (drawSwaps words patience n).ExtendedBy (drawSwaps words more n) := by
  induction n with
  | zero => exact .refl _
  | succ n ih => exact (drawUntil_extendedBy hmore _ _).bind fun _ => ih.bind fun _ => .refl _

theorem shuffle_extendedBy {α : Type} (hmore : patience ≤ more) (words : Words)
    (items : List α) : (shuffle words patience items).ExtendedBy (shuffle words more items) :=
  (drawSwaps_extendedBy hmore words _).bind fun _ => .refl _

end Patience

end QuizCompiler.Random

namespace QuizCompiler.Quiz

open QuizCompiler.Random

section Patience

variable {patience more : Nat}

theorem drawPage_extendedBy (hmore : patience ≤ more) (words : Words) (issued : List String)
    (question : Question) :
    (drawPage words patience issued question).ExtendedBy
      (drawPage words more issued question) := by
  unfold drawPage
  cases question.supplement with
  | none => exact (drawUntil_extendedBy hmore _ _).bind fun _ => .refl _
  | some html =>
      exact (drawUntil_extendedBy hmore _ _).bind fun _ =>
        (drawUntil_extendedBy hmore _ _).bind fun _ => .refl _

theorem drawPages_extendedBy (hmore : patience ≤ more) (words : Words) (issued : List String)
    (questions : List Question) :
    (drawPages words patience issued questions).ExtendedBy
      (drawPages words more issued questions) := by
  induction questions generalizing issued with
  | nil => exact .refl _
  | cons question rest ih =>
      exact (drawPage_extendedBy hmore words issued question).bind fun _ =>
        (ih _).bind fun _ => .refl _

/-- More patience does not change a document. -/
theorem assemble_extendedBy (hmore : patience ≤ more) (words : Words) (title : String)
    (questions : List Question) (config : Config) :
    (assemble words patience title questions config).ExtendedBy
      (assemble words more title questions config) :=
  (shuffle_extendedBy hmore words questions).bind fun _ =>
    (drawPages_extendedBy hmore words _ _).bind fun _ => .refl _

end Patience

/-! ## What the texts leave alone -/

/-- Two questions of one shape may differ in all texts, but both have a supplement or neither
has one. -/
def Question.SameShape (question other : Question) : Prop :=
  question.supplement.isSome = other.supplement.isSome

/-- The name of an element, and the expression that enables it if it is a prompt. -/
def Element.mark : Element → String × Option String
  | markup element => (element.name, none)
  | prompt element => (element.name, some element.enabledIf)

def Page.marks (page : Page) : List (String × Option String) := page.elements.map Element.mark

/-- A document shows `n` questions in the given order. -/
def Document.ShowsInOrder {n : Nat} (document : Document) (order : Equiv.Perm (Fin n))
    (questions : List Question) : Prop :=
  document.pages.length = n ∧ questions.length = n ∧
    ∀ place : Fin n, ∃ page question, document.pages[place.val]? = some page ∧
      questions[(order place).val]? = some question ∧ page.Shows question

theorem getElem?_reordered {α : Type} (swaps : List Nat) (items : List α) {n : Nat}
    (hlength : items.length = n) (place : Fin n) :
    (reordered swaps items)[place.val]? = items[(reorder n swaps place).val]? := by
  subst hlength
  simp [reordered]

/-- The pages show the questions in the order of the exchanges. -/
theorem Document.showsInOrder_of_reordered {document : Document} {questions : List Question}
    {swaps : List Nat} {n : Nat} (hlength : questions.length = n)
    (hshows : List.Forall₂ Page.Shows document.pages (reordered swaps questions)) :
    document.ShowsInOrder (reorder n swaps) questions := by
  obtain ⟨hpages, hget⟩ := List.forall₂_iff_get.mp hshows
  have hordered : (reordered swaps questions).length = n := by simpa [reordered] using hlength
  refine ⟨hpages.trans hordered, hlength, fun place => ?_⟩
  have hplace : place.val < document.pages.length := by
    rw [hpages, hordered]
    exact place.isLt
  have hquestion := getElem?_reordered swaps questions hlength place
  rw [List.getElem?_eq_getElem (hpages ▸ hplace)] at hquestion
  exact ⟨_, _, List.getElem?_eq_getElem hplace, hquestion.symm, hget place.val hplace _⟩

/-- Lists that are related item by item stay so when both are reordered by the same indices. -/
theorem forall₂_reordered {α β : Type} {R : α → β → Prop} {items : List α} {others : List β}
    (hrelated : List.Forall₂ R items others) (swaps : List Nat) :
    List.Forall₂ R (reordered swaps items) (reordered swaps others) := by
  obtain ⟨hlength, hget⟩ := List.forall₂_iff_get.mp hrelated
  refine List.forall₂_iff_get.mpr ⟨by simpa [reordered] using hlength, fun k hk hkOther => ?_⟩
  have hplace : k < items.length := by simpa [reordered] using hk
  have hitem := getElem?_reordered swaps items rfl ⟨k, hplace⟩
  have hother := getElem?_reordered swaps others hlength.symm ⟨k, hplace⟩
  have hsource := (reorder items.length swaps ⟨k, hplace⟩).isLt
  rw [List.getElem?_eq_getElem hk, List.getElem?_eq_getElem hsource, Option.some.injEq] at hitem
  rw [List.getElem?_eq_getElem hkOther, List.getElem?_eq_getElem (hlength ▸ hsource),
    Option.some.injEq] at hother
  rw [List.get_eq_getElem, List.get_eq_getElem, hitem, hother]
  exact hget _ hsource _

section Drawing

variable {words : Words} {patience : Nat}

/-- How many names a question needs does not depend on its texts. -/
theorem drawPage_keepStep {question other : Question} (hshape : question.SameShape other)
    (issued : List String) :
    Draw.KeepStep (fun run result => run.1.marks = result.1.marks ∧ run.2 = result.2)
      (drawPage words patience issued question) (drawPage words patience issued other) := by
  unfold drawPage
  rw [Question.SameShape] at hshape
  -- the supplements may differ, but both questions have one or neither does
  cases hquestion : question.supplement with
  | none =>
      have hother : other.supplement = none := by simpa [hquestion] using hshape
      rw [hother]
      refine (Draw.KeepStep.refl _).bind ?_
      rintro name _ rfl
      exact .pure ⟨rfl, rfl⟩
  | some html =>
      obtain ⟨otherHtml, hother⟩ : ∃ otherHtml, other.supplement = some otherHtml := by
        rw [hquestion] at hshape
        exact Option.isSome_iff_exists.mp hshape.symm
      rw [hother]
      refine (Draw.KeepStep.refl _).bind ?_
      rintro mark _ rfl
      refine (Draw.KeepStep.refl _).bind ?_
      rintro name _ rfl
      exact .pure ⟨rfl, rfl⟩

/-- The same names are issued for questions of the same shape. -/
theorem drawPages_keepStep {questions others : List Question}
    (hshapes : List.Forall₂ Question.SameShape questions others) (issued : List String) :
    Draw.KeepStep (fun pages results => pages.map Page.marks = results.map Page.marks)
      (drawPages words patience issued questions) (drawPages words patience issued others) := by
  induction hshapes generalizing issued with
  | nil => exact .pure rfl
  | cons hshape _ ih =>
      refine (drawPage_keepStep hshape issued).bind ?_
      rintro ⟨page, names⟩ ⟨other, _⟩ ⟨hmarks, rfl⟩
      refine (ih names).bind ?_
      intro pages results hpages
      exact .pure (by rw [List.map_cons, List.map_cons, hmarks, hpages])

/-- A document of reworded questions is assembled from the same words, with the same patience. -/
theorem exists_assemble_of_sameShape {start stop : Nat} {title : String}
    {questions others : List Question} {config : Config} {document : Document}
    (hshapes : List.Forall₂ Question.SameShape questions others) (otherTitle : String)
    (otherConfig : Config)
    (hrun : assemble words patience title questions config start = some (document, stop)) :
    ∃ other,
      assemble words patience otherTitle others otherConfig start = some (other, stop) ∧
      document.pages.map Page.marks = other.pages.map Page.marks ∧
      ∃ order : Equiv.Perm (Fin questions.length),
        document.ShowsInOrder order questions ∧ other.ShowsInOrder order others := by
  have hlength := hshapes.length_eq
  obtain ⟨swaps, middle, pages, hswaps, hpages, rfl⟩ := assemble_eq_some.mp hrun
  -- as many indices are drawn, and the pages below them keep step
  obtain ⟨otherPages, hotherPages, hmarks⟩ :=
    (drawPages_keepStep (forall₂_reordered hshapes swaps) []).exists_result hpages
  refine ⟨_, assemble_eq_some.mpr
    ⟨swaps, middle, otherPages, hlength ▸ hswaps, hotherPages, rfl⟩, hmarks,
    reorder questions.length swaps, ?_, ?_⟩
  · exact Document.showsInOrder_of_reordered rfl (drawPages_shows hpages)
  · exact Document.showsInOrder_of_reordered hlength.symm (drawPages_shows hotherPages)

end Drawing

/-- A change of wording changes nothing but the wording: on every stream, questions are assembled
just if reworded ones are, which show the same page order, have the same names and are enabled
by the same expressions, and leave the stream at the same place. -/
theorem assemble_stable_under_rewording (words : Words) (start : Nat)
    (title otherTitle : String) (questions others : List Question) (config otherConfig : Config)
    (hshapes : List.Forall₂ Question.SameShape questions others) :
    ((∃ patience run, assemble words patience title questions config start = some run) ↔
      ∃ patience run, assemble words patience otherTitle others otherConfig start = some run) ∧
    ∀ (patience otherPatience stop otherStop : Nat) (document other : Document),
      assemble words patience title questions config start = some (document, stop) →
      assemble words otherPatience otherTitle others otherConfig start = some (other, otherStop) →
      stop = otherStop ∧ document.pages.map Page.marks = other.pages.map Page.marks ∧
      ∃ order : Equiv.Perm (Fin questions.length),
        document.ShowsInOrder order questions ∧ other.ShowsInOrder order others := by
  refine ⟨⟨?_, ?_⟩, ?_⟩
  · rintro ⟨patience, ⟨document, stop⟩, hrun⟩
    obtain ⟨other, hother, -⟩ :=
      exists_assemble_of_sameShape hshapes otherTitle otherConfig hrun
    exact ⟨patience, _, hother⟩
  · rintro ⟨patience, ⟨other, stop⟩, hrun⟩
    have hback : List.Forall₂ Question.SameShape others questions :=
      (hshapes.imp fun _ _ hshape => Eq.symm hshape).flip
    obtain ⟨document, hdocument, -⟩ := exists_assemble_of_sameShape hback title config hrun
    exact ⟨patience, _, hdocument⟩
  · intro patience otherPatience stop otherStop document other hrun hother
    -- both are looked at with the patience of the one that had more
    have hmore := assemble_extendedBy (Nat.le_max_left patience otherPatience) words title
      questions config _ _ hrun
    have hotherMore := assemble_extendedBy (Nat.le_max_right patience otherPatience) words
      otherTitle others otherConfig _ _ hother
    obtain ⟨_, hsame, hmarks, horder⟩ :=
      exists_assemble_of_sameShape hshapes otherTitle otherConfig hmore
    obtain ⟨rfl, rfl⟩ := by simpa [hotherMore] using hsame
    exact ⟨rfl, hmarks, horder⟩

/-- Questions with the shapes of `twoQuestions`. -/
def rewordedQuestions : List Question :=
  [⟨"C", "c", ["x", "y", "z"], ["z"], none⟩, ⟨"D", "d", ["x"], ["x"], some "<hr />\n"⟩]

theorem assemble_rewordedQuestions :
    List.Forall₂ Question.SameShape twoQuestions rewordedQuestions ∧
    ∃ document other stop,
      assemble slowWords 2 "T" twoQuestions Config.default 0 = some (document, stop) ∧
      assemble slowWords 3 "U" rewordedQuestions Config.default 0 = some (other, stop) ∧
      document.pages.map Page.marks = other.pages.map Page.marks ∧
      ∃ order : Equiv.Perm (Fin 2),
        document.ShowsInOrder order twoQuestions ∧ other.ShowsInOrder order rewordedQuestions := by
  have hshapes : List.Forall₂ Question.SameShape twoQuestions rewordedQuestions :=
    .cons rfl (.cons rfl .nil)
  have hreturns : (assemble slowWords 2 "T" twoQuestions Config.default 0).isSome = true := by
    decide +kernel
  have hothers : (assemble slowWords 3 "U" rewordedQuestions Config.default 0).isSome = true := by
    decide +kernel
  obtain ⟨⟨document, stop⟩, hrun⟩ := Option.isSome_iff_exists.mp hreturns
  obtain ⟨⟨other, otherStop⟩, hother⟩ := Option.isSome_iff_exists.mp hothers
  obtain ⟨rfl, hmarks, horder⟩ := (assemble_stable_under_rewording slowWords 0 "T" "U"
    twoQuestions rewordedQuestions Config.default Config.default hshapes).2 2 3 stop otherStop
    document other hrun hother
  exact ⟨hshapes, document, other, stop, hrun, hother, hmarks, horder⟩

end QuizCompiler.Quiz
