import QuizCompiler.Proofs.Validation

/-! # What a section says of its question

The last quote and the last list of a section make the description and the choices; the HTML of
its other blocks is put together in their order. How the three kinds are mixed does not matter.
-/

namespace QuizCompiler.Quiz

open QuizCompiler.Text

/-! ## The last of its kind -/

section Lasts

variable {α : Type} (read? : Block → Option α)

/-- A block of a kind with none of that kind behind it is the last one. -/
theorem getLast?_filterMap_of_last {before after : List Block} {block : Block} {value : α}
    (hblock : read? block = some value) (hafter : ∀ other ∈ after, read? other = none) :
    ((before ++ block :: after).filterMap read?).getLast? = some value := by
  rw [List.filterMap_append, List.filterMap_cons_some hblock,
    List.filterMap_eq_nil_iff.mpr hafter]
  exact List.getLast?_concat

theorem getLast?_filterMap_of_none {content : List Block}
    (hnone : ∀ block ∈ content, read? block = none) :
    (content.filterMap read?).getLast? = none := by
  rw [List.filterMap_eq_nil_iff.mpr hnone]
  rfl

end Lasts

/-! ## Kept blocks -/

namespace Block

/-- Whether a block is kept as HTML. -/
def isKept : Block → Bool
  | .heading _ _ => true
  | .other _ => true
  | _ => false

/-- The HTML that a block is kept as. -/
def keptHtml : Block → String
  | .heading _ text => "<p>" ++ escapeAttribute text ++ "</p>\n"
  | .other html => html
  | _ => ""

/-- What a block adds to the supplement is what it is kept as. -/
theorem supplement_eq_keptHtml (block : Block) : block.supplement = block.keptHtml := by
  cases block with
  | heading level text => rw [supplement, keptHtml, escapeInTurn_eq_escapeAttribute]
  | _ => rfl

theorem keptHtml_of_not_isKept {block : Block} (hkept : block.isKept = false) :
    block.keptHtml = "" := by
  cases block with
  | quote text => rfl
  | list choices => rfl
  | _ => cases hkept

/-- Blocks that are not kept add nothing. -/
theorem join_keptHtml_filter (content : List Block) :
    String.join ((content.filter isKept).map keptHtml) = String.join (content.map keptHtml) := by
  induction content with
  | nil => rfl
  | cons block rest ih =>
      by_cases hkept : block.isKept = true
      · rw [List.filter_cons_of_pos hkept, List.map_cons, List.map_cons, String.join_cons,
          String.join_cons, ih]
      · rw [List.filter_cons_of_neg hkept, List.map_cons, String.join_cons, ih,
          keptHtml_of_not_isKept (Bool.eq_false_iff.mpr hkept), String.empty_append]

end Block

/-! ## Drafts of sections -/

/-- What a section says of the draft for its question. -/
structure Section.Describes (part : Section) (draft : Draft) : Prop where
  position : draft.position = part.position
  title : draft.title = trim part.heading
  description : ∀ before text after, part.content = before ++ .quote text :: after →
    (∀ block ∈ after, block.quote? = none) → draft.description = trim text
  no_description : (∀ block ∈ part.content, block.quote? = none) → draft.description = ""
  choices : ∀ before choices after, part.content = before ++ .list choices :: after →
    (∀ block ∈ after, block.list? = none) →
    draft.choices = choices.map Choice.label ∧
      draft.correctAnswers = (choices.filter Choice.checked).map Choice.label
  no_choices : (∀ block ∈ part.content, block.list? = none) →
    draft.choices = [] ∧ draft.correctAnswers = []
  supplement : draft.supplement = String.join (part.content.map Block.keptHtml)

/-- The draft that is made of the last quote, the last list and the kept blocks is the one
described. -/
theorem Section.describes_describedBy (part : Section) :
    part.Describes (Draft.describedBy part) := by
  obtain ⟨heading, position, content⟩ := part
  constructor
  case position => rfl
  case title => rfl
  case description =>
    rintro before text after rfl hafter
    rw [Draft.describedBy, lastQuote?, getLast?_filterMap_of_last Block.quote? rfl hafter]
    rfl
  case no_description =>
    intro hnone
    rw [Draft.describedBy, lastQuote?, getLast?_filterMap_of_none Block.quote? hnone]
    rfl
  case choices =>
    rintro before choices after rfl hafter
    rw [Draft.describedBy, lastList?, getLast?_filterMap_of_last Block.list? rfl hafter]
    exact ⟨rfl, rfl⟩
  case no_choices =>
    intro hnone
    rw [Draft.describedBy, lastList?, getLast?_filterMap_of_none Block.list? hnone]
    exact ⟨rfl, rfl⟩
  case supplement =>
    rw [Draft.describedBy, funext Block.supplement_eq_keptHtml]

/-- A draft is what its section says, and it is the same if quotes, lists and other blocks are
mixed in another way, as long as those of each kind stay in their order. -/
theorem ofSection_describes (part : Section) :
    part.Describes (Draft.ofSection part).value ∧
      ∀ other : Section, other.heading = part.heading → other.position = part.position →
        other.content.filterMap Block.quote? = part.content.filterMap Block.quote? →
        other.content.filterMap Block.list? = part.content.filterMap Block.list? →
        other.content.filter Block.isKept = part.content.filter Block.isKept →
        (Draft.ofSection other).value = (Draft.ofSection part).value := by
  rw [Draft.value_ofSection]
  refine ⟨part.describes_describedBy, ?_⟩
  intro other hheading hposition hquotes hlists hkept
  rw [Draft.value_ofSection]
  have hsupplement : String.join (other.content.map Block.supplement) =
      String.join (part.content.map Block.supplement) := by
    rw [funext Block.supplement_eq_keptHtml, ← Block.join_keptHtml_filter, hkept,
      Block.join_keptHtml_filter]
  simp only [Draft.describedBy, Section.lastQuote?, Section.lastList?, hheading, hposition,
    hquotes, hlists, hsupplement]

/-- A section with two quotes and two lists. -/
def mixedSection : Section :=
  ⟨" Q ", 2, [.quote "d", .list [⟨"a", true⟩], .other "<hr />\n",
    .list [⟨"b", true⟩, ⟨"c", false⟩], .heading 1 "1 < 2", .quote " e "]⟩

/-- The same blocks, kind by kind. -/
def sortedSection : Section :=
  ⟨" Q ", 2, [.list [⟨"a", true⟩], .list [⟨"b", true⟩, ⟨"c", false⟩], .quote "d", .quote " e ",
    .other "<hr />\n", .heading 1 "1 < 2"]⟩

/-- Sorting the blocks by kind, with the order in each kind kept, leaves the draft as it was. -/
theorem ofSection_sortedSection :
    (Draft.ofSection sortedSection).value = (Draft.ofSection mixedSection).value ∧
      (Draft.ofSection mixedSection).value.description = "e" ∧
      (Draft.ofSection mixedSection).value.correctAnswers = ["b"] ∧
      (Draft.ofSection mixedSection).value.supplement = "<hr />\n<p>1 &lt; 2</p>\n" := by
  obtain ⟨hdescribes, hmixed⟩ := ofSection_describes mixedSection
  refine ⟨hmixed sortedSection rfl rfl rfl rfl rfl, ?_, ?_, ?_⟩
  · rw [hdescribes.description (mixedSection.content.take 5) " e " [] rfl (by simp)]
    decide
  · exact (hdescribes.choices (mixedSection.content.take 3) [⟨"b", true⟩, ⟨"c", false⟩]
      [.heading 1 "1 < 2", .quote " e "] rfl (by simp [Block.list?])).2
  · rw [hdescribes.supplement]
    decide

end QuizCompiler.Quiz
