import QuizCompiler.Proofs.Printing
import QuizCompiler.Proofs.Reading
import QuizCompiler.Quiz.Document

/-! # Documents and their texts

A document is recovered from the text that is written for it, so no two documents have the
same text. Every decoder of a part recovers that part; a record is recovered by following
the order in which its fields are read.
-/

namespace QuizCompiler.Quiz

open Data

/-! ## Decoders that recover what is written -/

/-- A decoder recovers every value from what is written for it. -/
def Recovers {α : Type} (decode : Decoder α) (write : α → Json) : Prop :=
  ∀ value, decode (write value).toLocated = .ok value

theorem recovers_text : Recovers Decoder.text Json.text := fun _ => rfl

theorem toItems_map {α : Type} (write : α → Json) (values : List α) :
    Json.toItems (values.map write) = values.map fun value => (write value).toLocated := by
  induction values with
  | nil => rfl
  | cons value values ih => rw [List.map_cons, Json.toItems, ih]; rfl

/-- What can be recovered one by one can be recovered in a list. -/
theorem Recovers.list {α : Type} {decode : Decoder α} {write : α → Json}
    (hrecovers : Recovers decode write) :
    Recovers (Decoder.list decode) (fun values => .list (values.map write)) := by
  intro values
  change (Json.toItems (values.map write)).mapM decode = .ok values
  rw [toItems_map]
  induction values with
  | nil => rfl
  | cons value values ih =>
      rw [List.map_cons, List.mapM_cons, hrecovers value, ih]
      rfl

theorem recovers_progressBar (format : Format) :
    Recovers (Decoder.variant format ProgressBar.variants) (fun bar => .text bar.word) := by
  intro bar
  cases bar <;> rfl

theorem recovers_order (format : Format) :
    Recovers (Decoder.variant format ChoiceOrder.variants) (fun order => .text order.word) := by
  intro order
  cases order <;> rfl

theorem recovers_completionMessage (format : Format) :
    Recovers (CompletionMessage.record.decode format) CompletionMessage.toJson := fun _ => rfl

/-! ## Records -/

section Records

variable {ρ : Type} {members : List (Located String × Located Datum)}

/-- A field whose member is there and fits is read, and then the other fields. -/
theorem readMembers_cons {field : RecordField ρ} {fields : List (RecordField ρ)}
    {before after result : ρ} {datum : Located Datum}
    (hmember : member? members field.name = some datum)
    (hfield : field.read before datum = .ok after)
    (hrest : Record.readMembers members fields after = .ok result) :
    Record.readMembers members (field :: fields) before = .ok result := by
  rw [Record.readMembers, hmember]
  simp only [hfield]
  exact hrest

/-- A field without a member stays as it is at first. -/
theorem readMembers_cons_of_absent {field : RecordField ρ} {fields : List (RecordField ρ)}
    {before result : ρ} (hmember : member? members field.name = none)
    (hrest : Record.readMembers members fields before = .ok result) :
    Record.readMembers members (field :: fields) before = .ok result := by
  rw [Record.readMembers, hmember]
  exact hrest

theorem read_eq_ok {α : Type} {decode : Decoder α} {datum : Located Datum} {value : α}
    (put : α → ρ) (hdecode : decode datum = .ok value) :
    (do return put (← decode datum) : Decoded ρ) = .ok (put value) := by
  rw [hdecode]
  rfl

/-- A record is decoded if its fields are read and none that has to be there is missing. -/
theorem decode_eq_ok {format : Format} {record : Record ρ} {place : Span} {result : ρ}
    (hread : Record.readMembers members record.sorted record.start = .ok result)
    (hmissing : Record.missing? members record.fields = none) :
    record.decode format ⟨place, .table members⟩ = .ok result := by
  simp only [Record.decode, Record.ofTable, hread, hmissing]
  rfl

end Records

/-! ## Pages -/

/-- A prompt is recovered from the table that also says of what kind the element is. -/
theorem recovers_prompt (element : ChoicePrompt) :
    ChoicePrompt.record.decode .taggedJson (Element.prompt element).toJson.toLocated =
      .ok element := by
  refine decode_eq_ok ?_ rfl
  refine readMembers_cons rfl (read_eq_ok _ (recovers_text.list element.choices)) ?_
  refine readMembers_cons rfl (read_eq_ok _ (recovers_order .taggedJson element.order)) ?_
  refine readMembers_cons rfl (read_eq_ok _ (recovers_text.list element.correctAnswers)) ?_
  rfl

/-- Both kinds of elements are recovered: the word for the kind tells them apart. -/
theorem recovers_element : Recovers Element.decode Element.toJson := by
  intro element
  cases element with
  | markup element => rfl
  | prompt element =>
      change (ChoicePrompt.record.decode .taggedJson (Element.prompt element).toJson.toLocated).map
        Element.prompt = _
      rw [recovers_prompt]
      rfl

theorem recovers_page : Recovers (Page.record.decode .json) Page.toJson := by
  intro page
  refine decode_eq_ok ?_ rfl
  exact readMembers_cons rfl (read_eq_ok _ (recovers_element.list page.elements)) rfl

/-! ## Documents -/

/-- The members of a written document, by their names. -/
theorem members_toJson (document : Document) :
    ∃ members, document.toJson.toLocated = Json.placeless (.table members) ∧
      member? members "title" = some (Json.text document.title).toLocated ∧
      member? members "showProgressBar" = some (Json.text document.progressBar.word).toLocated ∧
      member? members "showPrevButton" =
        document.backButton.map (fun shown => (Json.bool shown).toLocated) ∧
      member? members "pages" = some (Json.list (document.pages.map Page.toJson)).toLocated ∧
      member? members "completedHtml" = some (Json.text document.completedHtml).toLocated ∧
      member? members "completedHtmlOnCondition" =
        if document.completionMessages = [] then none
        else some (Json.list
          (document.completionMessages.map CompletionMessage.toJson)).toLocated := by
  obtain ⟨title, bar, button, pages, html, messages⟩ := document
  cases button with
  | none =>
      cases messages with
      | nil => exact ⟨_, rfl, rfl, rfl, rfl, rfl, rfl, rfl⟩
      | cons message messages => exact ⟨_, rfl, rfl, rfl, rfl, rfl, rfl, rfl⟩
  | some shown =>
      cases messages with
      | nil => exact ⟨_, rfl, rfl, rfl, rfl, rfl, rfl, rfl⟩
      | cons message messages => exact ⟨_, rfl, rfl, rfl, rfl, rfl, rfl, rfl⟩

/-- A document is recovered from its JSON value, whatever is left out there. -/
theorem ofJson_toJson (document : Document) : Document.ofJson document.toJson = .ok document := by
  obtain ⟨members, htable, htitle, hbar, hbutton, hpages, hhtml, hmessages⟩ :=
    members_toJson document
  obtain ⟨title, bar, button, pages, html, messages⟩ := document
  dsimp only at htitle hbar hbutton hpages hhtml hmessages
  -- fields are read in the order of their names; the steps are shown from the last one on
  have hfromButton : Record.readMembers members [Document.backButtonField,
      Document.progressBarField, Document.titleField] ⟨"", .bottom, none, pages, html, messages⟩ =
      .ok ⟨title, bar, button, pages, html, messages⟩ := by
    have hfromBar (button : Option Bool) : Record.readMembers members [Document.progressBarField,
        Document.titleField] ⟨"", .bottom, button, pages, html, messages⟩ =
        .ok ⟨title, bar, button, pages, html, messages⟩ :=
      readMembers_cons hbar (read_eq_ok _ (recovers_progressBar .json bar))
        (readMembers_cons htitle rfl rfl)
    cases button with
    | none => exact readMembers_cons_of_absent hbutton (hfromBar none)
    | some shown => exact readMembers_cons hbutton rfl (hfromBar shown)
  have hfromPages : Record.readMembers members [Document.pagesField, Document.backButtonField,
      Document.progressBarField, Document.titleField] ⟨"", .bottom, none, [], html, messages⟩ =
      .ok ⟨title, bar, button, pages, html, messages⟩ :=
    readMembers_cons hpages (read_eq_ok _ (recovers_page.list pages)) hfromButton
  have hread : Record.readMembers members Document.record.sorted Document.record.start =
      .ok ⟨title, bar, button, pages, html, messages⟩ := by
    refine readMembers_cons hhtml rfl ?_
    -- an empty list of messages is left out, like a button that is not set
    cases messages with
    | nil => exact readMembers_cons_of_absent hmessages hfromPages
    | cons message messages =>
        exact readMembers_cons hmessages
          (read_eq_ok _ ((recovers_completionMessage .json).list (message :: messages))) hfromPages
  rw [Document.ofJson, htable]
  refine decode_eq_ok hread ?_
  simp [Record.missing?, Document.record, Document.titleField, Document.progressBarField,
    Document.backButtonField, Document.pagesField, Document.completedHtmlField,
    Document.completionMessagesField, htitle, hbar, hpages, hhtml]

/-! ## Texts of documents -/

theorem wellWritten_textsToJson (texts : List String) : (textsToJson texts).WellWritten := by
  have htext : ∀ text, (Json.text text).WellWritten := fun _ => trivial
  exact Json.wellWrittenItems_map htext texts

theorem Element.wellWritten_toJson (element : Element) : element.toJson.WellWritten := by
  cases element with
  | markup element => exact ⟨trivial, trivial, trivial, trivial⟩
  | prompt element =>
      exact ⟨trivial, trivial, trivial, trivial, wellWritten_textsToJson _,
        wellWritten_textsToJson _, trivial, trivial, trivial, trivial⟩

theorem Page.wellWritten_toJson (page : Page) : page.toJson.WellWritten :=
  ⟨Json.wellWrittenItems_map Element.wellWritten_toJson page.elements, trivial⟩

theorem CompletionMessage.wellWritten_toJson (message : CompletionMessage) :
    message.toJson.WellWritten := ⟨trivial, trivial, trivial⟩

/-- Documents have no numbers, so all that they hold is well written. -/
theorem Document.wellWritten_toJson (document : Document) : document.toJson.WellWritten := by
  obtain ⟨title, bar, button, pages, html, messages⟩ := document
  have hpages := Json.wellWrittenItems_map Page.wellWritten_toJson pages
  have hmessages := Json.wellWrittenItems_map CompletionMessage.wellWritten_toJson messages
  cases button with
  | none =>
      cases messages with
      | nil => exact ⟨trivial, trivial, hpages, trivial, trivial⟩
      | cons message messages => exact ⟨trivial, trivial, hpages, trivial, hmessages, trivial⟩
  | some shown =>
      cases messages with
      | nil => exact ⟨trivial, trivial, trivial, hpages, trivial, trivial⟩
      | cons message messages =>
          exact ⟨trivial, trivial, trivial, hpages, trivial, hmessages, trivial⟩

/-- The text of a document denotes a JSON value and no other, the reader returns this value, and
the document is recovered from it. Hence different documents have different texts. -/
theorem text_denotes_document (document : Document) :
    (∃ value, Json.Denotes document.text.toList value ∧
      (∀ other, Json.Denotes document.text.toList other → other = value) ∧
      Json.read document.text = some value ∧ Document.ofJson value = .ok document) ∧
    ∀ other : Document, other.text = document.text → other = document := by
  have hdenotes := Json.denotes_pretty document.wellWritten_toJson
  have hread := Json.read_of_denotes hdenotes
  refine ⟨⟨document.toJson, hdenotes, fun other hother => hdenotes.unique hother, hread,
    ofJson_toJson document⟩, ?_⟩
  intro other htext
  have hother := Json.read_of_denotes (Json.denotes_pretty other.wellWritten_toJson)
  have hsame : other.toJson = document.toJson := by
    rw [← Document.text, htext, Document.text, hread] at hother
    exact (Option.some.inj hother).symm
  have hdocument := ofJson_toJson other
  rw [hsame, ofJson_toJson] at hdocument
  exact (Except.ok.inj hdocument).symm

end QuizCompiler.Quiz
