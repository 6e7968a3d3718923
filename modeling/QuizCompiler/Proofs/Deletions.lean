import Mathlib.Logic.Relation
import QuizCompiler.Proofs.Items

/-! # What makes no difference to a text

The text of events stays the same if images are deleted from them, with all that stands in them,
or marks such as emphasis and links, without what they enclose. It does not matter whether the
events around are well nested.
-/

namespace QuizCompiler.Markdown

/-! ## Images and marks -/

/-- Whether a tag marks text without adding to it. -/
def Tag.isMark : Tag → Bool
  | span _ => true
  | link _ _ => true
  | mail _ => true
  | _ => false

namespace Event

/-- Whether an event begins or ends an image. -/
def isImage : Event → Bool
  | .start tag => tag.isImage
  | .stop tag => tag.isImage
  | _ => false

/-- Whether an event begins or ends emphasis of any kind or a link, or is HTML in a paragraph. -/
def isMark : Event → Bool
  | .start tag => tag.isMark
  | .stop tag => tag.isMark
  | .inlineHtml _ => true
  | _ => false

end Event

/-- Events in which every image that begins also ends, and none ends that began before them. Other
pairs may be open or closed at will. -/
inductive ImagesNested : List Event → Prop
  | nil : ImagesNested []
  | other {event : Event} {rest : List Event} (hother : event.isImage = false)
      (hrest : ImagesNested rest) : ImagesNested (event :: rest)
  | image {first last : Tag} {inner rest : List Event} (hfirst : first.isImage = true)
      (hlast : last.isImage = true) (hinner : ImagesNested inner) (hrest : ImagesNested rest) :
      ImagesNested (.start first :: inner ++ .stop last :: rest)

/-- One deletion, anywhere in a sequence of events: of a mark, or of an image from its beginning to
its end. -/
inductive Deletes : List Event → List Event → Prop
  | mark (before : List Event) {event : Event} (after : List Event)
      (hmark : event.isMark = true) : Deletes (before ++ event :: after) (before ++ after)
  | image (before : List Event) {first last : Tag} {inner : List Event} (after : List Event)
      (hfirst : first.isImage = true) (hlast : last.isImage = true)
      (hinner : ImagesNested inner) :
      Deletes (before ++ (.start first :: inner ++ .stop last :: after)) (before ++ after)

end QuizCompiler.Markdown

namespace QuizCompiler.Quiz

open QuizCompiler.Markdown QuizCompiler.Text

namespace TextContent

variable (content : TextContent)

/-- An event that neither opens nor closes an image adds its text where no image is open. -/
theorem push_of_not_isImage {event : Event} (hother : event.isImage = false) :
    content.push event = content.add (addition event) := by
  unfold push
  split
  next => cases hother
  next => cases hother
  next => rfl

/-- Marks add nothing to a text, in an image or outside of it. -/
theorem push_mark {event : Event} (hmark : event.isMark = true) :
    content.push event = content := by
  have hadd : content.push event = content.add "" := by
    cases event with
    | start tag => cases tag <;> first | rfl | cases hmark
    | stop tag => cases tag <;> first | rfl | cases hmark
    | inlineHtml _ => rfl
    | _ => cases hmark
  rw [hadd, content.add_empty]

theorem push_start_image {tag : Tag} (himage : tag.isImage = true) :
    content.push (.start tag) = ⟨content.text, content.imageDepth + 1⟩ := by
  cases tag with
  | image _ _ => rfl
  | _ => cases himage

theorem push_stop_image {tag : Tag} (himage : tag.isImage = true) :
    content.push (.stop tag) = ⟨content.text, content.imageDepth - 1⟩ := by
  cases tag with
  | image _ _ => rfl
  | _ => cases himage

/-- An image makes no difference if what stands in it makes none while one more image is open. -/
theorem foldl_push_image {first last : Tag} {inner : List Event} (hfirst : first.isImage = true)
    (hlast : last.isImage = true)
    (hinner : inner.foldl push ⟨content.text, content.imageDepth + 1⟩ =
      ⟨content.text, content.imageDepth + 1⟩) (after : List Event) :
    (.start first :: inner ++ .stop last :: after).foldl push content =
      after.foldl push content := by
  -- the counter is not zero at the end of the image, so that just one is taken off again
  rw [List.cons_append, List.foldl_cons, push_start_image _ hfirst, List.foldl_append, hinner,
    List.foldl_cons, push_stop_image _ hlast]
  rfl

/-- Inside of an image nothing is added, and images in it leave no trace. -/
theorem foldl_push_imagesNested {inner : List Event} (hinner : ImagesNested inner)
    (text : String) {depth : Nat} (hdepth : depth ≠ 0) :
    inner.foldl push ⟨text, depth⟩ = ⟨text, depth⟩ := by
  induction hinner generalizing depth with
  | nil => rfl
  | other hother _ ih =>
      rw [List.foldl_cons, push_of_not_isImage _ hother, add, if_neg hdepth]
      exact ih hdepth
  | image hfirst hlast _ _ ihinner ihrest =>
      rw [foldl_push_image _ hfirst hlast (ihinner (Nat.succ_ne_zero depth))]
      exact ihrest hdepth

/-- Without images the text is made of what the events add. -/
theorem foldl_push_of_not_isImage {events : List Event}
    (hothers : ∀ event ∈ events, event.isImage = false) (text : String) :
    events.foldl push ⟨text, 0⟩ = ⟨text ++ String.join (events.map addition), 0⟩ := by
  induction events generalizing text with
  | nil => simp
  | cons event rest ih =>
      obtain ⟨hother, hrest⟩ := List.forall_mem_cons.mp hothers
      rw [List.foldl_cons, push_of_not_isImage _ hother, add, if_pos rfl, ih hrest,
        List.map_cons, String.join_cons, String.append_assoc]

end TextContent

/-- The state behind what is deleted is the one before it, so the rest is read as it was. -/
theorem textContent_of_deletes {events fewer : List Event} (hdeletes : Deletes events fewer) :
    textContent fewer = textContent events := by
  cases hdeletes with
  | mark before after hmark =>
      rw [textContent, textContent, List.foldl_append, List.foldl_append, List.foldl_cons,
        TextContent.push_mark _ hmark]
  | image before after hfirst hlast hinner =>
      rw [textContent, textContent, List.foldl_append, List.foldl_append,
        TextContent.foldl_push_image _ hfirst hlast]
      exact TextContent.foldl_push_imagesNested hinner _ (Nat.succ_ne_zero _)

theorem textContent_of_reflTransGen {events fewer : List Event}
    (hdeletions : Relation.ReflTransGen Deletes events fewer) :
    textContent fewer = textContent events := by
  induction hdeletions with
  | refl => rfl
  | tail _ hdeletes ih => exact (textContent_of_deletes hdeletes).trans ih

/-- The text of events is trimmed, and stays the same whatever images and marks are deleted from
them. Once no image is left, it is what the events add one after the other. -/
theorem textContent_deletions (events : List Event) :
    Trimmed (textContent events) ∧
      ∀ fewer, Relation.ReflTransGen Deletes events fewer →
        textContent fewer = textContent events ∧
          ((∀ event ∈ fewer, event.isImage = false) →
            textContent events = trim (String.join (fewer.map TextContent.addition))) := by
  refine ⟨trimmed_trim _, ?_⟩
  intro fewer hdeletions
  have hsame := textContent_of_reflTransGen hdeletions
  refine ⟨hsame, ?_⟩
  intro hothers
  rw [← hsame, textContent, TextContent.empty, TextContent.foldl_push_of_not_isImage hothers,
    TextContent.finish, String.empty_append]

/-- Events that begin and end in the middle, with an image in an image. -/
def strayEvents : List Event :=
  [.stop (.span .strong), .text " a ", .inlineHtml "<i>", .start (.image "x" ""), .text "b",
    .stop .item, .start (.image "y" ""), .softBreak, .stop (.image "y" ""), .text "c",
    .stop (.image "x" ""), .text "d\n", .start (.link "z" ""), .stop .item]

/-- The end of a span, HTML, an image with another one in it and the start of a link are deleted in
turn. -/
theorem textContent_strayEvents :
    Relation.ReflTransGen Deletes strayEvents [.text " a ", .text "d\n", .stop .item] ∧
      textContent strayEvents = "a d" ∧ Trimmed (textContent strayEvents) := by
  have hinner : ImagesNested [.text "b", .stop .item, .start (.image "y" ""), .softBreak,
      .stop (.image "y" ""), .text "c"] :=
    .other rfl (.other rfl (.image rfl rfl (.other rfl .nil) (.other rfl .nil)))
  have hdeletions :
      Relation.ReflTransGen Deletes strayEvents [.text " a ", .text "d\n", .stop .item] := by
    refine .head (.mark [] _ rfl) (.head (.mark [.text " a "] _ rfl) ?_)
    refine .head (.image [.text " a "] [.text "d\n", .start (.link "z" ""), .stop .item] rfl rfl
      hinner) ?_
    exact .single (.mark [.text " a ", .text "d\n"] [.stop .item] rfl)
  obtain ⟨htrimmed, hdeleted⟩ := textContent_deletions strayEvents
  refine ⟨hdeletions, ?_, htrimmed⟩
  rw [(hdeleted _ hdeletions).2 (by decide)]
  decide

end QuizCompiler.Quiz
