import Mathlib.Data.List.Forall2
import QuizCompiler.Proofs.Items

/-! # Tight and loose lists

A list is the same to a quiz whether the text in its items stands in paragraphs or not: it has as
many choices, the same ones are checked, and an item with nothing but one run of text keeps its
label.
-/

namespace QuizCompiler.Markdown

/-! ## Putting text into paragraphs -/

/-- Whether a tag encloses inline content. -/
def Tag.isInline : Tag → Bool
  | span _ => true
  | link _ _ => true
  | mail _ => true
  | image _ _ => true
  | _ => false

namespace Event

/-- Whether an event is part of inline content, or the task marker before it. -/
def isInline : Event → Bool
  | .start tag => tag.isInline
  | .stop tag => tag.isInline
  | .html _ => false
  | .rule => false
  | _ => true

/-- Whether an event begins or ends a paragraph. -/
def isParagraph : Event → Bool
  | .start tag => tag == .paragraph
  | .stop tag => tag == .paragraph
  | _ => false

end Event

/-- Events made from others by putting runs of inline content into paragraphs. -/
inductive Loosened : List Event → List Event → Prop
  | nil : Loosened [] []
  | keep (event : Event) {rest loose : List Event} (hrest : Loosened rest loose) :
      Loosened (event :: rest) (event :: loose)
  | wrap {run rest loose : List Event} (hne : run ≠ [])
      (hinline : ∀ event ∈ run, event.isInline = true) (hrest : Loosened rest loose) :
      Loosened (run ++ rest) (Event.enclose .paragraph run ++ loose)

/-- The events of a list whose items hold the given events. -/
def listOf (bodies : List (List Event)) : List Event :=
  Event.enclose (.list none) (bodies.flatMap (Event.enclose .item))

/-- What the items of a list hold is loosened one by one. -/
def LoosenedItems (items : List (List Node)) (bodies : List (List Event)) : Prop :=
  List.Forall₂ (fun item body => Loosened (Node.eventsOfList item) body) items bodies

namespace Loosened

/-- What is no inline content stays in its place, so that events are loosened before it and after
it. -/
theorem split {first rest loose : List Event} {event : Event}
    (hloose : Loosened (first ++ event :: rest) loose) (hevent : event.isInline = false) :
    ∃ front back, loose = front ++ event :: back ∧ Loosened first front ∧ Loosened rest back := by
  generalize htight : first ++ event :: rest = tight at hloose
  induction hloose generalizing first with
  | nil => simp at htight
  | @keep other tail loose hrest ih =>
      cases first with
      | nil =>
          obtain ⟨rfl, rfl⟩ := List.cons.inj htight
          exact ⟨[], loose, rfl, .nil, hrest⟩
      | cons head first =>
          obtain ⟨rfl, htail⟩ := List.cons.inj htight
          obtain ⟨front, back, rfl, hfirst, hback⟩ := ih htail
          exact ⟨head :: front, back, rfl, .keep head hfirst, hback⟩
  | @wrap run tail loose hne hinline hrest ih =>
      -- the run holds inline content only, so the event comes after it
      rcases List.append_eq_append_iff.mp htight with ⟨middle, hrun, htail⟩ | ⟨middle, rfl, htail⟩
      · cases middle with
        | nil =>
            have hnext : [] ++ event :: rest = tail := htail
            obtain ⟨front, back, rfl, hfirst, hback⟩ := ih hnext
            rw [List.append_nil] at hrun
            subst hrun
            refine ⟨Event.enclose .paragraph run ++ front, back, by simp, ?_, hback⟩
            simpa using wrap hne hinline hfirst
        | cons head middle =>
            obtain ⟨rfl, -⟩ := List.cons.inj htail
            rw [hinline event (by simp [hrun])] at hevent
            cases hevent
      · obtain ⟨front, back, rfl, hfirst, hback⟩ := ih htail.symm
        refine ⟨Event.enclose .paragraph run ++ front, back, by simp, ?_, hback⟩
        exact .wrap hne hinline hfirst

theorem refl (events : List Event) : Loosened events events := by
  induction events with
  | nil => exact .nil
  | cons event rest ih => exact .keep event ih

theorem eq_nil {loose : List Event} (hloose : Loosened [] loose) : loose = [] := by
  generalize htight : ([] : List Event) = tight at hloose
  cases hloose with
  | nil => rfl
  | keep => cases htight
  | wrap hne => exact absurd (List.append_eq_nil_iff.mp htight.symm).1 hne

/-- A list is loosened in its items, one by one. -/
theorem exists_bodies {items : List (List Node)} {loose : List Event}
    (hloose : Loosened (Node.eventsOfItems items) loose) :
    ∃ bodies, loose = bodies.flatMap (Event.enclose .item) ∧
      LoosenedItems items bodies := by
  induction items generalizing loose with
  | nil => exact ⟨[], hloose.eq_nil, .nil⟩
  | cons item rest ih =>
      have hevents : Node.eventsOfItems (item :: rest) =
          [] ++ .start .item ::
            (Node.eventsOfList item ++ .stop .item :: Node.eventsOfItems rest) := by
        simp [Node.eventsOfItems, Event.enclose]
      rw [hevents] at hloose
      obtain ⟨front, back, rfl, hfront, hback⟩ := hloose.split rfl
      obtain ⟨body, others, rfl, hbody, hothers⟩ := hback.split rfl
      obtain ⟨bodies, rfl, hbodies⟩ := ih hothers
      rw [hfront.eq_nil]
      exact ⟨body :: bodies, by simp [Event.enclose], .cons hbody hbodies⟩

theorem append {first second front back : List Event} (hfirst : Loosened first front)
    (hsecond : Loosened second back) : Loosened (first ++ second) (front ++ back) := by
  induction hfirst with
  | nil => exact hsecond
  | keep event _ ih => exact .keep event ih
  | wrap hne hinline _ ih => simpa only [List.append_assoc] using wrap hne hinline ih

theorem whole {run : List Event} (hne : run ≠ [])
    (hinline : ∀ event ∈ run, event.isInline = true) :
    Loosened run (Event.enclose .paragraph run) := by
  simpa using wrap hne hinline .nil

theorem enclose (tag : Tag) {inner loose : List Event} (hinner : Loosened inner loose) :
    Loosened (Event.enclose tag inner) (Event.enclose tag loose) :=
  .keep _ (hinner.append (refl _))

/-- Loosening what the items of a list hold loosens the list. -/
theorem of_bodies {items : List (List Node)} {bodies : List (List Event)}
    (hbodies : LoosenedItems items bodies) :
    Loosened (Node.eventsOfItems items) (bodies.flatMap (Event.enclose .item)) := by
  induction hbodies with
  | nil => exact .nil
  | cons hbody _ ih => exact (enclose .item hbody).append ih

end Loosened

/-- Only paragraphs are added. -/
theorem Loosened.filter_isParagraph {tight loose : List Event} (hloose : Loosened tight loose) :
    loose.filter (!·.isParagraph) = tight.filter (!·.isParagraph) := by
  induction hloose with
  | nil => rfl
  | keep event _ ih => rw [List.filter_cons, List.filter_cons, ih]
  | wrap _ _ _ ih =>
      rw [List.filter_append, List.filter_append, ih]
      simp [Event.enclose, Event.isParagraph]

end QuizCompiler.Markdown

namespace QuizCompiler.Quiz

open QuizCompiler.Markdown QuizCompiler.Text

/-! ## Which choices are checked -/

namespace ChoiceScan

/-- What a scan knows besides the labels. -/
def skeleton (scan : ChoiceScan) : List Bool × Nat × Option Bool :=
  (scan.choices.map Choice.checked, scan.depth, scan.current.map Prod.snd)

theorem skeleton_gather (scan : ChoiceScan) (event : Event) :
    (scan.gather event).skeleton = scan.skeleton := by
  simp [skeleton, gather, Function.comp_def]

/-- Beginning or ending a paragraph has no bearing on flags. -/
theorem skeleton_push_isParagraph (scan : ChoiceScan) {event : Event}
    (hparagraph : event.isParagraph = true) : (scan.push event).skeleton = scan.skeleton := by
  cases event with
  | start tag =>
      obtain rfl := eq_of_beq hparagraph
      exact scan.skeleton_gather _
  | stop tag =>
      obtain rfl := eq_of_beq hparagraph
      exact scan.skeleton_gather _
  | _ => cases hparagraph

/-- What a scan knows besides the labels does not depend on them. -/
theorem skeleton_push_congr {scan other : ChoiceScan} (hsame : scan.skeleton = other.skeleton)
    (event : Event) : (scan.push event).skeleton = (other.push event).skeleton := by
  have hgather : (scan.gather event).skeleton = (other.gather event).skeleton := by
    rw [skeleton_gather, skeleton_gather, hsame]
  obtain ⟨choices, depth, current⟩ := scan
  obtain ⟨choices', depth', current'⟩ := other
  simp only [skeleton, Prod.mk.injEq] at hsame
  obtain ⟨hchoices, rfl, hcurrent⟩ := hsame
  -- both scans are equally deep, so the event leads both the same way
  unfold push
  dsimp only
  split
  next =>
    rw [skeleton_gather, skeleton_gather]
    simp [skeleton, hchoices, hcurrent]
  next =>
    rw [skeleton_gather, skeleton_gather]
    simp [skeleton, hchoices, hcurrent]
  next =>
    split
    · simp [skeleton, hchoices]
    · exact hgather
  next =>
    split
    · -- an item is open in both scans or in none
      cases current with
      | none => cases current' with
        | none => simp [skeleton, hchoices]
        | some item' => cases hcurrent
      | some item => cases current' with
        | none => cases hcurrent
        | some item' =>
          have hchecked : item.2 = item'.2 := Option.some.inj hcurrent
          simp [skeleton, hchoices, hchecked, Choice.ofText]
    · exact hgather
  next checked =>
    split
    · simp only [skeleton, hchoices, Option.map_map]
      cases current <;> cases current' <;> first | rfl | cases hcurrent
    · exact hgather
  next => exact hgather

/-- The events of paragraphs make no difference to what a scan knows besides the labels. -/
theorem skeleton_foldl_filter {scan other : ChoiceScan} (hsame : scan.skeleton = other.skeleton)
    (events : List Event) :
    (events.foldl push scan).skeleton =
      ((events.filter (!·.isParagraph)).foldl push other).skeleton := by
  induction events generalizing scan other with
  | nil => exact hsame
  | cons event rest ih =>
      rw [List.foldl_cons, List.filter_cons]
      cases hparagraph : event.isParagraph with
      | true => exact ih ((scan.skeleton_push_isParagraph hparagraph).trans hsame)
      | false => exact ih (skeleton_push_congr hsame event)

/-- Events that differ in paragraphs only leave the same flags. -/
theorem skeleton_foldl_of_filter_eq {events others : List Event}
    (hsame : events.filter (!·.isParagraph) = others.filter (!·.isParagraph))
    (scan : ChoiceScan) :
    (events.foldl push scan).skeleton = (others.foldl push scan).skeleton := by
  rw [skeleton_foldl_filter rfl, hsame, ← skeleton_foldl_filter rfl]

end ChoiceScan

/-- Paragraphs make no difference to the number of choices, or to which of them are checked. -/
theorem checked_collectChoices_of_filter_eq {events others : List Event}
    (hsame : events.filter (!·.isParagraph) = others.filter (!·.isParagraph)) :
    (collectChoices events).map Choice.checked = (collectChoices others).map Choice.checked := by
  have hskeleton := congrArg Prod.fst (ChoiceScan.skeleton_foldl_of_filter_eq hsame .empty)
  rw [collectChoices, collectChoices, List.map_reverse, List.map_reverse]
  exact congrArg List.reverse hskeleton

/-! ## Labels -/

namespace ChoiceScan

theorem push_start_paragraph (scan : ChoiceScan) : scan.push (.start .paragraph) = scan := by
  have hlabel (label : TextContent) : label.push (.start .paragraph) = label := label.add_empty
  obtain ⟨choices, depth, current⟩ := scan
  cases current with
  | none => rfl
  | some item => simp [push, gather, hlabel]

/-- Choices that were collected are kept. -/
theorem choices_suffix_push (scan : ChoiceScan) (event : Event) :
    scan.choices <:+ (scan.push event).choices := by
  unfold push
  split
  next => exact List.suffix_rfl
  next => exact List.suffix_rfl
  next => split <;> exact List.suffix_rfl
  next =>
    split
    next =>
      split
      next => exact List.suffix_cons _ _
      next => exact List.suffix_rfl
    next => exact List.suffix_rfl
  next => split <;> exact List.suffix_rfl
  next => exact List.suffix_rfl

/-- Choices that are finished stay as they are, whatever is read later. -/
theorem choices_suffix_foldl_push (scan : ChoiceScan) (events : List Event) :
    scan.choices <:+ (events.foldl push scan).choices := by
  induction events generalizing scan with
  | nil => exact List.suffix_rfl
  | cons event rest ih => exact (scan.choices_suffix_push event).trans (ih _)

/-- An item makes the same choice if what it holds, or all of it but what stands first, is put
into a paragraph. -/
theorem foldl_push_wrapped {item : List Node} {marks run : List Event}
    (hitem : Node.eventsOfList item = marks ++ run) (choices : List Choice) :
    (Event.enclose .item (marks ++ Event.enclose .paragraph run)).foldl push ⟨choices, 1, none⟩ =
      ⟨.ofItem item :: choices, 1, none⟩ := by
  have hstart : push ⟨choices, 1, none⟩ (.start .item) = ⟨choices, 1, some (.empty, false)⟩ := rfl
  have hlabel (text : String) : TextContent.empty.add text = ⟨text, 0⟩ := by
    simp [TextContent.add, TextContent.empty]
  have hline (text : String) (checked : Bool) :
      push ⟨choices, 1, some (⟨text, 0⟩, checked)⟩ (.stop .paragraph) =
        ⟨choices, 1, some (⟨text ++ "\n", 0⟩, checked)⟩ := rfl
  have hstop (label : TextContent) (checked : Bool) :
      push ⟨choices, 1, some (label, checked)⟩ (.stop .item) =
        ⟨.ofText label.finish checked :: choices, 1, none⟩ := rfl
  rw [Event.foldl_enclose, hstart, List.foldl_append, Event.foldl_enclose, push_start_paragraph,
    ← List.foldl_append, ← hitem, foldl_push_nodes Nat.one_ne_zero, hlabel, hline, hstop,
    Choice.ofText, TextContent.finish, (trimmed_trim _).trim_eq, trim_append_newline]
  rfl

/-- Reading the items of a loosened list leaves as many choices as there are items, and no open
item. -/
theorem foldl_push_bodies {items : List (List Node)} {bodies : List (List Event)}
    (hbodies : LoosenedItems items bodies) :
    ∃ choices, choices.length = items.length ∧
      (bodies.flatMap (Event.enclose .item)).foldl push ⟨[], 1, none⟩ = ⟨choices, 1, none⟩ := by
  have hsame := skeleton_foldl_of_filter_eq (Loosened.of_bodies hbodies).filter_isParagraph
    ⟨[], 1, none⟩
  rw [foldl_push_list] at hsame
  generalize (bodies.flatMap (Event.enclose .item)).foldl push ⟨[], 1, none⟩ = scan at hsame ⊢
  obtain ⟨choices, depth, current⟩ := scan
  simp only [skeleton, Prod.mk.injEq, Option.map_none, Option.map_eq_none_iff] at hsame
  obtain ⟨hchoices, rfl, rfl⟩ := hsame
  exact ⟨choices, by simpa using congrArg List.length hchoices, rfl⟩

end ChoiceScan

/-- What was on top at some time is found later, counted from the bottom, at the number of what lay
below it. -/
theorem getElem?_reverse_of_suffix {α : Type} {item : α} {before all : List α}
    (hsuffix : item :: before <:+ all) : all.reverse[before.length]? = some item := by
  obtain ⟨more, rfl⟩ := hsuffix
  simp

/-- An item that is put into a paragraph makes the same choice, in the same place. -/
theorem getElem?_collectChoices_wrapped {items : List (List Node)} {bodies : List (List Event)}
    {item : List Node} {marks run : List Event} {place : Nat}
    (hbodies : LoosenedItems items bodies)
    (hitem : items[place]? = some item) (hevents : Node.eventsOfList item = marks ++ run)
    (hbody : bodies[place]? = some (marks ++ Event.enclose .paragraph run)) :
    (collectChoices (listOf bodies))[place]? = some (.ofItem item) := by
  obtain ⟨hlt, hget⟩ := List.getElem?_eq_some_iff.mp hbody
  -- the items before this one make their choices, and those after it change none
  have hsplit : bodies = bodies.take place ++
      (marks ++ Event.enclose .paragraph run) :: bodies.drop (place + 1) := by
    rw [← hget, ← List.drop_eq_getElem_cons hlt, List.take_append_drop]
  obtain ⟨choices, hlength, hfront⟩ :=
    ChoiceScan.foldl_push_bodies (List.forall₂_take place hbodies)
  have hplace : choices.length = place := by
    obtain ⟨hlt, -⟩ := List.getElem?_eq_some_iff.mp hitem
    rw [hlength, List.length_take, Nat.min_eq_left (Nat.le_of_lt hlt)]
  have hstart : ChoiceScan.empty.push (.start (.list none)) = ⟨[], 1, none⟩ := rfl
  rw [collectChoices, listOf, Event.foldl_enclose, hstart, hsplit, List.flatMap_append,
    List.flatMap_cons, List.foldl_append, hfront, List.foldl_append,
    ChoiceScan.foldl_push_wrapped hevents, ← hplace]
  apply getElem?_reverse_of_suffix
  exact (ChoiceScan.choices_suffix_foldl_push ⟨.ofItem item :: choices, 1, none⟩ _).trans
    (ChoiceScan.choices_suffix_push _ _)

/-- Putting runs of inline content into paragraphs, the task markers before them or in them, makes
no difference to the number of choices, or to which of them are checked. A list of items is
loosened item by item, and an item that goes into a paragraph as a whole, but for what stands
before it, keeps its label. -/
theorem collectChoices_loosened {tight loose : List Event} (hloose : Loosened tight loose) :
    (collectChoices loose).map Choice.checked = (collectChoices tight).map Choice.checked ∧
      (IsNode tight → tight.head? = some (.start (.list none)) → itemsInLists [] tight = true →
        ∃ items bodies, tight = Event.enclose (.list none) (Node.eventsOfItems items) ∧
          loose = listOf bodies ∧
          LoosenedItems items bodies) ∧
      ∀ (items : List (List Node)) (bodies : List (List Event)),
        tight = Event.enclose (.list none) (Node.eventsOfItems items) → loose = listOf bodies →
        LoosenedItems items bodies →
        ∀ (place : Nat) item marks run, items[place]? = some item →
          Node.eventsOfList item = marks ++ run →
          bodies[place]? = some (marks ++ Event.enclose .paragraph run) →
          (collectChoices loose)[place]?.map Choice.label = some (trim (Node.textOfList item)) ∧
            (collectChoices tight)[place]?.map Choice.label =
              some (trim (Node.textOfList item)) := by
  refine ⟨checked_collectChoices_of_filter_eq hloose.filter_isParagraph, ?_, ?_⟩
  · intro hnode hopens hitems
    obtain ⟨items, rfl⟩ := exists_items hnode hopens hitems
    have hlist : Event.enclose (.list none) (Node.eventsOfItems items) =
        [] ++ .start (.list none) :: (Node.eventsOfItems items ++ .stop (.list none) :: []) := rfl
    rw [hlist] at hloose
    -- loosening leaves the two ends of the list where they are, and works between them
    obtain ⟨front, inner, rfl, hfront, hinner⟩ := hloose.split rfl
    obtain ⟨middle, back, rfl, hmiddle, hback⟩ := hinner.split rfl
    obtain ⟨bodies, rfl, hbodies⟩ := hmiddle.exists_bodies
    rw [hfront.eq_nil, hback.eq_nil]
    exact ⟨items, bodies, rfl, rfl, hbodies⟩
  · rintro items bodies rfl rfl hbodies place item marks run hitem hevents hbody
    refine ⟨?_, ?_⟩
    · rw [getElem?_collectChoices_wrapped hbodies hitem hevents hbody]
      rfl
    · rw [collectChoices_items, List.getElem?_map, hitem]
      rfl

def textNode (text : String) : Node := .leaf (.text text) rfl

def taskNode (checked : Bool) : Node := .leaf (.task checked) rfl

/-- The items of a list, the second with emphasis in it and the third with a list. -/
def tightItems : List (List Node) :=
  [[taskNode true, textNode "a"],
    [textNode "b ", .pair (.span .emphasis) rfl [textNode "c"]],
    [textNode "d", .list none [[taskNode false, textNode "e"]]]]

/-- What they hold once a blank line stands between the first two. -/
def looseBodies : List (List Event) :=
  [Event.enclose .paragraph [.task true, .text "a"],
    Event.enclose .paragraph ([.text "b "] ++ Event.enclose (.span .emphasis) [.text "c"]),
    Event.enclose .paragraph [.text "d"] ++
      Event.enclose (.list none) (Event.enclose .item [.task false, .text "e"])]

theorem loosened_looseBodies : LoosenedItems tightItems looseBodies := by
  refine .cons (.whole ?_ ?_) (.cons (.whole ?_ ?_) (.cons ?_ .nil))
  · decide
  · decide
  · decide
  · decide
  · exact Loosened.append (.whole (by decide) (by decide)) (.refl _)

/-- A blank line between the items leaves the flags as they are, and the second label. -/
theorem collectChoices_looseBodies :
    events "- [x] a\n- b *c*\n- d\n  - [ ] e\n" =
        Event.enclose (.list none) (Node.eventsOfItems tightItems) ∧
      events "- [x] a\n\n- b *c*\n- d\n  - [ ] e\n" = listOf looseBodies ∧
      Loosened (Event.enclose (.list none) (Node.eventsOfItems tightItems)) (listOf looseBodies) ∧
      (collectChoices (listOf looseBodies)).map Choice.checked =
        (collectChoices (Event.enclose (.list none) (Node.eventsOfItems tightItems))).map
          Choice.checked ∧
      (collectChoices (listOf looseBodies))[1]?.map Choice.label = some "b c" ∧
      (collectChoices (Event.enclose (.list none) (Node.eventsOfItems tightItems)))[1]?.map
        Choice.label = some "b c" := by
  have hloose := Loosened.enclose (.list none) (Loosened.of_bodies loosened_looseBodies)
  obtain ⟨hchecked, -, hlabels⟩ := collectChoices_loosened hloose
  have htext : trim (Node.textOfList
      [textNode "b ", .pair (.span .emphasis) rfl [textNode "c"]]) = "b c" := by
    decide +kernel
  have hlabel := hlabels tightItems looseBodies rfl rfl loosened_looseBodies 1 _ [] _ rfl rfl rfl
  rw [htext] at hlabel
  exact ⟨by decide +kernel, by decide +kernel, hloose, hchecked, hlabel.1, hlabel.2⟩

end QuizCompiler.Quiz
