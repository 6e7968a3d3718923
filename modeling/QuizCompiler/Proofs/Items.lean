import QuizCompiler.Proofs.ListTrees
import QuizCompiler.Proofs.Trimming

/-! # The items of a list as choices

Each item of an unordered list is one choice, in order. What the lists in an item say belongs to
its label, but their task markers do not count for it.
-/

namespace QuizCompiler.Quiz

open QuizCompiler.Markdown QuizCompiler.Text

/-! ## Gathering the text of a node -/

namespace TextContent

variable (content : TextContent)

/-- Add to a text, unless an image is open. -/
def add (more : String) : TextContent :=
  if content.imageDepth = 0 then { content with text := content.text ++ more } else content

theorem add_empty : content.add "" = content := by
  unfold add
  split <;> simp

/-- Adding two texts in turn is adding both at once: an image is open for both or for neither. -/
theorem add_add (first second : String) :
    (content.add first).add second = content.add (first ++ second) := by
  by_cases hdepth : content.imageDepth = 0
  · simp [add, hdepth, String.append_assoc]
  · simp [add, hdepth]

/-- A single event adds the text that it stands for by itself. -/
theorem push_leaf {event : Event} (hleaf : event.isLeaf = true) :
    content.push event = content.add event.said := by
  cases event <;> first | rfl | cases hleaf

/-- The end of a pair adds a new line or nothing, unless it is that of an image or an item. -/
theorem push_stop {tag : Tag} (himage : tag.isImage = false) (hitem : tag ≠ .item) :
    content.push (.stop tag) = content.add (if tag.endsLine then "\n" else "") := by
  cases tag with
  | image _ _ => cases himage
  | item => exact absurd rfl hitem
  | _ => rfl

/-- The text of a pair is added between its two events, but none of what stands in an image. -/
theorem push_pair {tag : Tag} (hplain : tag.isPlain = true) (more : String) :
    ((content.push (.start tag)).add more).push (.stop tag) =
      content.add (if tag.isImage then "" else more ++ if tag.endsLine then "\n" else "") := by
  cases himage : tag.isImage with
  | true =>
      rw [if_pos rfl, add_empty]
      cases tag with
      | image destination title => simp [push, add]
      | _ => cases himage
  | false =>
      have hstart : content.push (.start tag) = content.add "" := by
        cases tag with
        | image _ _ => cases himage
        | list _ => cases hplain
        | _ => rfl
      have hitem : tag ≠ .item := by
        rintro rfl
        cases hplain
      rw [hstart, add_empty, push_stop _ himage hitem, add_add]
      rfl

end TextContent

/-! ## Scanning along the tree -/

/-- Whether an item is checked when the markers are read: the last one counts. -/
def checkedAfter (checked : Bool) (marks : List Bool) : Bool := marks.getLast?.getD checked

/-- Markers in two parts count as if they were read in one go. -/
theorem checkedAfter_append (checked : Bool) (first second : List Bool) :
    checkedAfter checked (first ++ second) = checkedAfter (checkedAfter checked first) second := by
  rw [checkedAfter, List.getLast?_append]
  cases hlast : second.getLast? with
  | none => simp [checkedAfter, hlast]
  | some mark => simp [checkedAfter, hlast]

namespace ChoiceScan

variable {choices : List Choice}

/-- Markers count for the item only if no other list is open than the one that it is in. -/
def marksAt (depth : Nat) (marks : List Bool) : List Bool := if depth = 1 then marks else []

theorem marksAt_nil (depth : Nat) : marksAt depth [] = [] := by
  unfold marksAt
  split <;> rfl

theorem marksAt_append (depth : Nat) (first second : List Bool) :
    marksAt depth (first ++ second) = marksAt depth first ++ marksAt depth second := by
  unfold marksAt
  split <;> rfl

section Steps

variable {depth : Nat} {label : TextContent} {checked : Bool}

/-- A single event adds to the label of the open item, and its marker counts if it is at the right
depth. -/
theorem push_leaf {event : Event} (hleaf : event.isLeaf = true) :
    push ⟨choices, depth, some (label, checked)⟩ event =
      ⟨choices, depth, some (label.add event.said,
        checkedAfter checked (marksAt depth event.mark?.toList))⟩ := by
  rw [← label.push_leaf hleaf]
  cases event with
  | start tag => cases hleaf
  | stop tag => cases hleaf
  | task mark =>
      have hlabel : label.push (.task mark) = label := label.add_empty
      by_cases hdepth : depth = 1
      · simp [push, hdepth, hlabel, marksAt, Event.mark?, checkedAfter]
      · simp [push, gather, hdepth, marksAt, checkedAfter]
  | _ => simp [push, gather, Event.mark?, marksAt_nil, checkedAfter]

/-- Pairs other than lists and items have a bearing on the label only. -/
theorem push_plain {tag : Tag} (hplain : tag.isPlain = true) :
    push ⟨choices, depth, some (label, checked)⟩ (.start tag) =
        ⟨choices, depth, some (label.push (.start tag), checked)⟩ ∧
      push ⟨choices, depth, some (label, checked)⟩ (.stop tag) =
        ⟨choices, depth, some (label.push (.stop tag), checked)⟩ := by
  cases tag with
  | list _ => cases hplain
  | item => cases hplain
  | _ => exact ⟨rfl, rfl⟩

/-- Items of lists that stand in an item begin and end like other parts of it. -/
theorem push_inner_item (hdepth : depth ≠ 0) :
    push ⟨choices, depth + 1, some (label, checked)⟩ (.start .item) =
        ⟨choices, depth + 1, some (label, checked)⟩ ∧
      push ⟨choices, depth + 1, some (label, checked)⟩ (.stop .item) =
        ⟨choices, depth + 1, some (label.add "\n", checked)⟩ := by
  have hstart : label.push (.start .item) = label := label.add_empty
  have hstop : label.push (.stop .item) = label.add "\n" := rfl
  simp [push, gather, hdepth, hstart, hstop]

end Steps

mutual

/-- Reading a node adds what it says to the label of the open item. -/
theorem foldl_push_node {depth : Nat} (hdepth : depth ≠ 0) (label : TextContent)
    (checked : Bool) :
    (node : Node) → node.events.foldl push ⟨choices, depth, some (label, checked)⟩ =
      ⟨choices, depth, some (label.add node.text, checkedAfter checked (marksAt depth node.marks))⟩
  | .leaf event hleaf => push_leaf hleaf
  | .pair tag hplain content => by
      rw [Node.events, Event.foldl_enclose, (push_plain hplain).1,
        foldl_push_nodes hdepth _ _ content, (push_plain hplain).2, label.push_pair hplain,
        Node.text, Node.marks]
  | .list start items => by
      have hstart : push ⟨choices, depth, some (label, checked)⟩ (.start (.list start)) =
          ⟨choices, depth + 1, some (label.add "\n", checked)⟩ := rfl
      have hstop (inner : TextContent) :
          push ⟨choices, depth + 1, some (inner, checked)⟩ (.stop (.list start)) =
            ⟨choices, depth, some (inner.add "", checked)⟩ := rfl
      -- the markers of the list are read while two lists are open
      rw [Node.events, Event.foldl_enclose, hstart, foldl_push_items hdepth _ _ items, hstop,
        TextContent.add_empty, TextContent.add_add, Node.text, Node.marks, marksAt_nil]
      rfl

theorem foldl_push_nodes {depth : Nat} (hdepth : depth ≠ 0) (label : TextContent)
    (checked : Bool) :
    (nodes : List Node) →
      (Node.eventsOfList nodes).foldl push ⟨choices, depth, some (label, checked)⟩ =
        ⟨choices, depth, some (label.add (Node.textOfList nodes),
          checkedAfter checked (marksAt depth (Node.marksOfList nodes)))⟩
  | [] => by
      rw [Node.eventsOfList, Node.textOfList, label.add_empty, Node.marksOfList, marksAt_nil]
      rfl
  | node :: rest => by
      rw [Node.eventsOfList, List.foldl_append, foldl_push_node hdepth label checked node,
        foldl_push_nodes hdepth _ _ rest, TextContent.add_add, Node.textOfList, Node.marksOfList,
        marksAt_append, checkedAfter_append]

theorem foldl_push_items {depth : Nat} (hdepth : depth ≠ 0) (label : TextContent)
    (checked : Bool) :
    (items : List (List Node)) →
      (Node.eventsOfItems items).foldl push ⟨choices, depth + 1, some (label, checked)⟩ =
        ⟨choices, depth + 1, some (label.add (Node.textOfItems items), checked)⟩
  | [] => by
      rw [Node.eventsOfItems, Node.textOfItems, label.add_empty]
      rfl
  | item :: rest => by
      have hmarks : marksAt (depth + 1) (Node.marksOfList item) = [] := if_neg (by omega)
      rw [Node.eventsOfItems, List.foldl_append, Event.foldl_enclose, (push_inner_item hdepth).1,
        foldl_push_nodes (Nat.succ_ne_zero depth) label checked item, hmarks,
        (push_inner_item hdepth).2, foldl_push_items hdepth _ _ rest, TextContent.add_add,
        TextContent.add_add, Node.textOfItems]
      rfl

end

end ChoiceScan

/-- The choice that an item is: its label is what is said in the item, and it is checked as the
item's own marker says. -/
def Choice.ofItem (item : List Node) : Choice :=
  ⟨trim (Node.textOfList item), (Node.marksOfList item).getLast?.getD false⟩

namespace ChoiceScan

/-- Reading an item of the outmost list leaves one more choice and no open item. -/
theorem foldl_push_item (item : List Node) (choices : List Choice) :
    (Event.enclose .item (Node.eventsOfList item)).foldl push ⟨choices, 1, none⟩ =
      ⟨.ofItem item :: choices, 1, none⟩ := by
  have hstart : push ⟨choices, 1, none⟩ (.start .item) = ⟨choices, 1, some (.empty, false)⟩ := rfl
  have hlabel (text : String) : TextContent.empty.add text = ⟨text, 0⟩ := by
    simp [TextContent.add, TextContent.empty]
  have hstop (label : TextContent) (checked : Bool) :
      push ⟨choices, 1, some (label, checked)⟩ (.stop .item) =
        ⟨.ofText label.finish checked :: choices, 1, none⟩ := rfl
  rw [Event.foldl_enclose, hstart, foldl_push_nodes Nat.one_ne_zero, hlabel, hstop]
  -- the text is trimmed when the item ends, and once more when a choice is made of it
  rw [Choice.ofText, TextContent.finish, (trimmed_trim _).trim_eq]
  rfl

/-- The items of the outmost list become choices one by one, the last one on top. -/
theorem foldl_push_list (items : List (List Node)) (choices : List Choice) :
    (Node.eventsOfItems items).foldl push ⟨choices, 1, none⟩ =
      ⟨(items.map Choice.ofItem).reverse ++ choices, 1, none⟩ := by
  induction items generalizing choices with
  | nil => rfl
  | cons item rest ih =>
      rw [Node.eventsOfItems, List.foldl_append, foldl_push_item, ih]
      simp

end ChoiceScan

/-- A list of any kind has one choice for each of its items. -/
theorem collectChoices_items (start : Option Nat) (items : List (List Node)) :
    collectChoices (Event.enclose (.list start) (Node.eventsOfItems items)) =
      items.map Choice.ofItem := by
  have hstart : ChoiceScan.empty.push (.start (.list start)) = ⟨[], 1, none⟩ := rfl
  rw [collectChoices, Event.foldl_enclose, hstart, ChoiceScan.foldl_push_list]
  simp [ChoiceScan.push, ChoiceScan.gather]

/-- An unordered list consists of items. -/
theorem exists_items {events : List Event} (hnode : IsNode events)
    (hopens : events.head? = some (.start (.list none)))
    (hitems : itemsInLists [] events = true) :
    ∃ items, events = Event.enclose (.list none) (Node.eventsOfItems items) := by
  cases hnode with
  | leaf hleaf =>
      cases hopens
      cases hleaf
  | @pair tag inner hinner =>
      obtain rfl : tag = .list none := by simpa [Event.enclose] using hopens
      rw [itemsInLists_enclose _ hinner] at hitems
      obtain ⟨items, rfl⟩ := (exists_nodes_or_items hinner hitems).2 rfl
      exact ⟨items, rfl⟩

/-- In the events of a document, items stand directly in lists. Wherever they do, a list is made of
items, and it is read as one choice for each of them, in order. Its label says what the item says,
the lists in it included; it is checked if the marker of the item is, whatever markers are in
these lists. -/
theorem collectChoices_reads_items :
    (∀ text : String, ∀ group ∈ groupEvents (events text),
      IsNode group ∧ itemsInLists [] group = true) ∧
    ∀ events : List Event, IsNode events → events.head? = some (.start (.list none)) →
      itemsInLists [] events = true →
      (∃ items, events = Event.enclose (.list none) (Node.eventsOfItems items)) ∧
      ∀ items, events = Event.enclose (.list none) (Node.eventsOfItems items) →
        collectChoices events = items.map fun item =>
          ⟨trim (Node.textOfList item), (Node.marksOfList item).getLast? = some true⟩ := by
  refine ⟨?_, ?_⟩
  · intro text group hgroup
    rw [groupEvents_events] at hgroup
    obtain ⟨block, -, rfl⟩ := List.mem_map.mp hgroup
    exact ⟨block.isNode_events _, block.itemsInLists_events _ _ rfl⟩
  · intro events hnode hopens hitems
    refine ⟨exists_items hnode hopens hitems, ?_⟩
    rintro items rfl
    rw [collectChoices_items]
    apply List.map_congr_left
    intro item _
    unfold Choice.ofItem
    cases (Node.marksOfList item).getLast? with
    | none => rfl
    | some mark => cases mark <;> rfl

/-- A checked item with a numbered list in a quote, and an item with an image. -/
def mixedText : String := "- [x] a\n  > 1. [ ] b\n- c ![d](d.png)\n"

def mixedItems : List (List Node) :=
  [[.leaf (.task true) rfl, .leaf (.text "a") rfl,
      .pair .quote rfl [.list (some 1) [[.leaf (.task false) rfl, .leaf (.text "b") rfl]]]],
    [.leaf (.text "c ") rfl, .pair (.image "d.png" "") rfl [.leaf (.text "d") rfl]]]

/-- The marker in the numbered list does not count, nor does the text of the image. -/
theorem collectChoices_mixedItems :
    Event.enclose (.list none) (Node.eventsOfItems mixedItems) ∈
        groupEvents (events mixedText) ∧
      collectChoices (Event.enclose (.list none) (Node.eventsOfItems mixedItems)) =
        [⟨"a\nb", true⟩, ⟨"c", false⟩] := by
  have hgroup : Event.enclose (.list none) (Node.eventsOfItems mixedItems) ∈
      groupEvents (events mixedText) := by decide +kernel
  obtain ⟨hnode, hitems⟩ := collectChoices_reads_items.1 mixedText _ hgroup
  obtain ⟨-, hreads⟩ := collectChoices_reads_items.2 _ hnode rfl hitems
  refine ⟨hgroup, (hreads mixedItems rfl).trans ?_⟩
  decide +kernel

end QuizCompiler.Quiz
