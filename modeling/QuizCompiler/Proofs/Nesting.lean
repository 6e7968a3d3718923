import QuizCompiler.Quiz.Block

/-! # Well-nested events

The events of a document are well nested, and cutting them into groups finds the
top-level blocks again: each group is what one of them gives.
-/

namespace QuizCompiler.Markdown

namespace Event

/-- An event that neither opens nor closes a pair. -/
def isLeaf : Event → Bool
  | .start _ => false
  | .stop _ => false
  | _ => true

end Event

/-- A sequence of events in which every pair is closed where it was opened. -/
inductive Nested : List Event → Prop
  | nil : Nested []
  | leaf {event : Event} {rest : List Event} (hleaf : event.isLeaf = true)
      (hrest : Nested rest) : Nested (event :: rest)
  | pair (tag : Tag) {inner rest : List Event} (hinner : Nested inner) (hrest : Nested rest) :
      Nested (.start tag :: inner ++ .stop tag :: rest)

namespace Nested

theorem append {first second : List Event} (hfirst : Nested first) (hsecond : Nested second) :
    Nested (first ++ second) := by
  induction hfirst with
  | nil => exact hsecond
  | leaf hleaf _ ih => exact .leaf hleaf ih
  | pair tag hinner _ _ ih =>
      simpa only [List.cons_append, List.append_assoc] using Nested.pair tag hinner ih

theorem single {event : Event} (hleaf : event.isLeaf = true) : Nested [event] := .leaf hleaf .nil

theorem enclose (tag : Tag) {inner : List Event} (hinner : Nested inner) :
    Nested (Event.enclose tag inner) := .pair tag hinner .nil

theorem flatMap {α : Type} {items : List α} {events : α → List Event}
    (hevents : ∀ item ∈ items, Nested (events item)) : Nested (items.flatMap events) := by
  induction items with
  | nil => exact .nil
  | cons item rest ih =>
      rw [List.flatMap_cons]
      exact (hevents item List.mem_cons_self).append
        (ih fun other hother => hevents other (List.mem_cons_of_mem _ hother))

end Nested

/-! ## Inline content -/

mutual

/-- Inline content opens and closes its spans in pairs. -/
theorem Inline.nested_events : (node : Inline) → Nested node.events
  | .text _ => .single rfl
  | .code _ => .single rfl
  | .html _ => .single rfl
  | .softBreak => .single rfl
  | .hardBreak => .single rfl
  | .span _ content => .enclose _ (Inline.nested_eventsOfList content)
  | .link _ _ content => .enclose _ (Inline.nested_eventsOfList content)
  | .mail _ => .enclose _ (.single rfl)
  | .image _ _ content => .enclose _ (Inline.nested_eventsOfList content)

theorem Inline.nested_eventsOfList : (nodes : List Inline) → Nested (Inline.eventsOfList nodes)
  | [] => .nil
  | node :: rest => (Inline.nested_events node).append (Inline.nested_eventsOfList rest)

end

theorem Prose.nested_events (definitions : Definitions) (prose : Prose) :
    Nested (prose.events definitions) := Inline.nested_eventsOfList _

theorem nested_taskEvents (task : Option Bool) : Nested (taskEvents task) := by
  cases task with
  | none => exact .nil
  | some checked => exact .single rfl

theorem nested_cellEvents (definitions : Definitions) (cells : List Prose) :
    Nested (cellEvents definitions cells) :=
  Nested.flatMap fun cell _ => .enclose _ (cell.nested_events definitions)

/-! ## Blocks -/

/-- The events of one top-level block: a single event, or a pair with what it encloses. -/
inductive IsNode : List Event → Prop
  | leaf {event : Event} (hleaf : event.isLeaf = true) : IsNode [event]
  | pair (tag : Tag) {inner : List Event} (hinner : Nested inner) :
      IsNode (Event.enclose tag inner)

theorem nested_htmlLine (indent : Nat) (text : List Char) :
    Nested ((if indent = 0 then [] else [.text (String.ofList (List.replicate indent ' '))]) ++
      [.html (String.ofList text)]) := by
  split
  · exact .single rfl
  · exact .leaf rfl (.single rfl)

mutual

/-- Every block, in a tight list or not, has well-nested events. -/
theorem Block.nested_events (definitions : Definitions) (tight : Bool) :
    (block : Block) → Nested (block.events definitions tight)
  | .paragraph marker prose => by
      have hcontent := (nested_taskEvents marker).append (prose.nested_events definitions)
      -- only a paragraph depends on the list around it
      cases tight with
      | false => exact .enclose _ hcontent
      | true => exact hcontent
  | .heading _ marker prose =>
      .enclose _ ((nested_taskEvents marker).append (prose.nested_events definitions))
  | .rule => .single rfl
  | .code _ text => .enclose _ (by
      split
      · exact .nil
      · exact .single rfl)
  | .html lines => .enclose _ (.flatMap fun line _ => nested_htmlLine line.1 line.2)
  | .table _ head rows =>
      .enclose _ (.append (.enclose _ (nested_cellEvents definitions head))
        (.flatMap fun row _ => .enclose _ (nested_cellEvents definitions row)))
  | .quote blocks => .enclose _ (Block.nested_eventsOfList definitions false blocks)
  | .list _ tight items => .enclose _ (Block.nested_eventsOfItems definitions tight items)
  | .task _ => .single rfl

theorem Block.nested_eventsOfList (definitions : Definitions) (tight : Bool) :
    (blocks : List Block) → Nested (Block.eventsOfList definitions tight blocks)
  | [] => .nil
  | block :: rest =>
      (Block.nested_events definitions tight block).append
        (Block.nested_eventsOfList definitions tight rest)

theorem Block.nested_eventsOfItems (definitions : Definitions) (tight : Bool) :
    (items : List (List Block)) → Nested (Block.eventsOfItems definitions tight items)
  | [] => .nil
  | blocks :: rest =>
      .append (.enclose _ (Block.nested_eventsOfList definitions tight blocks))
        (Block.nested_eventsOfItems definitions tight rest)

end

/-- A block that does not stand in a tight list is one node: a single event or one pair. -/
theorem Block.isNode_events (definitions : Definitions) (block : Block) :
    IsNode (block.events definitions false) := by
  cases block with
  | paragraph marker prose =>
      exact .pair _ ((nested_taskEvents marker).append (prose.nested_events definitions))
  | heading level marker prose =>
      exact .pair _ ((nested_taskEvents marker).append (prose.nested_events definitions))
  | rule => exact .leaf rfl
  | code info text =>
      refine .pair _ ?_
      split
      · exact .nil
      · exact .single rfl
  | html lines => exact .pair _ (.flatMap fun line _ => nested_htmlLine line.1 line.2)
  | table columns head rows =>
      exact .pair _ (.append (.enclose _ (nested_cellEvents definitions head))
        (.flatMap fun row _ => .enclose _ (nested_cellEvents definitions row)))
  | quote blocks => exact .pair _ (Block.nested_eventsOfList definitions false blocks)
  | list start tight items =>
      exact .pair _ (Block.nested_eventsOfItems definitions tight items)
  | task checked => exact .leaf rfl

end QuizCompiler.Markdown

namespace QuizCompiler.Quiz

open QuizCompiler.Markdown

/-! ## Groups -/

namespace Grouping

variable {groups : List (List Event)} {pending : List Event} {depth : Nat}

theorem push_leaf {event : Event} (hleaf : event.isLeaf = true) :
    push ⟨groups, pending, depth⟩ event =
      if depth = 0 then (⟨groups, event :: pending, 0⟩ : Grouping).close
      else ⟨groups, event :: pending, depth⟩ := by
  cases event <;> simp_all [push, Event.isLeaf]

/-- Where a pair begins, the group at hand goes on. -/
theorem push_start (tag : Tag) :
    push ⟨groups, pending, depth⟩ (.start tag) = ⟨groups, .start tag :: pending, depth + 1⟩ := by
  simp [push]

/-- Well-nested events inside of a pair only add to the group at hand. -/
theorem foldl_push_nested {events : List Event} (hnested : Nested events)
    (hdepth : depth ≠ 0) :
    events.foldl push ⟨groups, pending, depth⟩ = ⟨groups, events.reverse ++ pending, depth⟩ := by
  induction hnested generalizing pending depth with
  | nil => rfl
  | leaf hleaf _ ih =>
      rw [List.foldl_cons, push_leaf hleaf, if_neg hdepth, ih hdepth]
      simp
  | @pair tag inner rest _ _ ihinner ihrest =>
      have hstop : push ⟨groups, inner.reverse ++ .start tag :: pending, depth + 1⟩ (.stop tag) =
          ⟨groups, .stop tag :: (inner.reverse ++ .start tag :: pending), depth⟩ := by
        simp [push, hdepth]
      -- between the two the depth is one more, so nothing in there ends the group
      rw [List.cons_append, List.foldl_cons, push_start, List.foldl_append,
        ihinner (Nat.succ_ne_zero _), List.foldl_cons, hstop, ihrest hdepth]
      simp

/-- A node makes up one group. -/
theorem foldl_push_isNode {events : List Event} (hnode : IsNode events) :
    events.foldl push ⟨groups, [], 0⟩ = ⟨events :: groups, [], 0⟩ := by
  cases hnode with
  | leaf hleaf =>
      rw [List.foldl_cons, push_leaf hleaf]
      rfl
  | pair tag hinner =>
      rw [Event.enclose, List.cons_append, List.foldl_cons, push_start, List.foldl_append,
        foldl_push_nested hinner (Nat.succ_ne_zero _)]
      simp [push, close]

/-- Nodes in sequence make up one group each. -/
theorem foldl_push_nodes {nodes : List (List Event)} (hnodes : ∀ node ∈ nodes, IsNode node) :
    nodes.flatten.foldl push ⟨groups, [], 0⟩ = ⟨nodes.reverse ++ groups, [], 0⟩ := by
  induction nodes generalizing groups with
  | nil => rfl
  | cons node rest ih =>
      rw [List.flatten_cons, List.foldl_append, foldl_push_isNode (hnodes node List.mem_cons_self),
        ih fun other hother => hnodes other (List.mem_cons_of_mem _ hother)]
      simp

end Grouping

/-- Grouping takes the events of a document apart again. -/
theorem groupEvents_flatten {nodes : List (List Event)} (hnodes : ∀ node ∈ nodes, IsNode node) :
    groupEvents nodes.flatten = nodes := by
  rw [groupEvents, Grouping.empty, Grouping.foldl_push_nodes hnodes]
  simp [Grouping.close]

/-- The groups of a document are its blocks. -/
theorem groupEvents_events (text : String) :
    groupEvents (events text) =
      (readDocument text.toList).1.map fun block =>
        block.events (readDocument text.toList).2 false := by
  have hflatten (definitions : Definitions) (blocks : List Markdown.Block) :
      Markdown.Block.eventsOfList definitions false blocks =
        (blocks.map fun block => block.events definitions false).flatten := by
    induction blocks with
    | nil => rfl
    | cons block rest ih => rw [Markdown.Block.eventsOfList, ih, List.map_cons, List.flatten_cons]
  unfold Markdown.events
  obtain ⟨blocks, definitions⟩ := readDocument text.toList
  simp only [hflatten]
  apply groupEvents_flatten
  intro node hnode
  obtain ⟨block, -, rfl⟩ := List.mem_map.mp hnode
  exact block.isNode_events definitions

/-- What a quiz makes of one block of a document. -/
def Block.ofNode (definitions : Definitions) (block : Markdown.Block) : Block :=
  ofGroup (block.events definitions false)

/-- A quiz reads the blocks of a document one by one. -/
theorem Block.ofMarkdown_eq (text : String) :
    Block.ofMarkdown text =
      (readDocument text.toList).1.map (ofNode (readDocument text.toList).2) := by
  rw [Block.ofMarkdown, Block.ofEvents, groupEvents_events, List.map_map]
  rfl

end QuizCompiler.Quiz
