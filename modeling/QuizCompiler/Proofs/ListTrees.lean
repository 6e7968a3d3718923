import QuizCompiler.Proofs.Nesting

/-! # Lists as trees

Where items stand directly in lists and nowhere else, well-nested events are those of a tree, in
which a list has its items and an item what it holds. The events of every document are of this kind.
-/

namespace QuizCompiler.Markdown

/-! ## Trees of events -/

namespace Tag

def isList : Tag → Bool
  | list _ => true
  | _ => false

def isImage : Tag → Bool
  | image _ _ => true
  | _ => false

/-- Whether the pair of a tag stands anywhere but directly in a list, and is no list. -/
def isPlain (tag : Tag) : Bool := !tag.isList && tag != item

/-- Whether the text goes to a new line where the pair of a tag is closed. -/
def endsLine : Tag → Bool
  | paragraph => true
  | heading _ => true
  | codeBlock _ => true
  | _ => false

end Tag

/-- The text that an event stands for by itself; text and code are all that documents have. -/
def Event.said : Event → String
  | .text content => content
  | .code content => content
  | .softBreak => "\n"
  | .hardBreak => "\n"
  | _ => ""

/-- What an event says as a task marker. -/
def Event.mark? : Event → Option Bool
  | .task checked => some checked
  | _ => none

/-- A part of an item. A list consists of items, each with the parts that it holds. -/
inductive Node
  | leaf (event : Event) (hleaf : event.isLeaf = true)
  | pair (tag : Tag) (hplain : tag.isPlain = true) (content : List Node)
  | list (start : Option Nat) (items : List (List Node))

namespace Node

mutual

def events : Node → List Event
  | .leaf event _ => [event]
  | .pair tag _ content => Event.enclose tag (eventsOfList content)
  | .list start items => Event.enclose (.list start) (eventsOfItems items)

def eventsOfList : List Node → List Event
  | [] => []
  | node :: rest => node.events ++ eventsOfList rest

def eventsOfItems : List (List Node) → List Event
  | [] => []
  | item :: rest => Event.enclose .item (eventsOfList item) ++ eventsOfItems rest

end

mutual

/-- What a node says: nothing in an image counts, a list goes to a new line, and so do the ends of
its items and of whole lines of text. -/
def text : Node → String
  | .leaf event _ => event.said
  | .pair tag _ content =>
    if tag.isImage then ""
    else textOfList content ++ if tag.endsLine then "\n" else ""
  | .list _ items => "\n" ++ textOfItems items

def textOfList : List Node → String
  | [] => ""
  | node :: rest => node.text ++ textOfList rest

def textOfItems : List (List Node) → String
  | [] => ""
  | item :: rest => textOfList item ++ ("\n" ++ textOfItems rest)

end

mutual

/-- The task markers in a node, without those in lists. -/
def marks : Node → List Bool
  | .leaf event _ => event.mark?.toList
  | .pair _ _ content => marksOfList content
  | .list _ _ => []

def marksOfList : List Node → List Bool
  | [] => []
  | node :: rest => node.marks ++ marksOfList rest

end

end Node

/-- Whether what comes next stands directly in a list; the open tags are given, the innermost
first. -/
def isListOpen (opened : List Tag) : Bool := opened.head?.any Tag.isList

/-- Whether items stand directly in lists, and nothing else does. -/
def itemsInLists : List Tag → List Event → Bool
  | _, [] => true
  | opened, .start tag :: rest =>
    (isListOpen opened == (tag == .item)) && itemsInLists (tag :: opened) rest
  | opened, .stop _ :: rest => itemsInLists opened.tail rest
  | opened, _ :: rest => !isListOpen opened && itemsInLists opened rest

section Trees

variable {opened : List Tag} {first rest inner : List Event}

theorem itemsInLists_leaf {event : Event} (hleaf : event.isLeaf = true) :
    itemsInLists opened (event :: rest) =
      (!isListOpen opened && itemsInLists opened rest) := by
  cases event <;> first | rfl | cases hleaf

/-- Well-nested events close all their pairs, so that what comes next stands where they stand. -/
theorem itemsInLists_append (hnested : Nested first) :
    itemsInLists opened (first ++ rest) =
      (itemsInLists opened first && itemsInLists opened rest) := by
  induction hnested generalizing opened rest with
  | nil => rfl
  | leaf hleaf _ ih =>
      rw [List.cons_append, itemsInLists_leaf hleaf, itemsInLists_leaf hleaf, ih, Bool.and_assoc]
  | @pair tag inner after _ _ ihinner ihafter =>
      simp only [List.cons_append, List.append_assoc, itemsInLists, ihinner, List.tail_cons,
        ihafter, Bool.and_assoc]

/-- A pair has to be an item just where a list is open, and what it encloses stands in it. -/
theorem itemsInLists_enclose (tag : Tag) (hnested : Nested inner) :
    itemsInLists opened (Event.enclose tag inner) =
      ((isListOpen opened == (tag == .item)) && itemsInLists (tag :: opened) inner) := by
  simp only [Event.enclose, List.cons_append, itemsInLists, itemsInLists_append hnested,
    Bool.and_true]

/-- Well-nested events are those of nodes, or of items if they stand in a list. -/
theorem exists_nodes_or_items {events : List Event} (hnested : Nested events)
    (hitems : itemsInLists opened events = true) :
    (isListOpen opened = false → ∃ nodes, Node.eventsOfList nodes = events) ∧
      (isListOpen opened = true → ∃ items, Node.eventsOfItems items = events) := by
  -- the innermost open tag decides between nodes and items, so both are shown at once
  induction hnested generalizing opened with
  | nil => exact ⟨fun _ => ⟨[], rfl⟩, fun _ => ⟨[], rfl⟩⟩
  | @leaf event rest hleaf _ ih =>
      rw [itemsInLists_leaf hleaf, Bool.and_eq_true, Bool.not_eq_true'] at hitems
      obtain ⟨hplace, hrest⟩ := hitems
      refine ⟨fun _ => ?_, fun hlist => by simp [hlist] at hplace⟩
      obtain ⟨nodes, hnodes⟩ := (ih hrest).1 hplace
      exact ⟨.leaf event hleaf :: nodes, by simp [Node.eventsOfList, Node.events, hnodes]⟩
  | @pair tag inner rest hinner _ ihinner ihrest =>
      have hsplit : .start tag :: inner ++ .stop tag :: rest = Event.enclose tag inner ++ rest := by
        simp [Event.enclose]
      rw [hsplit, itemsInLists_append (.enclose tag hinner), itemsInLists_enclose tag hinner,
        Bool.and_eq_true, Bool.and_eq_true, beq_iff_eq] at hitems
      obtain ⟨⟨hplace, hin⟩, hrest⟩ := hitems
      rw [hsplit]
      constructor
      · intro hnone
        rw [hnone] at hplace
        obtain ⟨nodes, rfl⟩ := (ihrest hrest).1 hnone
        cases hlist : tag.isList with
        | true =>
            obtain ⟨items, rfl⟩ := (ihinner hin).2 hlist
            cases tag with
            | list start => exact ⟨.list start items :: nodes, rfl⟩
            | _ => cases hlist
        | false =>
            obtain ⟨content, rfl⟩ := (ihinner hin).1 hlist
            have hplain : tag.isPlain = true := by simp_all [Tag.isPlain]
            exact ⟨.pair tag hplain content :: nodes, rfl⟩
      · intro hlist
        rw [hlist] at hplace
        obtain rfl : tag = .item := by simpa using hplace.symm
        obtain ⟨items, rfl⟩ := (ihrest hrest).2 hlist
        obtain ⟨content, rfl⟩ := (ihinner hin).1 rfl
        exact ⟨content :: items, rfl⟩

end Trees

/-- A fold over a pair goes from its start over what is enclosed to its end. -/
theorem Event.foldl_enclose {α : Type} (f : α → Event → α) (state : α) (tag : Tag)
    (inner : List Event) :
    (Event.enclose tag inner).foldl f state =
      f (inner.foldl f (f state (.start tag))) (.stop tag) := by
  rw [Event.enclose, List.foldl_append]
  rfl

/-! ## The events of documents -/

theorem itemsInLists_flatMap {α : Type} {opened : List Tag} {parts : List α}
    {events : α → List Event} (hnested : ∀ part ∈ parts, Nested (events part))
    (hparts : ∀ part ∈ parts, itemsInLists opened (events part) = true) :
    itemsInLists opened (parts.flatMap events) = true := by
  induction parts with
  | nil => rfl
  | cons part rest ih =>
      obtain ⟨hfirst, hothers⟩ := List.forall_mem_cons.mp hnested
      obtain ⟨hpart, hrest⟩ := List.forall_mem_cons.mp hparts
      rw [List.flatMap_cons, itemsInLists_append hfirst, hpart, ih hothers hrest, Bool.true_and]

/-- A pair with other content than items, anywhere but directly in a list. -/
theorem itemsInLists_pair (tag : Tag) {opened : List Tag} {inner : List Event}
    (hnested : Nested inner) (hplace : isListOpen opened = false) (htag : tag ≠ .item)
    (hinner : itemsInLists (tag :: opened) inner = true) :
    itemsInLists opened (Event.enclose tag inner) = true := by
  rw [itemsInLists_enclose tag hnested, hplace, hinner, beq_eq_false_iff_ne.mpr htag]
  rfl

theorem itemsInLists_single {opened : List Tag} {event : Event} (hleaf : event.isLeaf = true)
    (hplace : isListOpen opened = false) : itemsInLists opened [event] = true := by
  rw [itemsInLists_leaf hleaf, hplace]
  rfl

mutual

/-- Inline content has neither lists nor items, so it may stand anywhere but directly in a list. -/
theorem Inline.itemsInLists_events {opened : List Tag} (hplace : isListOpen opened = false) :
    (node : Inline) → itemsInLists opened node.events = true
  | .text _ => itemsInLists_single rfl hplace
  | .code _ => itemsInLists_single rfl hplace
  | .html _ => itemsInLists_single rfl hplace
  | .softBreak => itemsInLists_single rfl hplace
  | .hardBreak => itemsInLists_single rfl hplace
  | .span _ content =>
      itemsInLists_pair _ (nested_eventsOfList content) hplace nofun
        (Inline.itemsInLists_eventsOfList rfl content)
  | .link _ _ content =>
      itemsInLists_pair _ (nested_eventsOfList content) hplace nofun
        (Inline.itemsInLists_eventsOfList rfl content)
  | .mail _ => itemsInLists_pair _ (.single rfl) hplace nofun (itemsInLists_single rfl rfl)
  | .image _ _ content =>
      itemsInLists_pair _ (nested_eventsOfList content) hplace nofun
        (Inline.itemsInLists_eventsOfList rfl content)

theorem Inline.itemsInLists_eventsOfList {opened : List Tag}
    (hplace : isListOpen opened = false) :
    (nodes : List Inline) → itemsInLists opened (Inline.eventsOfList nodes) = true
  | [] => rfl
  | node :: rest => by
      rw [Inline.eventsOfList, itemsInLists_append (nested_events node),
        Inline.itemsInLists_events hplace node, Inline.itemsInLists_eventsOfList hplace rest,
        Bool.and_true]

end

theorem Prose.itemsInLists_events {opened : List Tag} (hplace : isListOpen opened = false)
    (definitions : Definitions) (prose : Prose) :
    itemsInLists opened (prose.events definitions) = true :=
  Inline.itemsInLists_eventsOfList hplace _

theorem itemsInLists_taskEvents {opened : List Tag} (hplace : isListOpen opened = false)
    (task : Option Bool) : itemsInLists opened (taskEvents task) = true := by
  cases task with
  | none => rfl
  | some checked => exact itemsInLists_single rfl hplace

/-- A task marker and text, which a paragraph or a heading consists of. -/
theorem itemsInLists_marked {opened : List Tag} (hplace : isListOpen opened = false)
    (definitions : Definitions) (task : Option Bool) (prose : Prose) :
    itemsInLists opened (taskEvents task ++ prose.events definitions) = true := by
  rw [itemsInLists_append (nested_taskEvents task), itemsInLists_taskEvents hplace task,
    prose.itemsInLists_events hplace definitions, Bool.and_true]

theorem itemsInLists_cellEvents {opened : List Tag} (hplace : isListOpen opened = false)
    (definitions : Definitions) (cells : List Prose) :
    itemsInLists opened (cellEvents definitions cells) = true := by
  apply itemsInLists_flatMap
  · exact fun cell _ => .enclose _ (cell.nested_events definitions)
  · intro cell _
    exact itemsInLists_pair _ (cell.nested_events definitions) hplace nofun
      (cell.itemsInLists_events rfl definitions)

theorem itemsInLists_htmlLine {opened : List Tag} (hplace : isListOpen opened = false)
    (indent : Nat) (text : List Char) :
    itemsInLists opened
      ((if indent = 0 then [] else [.text (String.ofList (List.replicate indent ' '))]) ++
        [.html (String.ofList text)]) = true := by
  split
  · exact itemsInLists_single rfl hplace
  · rw [List.singleton_append, itemsInLists_leaf rfl, hplace, itemsInLists_single rfl hplace]
    rfl

mutual

/-- A block has items in its lists only, and lists have nothing else directly in them. -/
theorem Block.itemsInLists_events (definitions : Definitions) (tight : Bool) {opened : List Tag}
    (hplace : isListOpen opened = false) :
    (block : Block) → itemsInLists opened (block.events definitions tight) = true
  | .paragraph marker prose => by
      have hnested := (nested_taskEvents marker).append (prose.nested_events definitions)
      -- a paragraph of a tight list has no pair around it
      cases tight with
      | false =>
          exact itemsInLists_pair _ hnested hplace nofun
            (itemsInLists_marked rfl definitions marker prose)
      | true => exact itemsInLists_marked hplace definitions marker prose
  | .heading _ marker prose =>
      itemsInLists_pair _ ((nested_taskEvents marker).append (prose.nested_events definitions))
        hplace nofun (itemsInLists_marked rfl definitions marker prose)
  | .rule => itemsInLists_single rfl hplace
  | .code _ text => by
      refine itemsInLists_pair _ ?_ hplace nofun ?_
      · split
        · exact .nil
        · exact .single rfl
      · split <;> rfl
  | .html lines => by
      have hnested (line : Nat × List Char) := nested_htmlLine line.1 line.2
      exact itemsInLists_pair _ (.flatMap fun line _ => hnested line) hplace nofun
        (itemsInLists_flatMap (fun line _ => hnested line) fun line _ =>
          itemsInLists_htmlLine rfl line.1 line.2)
  | .table _ head rows => by
      have hhead := nested_cellEvents definitions head
      have hrows (row : List Prose) := Nested.enclose .tableRow (nested_cellEvents definitions row)
      refine itemsInLists_pair _ (.append (.enclose _ hhead) (.flatMap fun row _ => hrows row))
        hplace nofun ?_
      rw [itemsInLists_append (.enclose _ hhead),
        itemsInLists_pair .tableHead hhead rfl nofun (itemsInLists_cellEvents rfl definitions head),
        Bool.true_and]
      apply itemsInLists_flatMap fun row _ => hrows row
      intro row _
      exact itemsInLists_pair .tableRow (nested_cellEvents definitions row) rfl nofun
        (itemsInLists_cellEvents rfl definitions row)
  | .quote blocks =>
      itemsInLists_pair _ (Block.nested_eventsOfList definitions false blocks) hplace nofun
        (Block.itemsInLists_eventsOfList definitions false rfl blocks)
  | .list start tight items =>
      itemsInLists_pair _ (Block.nested_eventsOfItems definitions tight items) hplace nofun
        (Block.itemsInLists_eventsOfItems definitions tight rfl items)
  | .task _ => itemsInLists_single rfl hplace

theorem Block.itemsInLists_eventsOfList (definitions : Definitions) (tight : Bool)
    {opened : List Tag} (hplace : isListOpen opened = false) :
    (blocks : List Block) →
      itemsInLists opened (Block.eventsOfList definitions tight blocks) = true
  | [] => rfl
  | block :: rest => by
      rw [Block.eventsOfList, itemsInLists_append (Block.nested_events definitions tight block),
        Block.itemsInLists_events definitions tight hplace block,
        Block.itemsInLists_eventsOfList definitions tight hplace rest, Bool.and_true]

theorem Block.itemsInLists_eventsOfItems (definitions : Definitions) (tight : Bool)
    {opened : List Tag} (hplace : isListOpen opened = true) :
    (items : List (List Block)) →
      itemsInLists opened (Block.eventsOfItems definitions tight items) = true
  | [] => rfl
  | blocks :: rest => by
      have hnested := Block.nested_eventsOfList definitions tight blocks
      rw [Block.eventsOfItems, itemsInLists_append (.enclose _ hnested),
        itemsInLists_enclose _ hnested, hplace,
        Block.itemsInLists_eventsOfList definitions tight rfl blocks,
        Block.itemsInLists_eventsOfItems definitions tight hplace rest]
      rfl

end

end QuizCompiler.Markdown
