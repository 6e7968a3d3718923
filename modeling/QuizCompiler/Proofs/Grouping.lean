import Mathlib.Data.List.Forall2
import QuizCompiler.Proofs.Nesting

/-! # Groups are top-level nodes

Cutting events into groups loses nothing, whatever the events are. If they are well nested, the
groups are their top-level nodes, and each of these makes one block.
-/

namespace QuizCompiler.Markdown

/-- Well-nested events fall into top-level nodes. -/
theorem Nested.exists_nodes {events : List Event} (hnested : Nested events) :
    ∃ nodes : List (List Event), (∀ node ∈ nodes, IsNode node) ∧ nodes.flatten = events := by
  induction hnested with
  | nil => exact ⟨[], by simp, rfl⟩
  | @leaf event rest hleaf _ ih =>
      obtain ⟨nodes, hnodes, rfl⟩ := ih
      exact ⟨[event] :: nodes, List.forall_mem_cons.mpr ⟨.leaf hleaf, hnodes⟩, rfl⟩
  | @pair tag inner rest hinner _ _ ih =>
      obtain ⟨nodes, hnodes, rfl⟩ := ih
      refine ⟨Event.enclose tag inner :: nodes,
        List.forall_mem_cons.mpr ⟨.pair tag hinner, hnodes⟩, ?_⟩
      simp [Event.enclose]

theorem IsNode.nested {node : List Event} (hnode : IsNode node) : Nested node := by
  cases hnode with
  | leaf hleaf => exact .single hleaf
  | pair tag hinner => exact .enclose tag hinner

theorem nested_flatten {nodes : List (List Event)} (hnodes : ∀ node ∈ nodes, IsNode node) :
    Nested nodes.flatten := by
  induction nodes with
  | nil => exact .nil
  | cons node rest ih =>
      obtain ⟨hnode, hrest⟩ := List.forall_mem_cons.mp hnodes
      exact hnode.nested.append (ih hrest)

/-- The events of every document are well nested. -/
theorem nested_events (text : String) : Nested (events text) := Block.nested_eventsOfList _ _ _

end QuizCompiler.Markdown

namespace QuizCompiler.Quiz

open QuizCompiler.Markdown

namespace Grouping

/-! ## Nothing is lost -/

/-- The events that were taken so far. -/
def taken (g : Grouping) : List Event := g.groups.reverse.flatten ++ g.pending.reverse

theorem taken_close (g : Grouping) : g.close.taken = g.taken := by
  unfold close
  split
  · rfl
  · simp [taken]

theorem pending_close (g : Grouping) : g.close.pending = [] := by
  unfold close
  split
  next hempty => exact List.isEmpty_iff.mp hempty
  next => rfl

/-- An event is added to the group at hand, and the group may then be closed. -/
theorem push_eq (g : Grouping) (event : Event) :
    ∃ depth, g.push event = ⟨g.groups, event :: g.pending, depth⟩ ∨
      g.push event = (⟨g.groups, event :: g.pending, depth⟩ : Grouping).close := by
  unfold push
  dsimp only
  split_ifs
  · exact ⟨_, .inr rfl⟩
  · exact ⟨_, .inl rfl⟩

/-- An event is added behind those that were taken before, whether a group is closed or not. -/
theorem taken_push (g : Grouping) (event : Event) : (g.push event).taken = g.taken ++ [event] := by
  obtain ⟨depth, heq | heq⟩ := g.push_eq event
  · rw [heq]
    simp [taken]
  · rw [heq, taken_close]
    simp [taken]

/-- Events are taken in their order, each of them once. -/
theorem taken_foldl_push (g : Grouping) (events : List Event) :
    (events.foldl push g).taken = g.taken ++ events := by
  induction events generalizing g with
  | nil => simp
  | cons event rest ih =>
      rw [List.foldl_cons, ih, taken_push, List.append_assoc]
      rfl

/-- No finished group is empty. -/
def AllFilled (g : Grouping) : Prop := ∀ group ∈ g.groups, group ≠ []

theorem AllFilled.close {g : Grouping} (hfilled : g.AllFilled) : g.close.AllFilled := by
  unfold Grouping.close
  split
  next => exact hfilled
  next hpending =>
    refine List.forall_mem_cons.mpr ⟨?_, hfilled⟩
    simpa using hpending

/-- A group is closed only behind an event, so that it is not empty. -/
theorem AllFilled.push {g : Grouping} (hfilled : g.AllFilled) (event : Event) :
    (g.push event).AllFilled := by
  obtain ⟨depth, heq | heq⟩ := g.push_eq event
  · rw [heq]
    exact hfilled
  · rw [heq]
    exact AllFilled.close hfilled

theorem AllFilled.foldl_push {g : Grouping} (hfilled : g.AllFilled) (events : List Event) :
    (events.foldl Grouping.push g).AllFilled := by
  induction events generalizing g with
  | nil => exact hfilled
  | cons event rest ih => exact ih (hfilled.push event)

/-! ## The depth -/

theorem depth_close (g : Grouping) : g.close.depth = g.depth := by
  unfold close
  split <;> rfl

@[simp]
theorem depth_push_start (g : Grouping) (tag : Tag) :
    (g.push (.start tag)).depth = g.depth + 1 := by
  simp [push]

/-- The end of a pair is one level up; one without a beginning leaves the depth at zero. -/
@[simp]
theorem depth_push_stop (g : Grouping) (tag : Tag) : (g.push (.stop tag)).depth = g.depth - 1 := by
  unfold push
  dsimp only
  split
  · rw [depth_close]
  · rfl

theorem depth_push_leaf (g : Grouping) {event : Event} (hleaf : event.isLeaf = true) :
    (g.push event).depth = g.depth := by
  rw [push_leaf hleaf]
  split
  next hdepth => rw [depth_close, hdepth]
  next => rfl

/-- Every pair that well-nested events open is closed again, so they leave the depth as it was. -/
theorem depth_foldl_push_nested {events : List Event} (hnested : Nested events) (g : Grouping) :
    (events.foldl push g).depth = g.depth := by
  induction hnested generalizing g with
  | nil => rfl
  | leaf hleaf _ ih => rw [List.foldl_cons, ih, depth_push_leaf g hleaf]
  | pair tag _ _ ihinner ihrest =>
      rw [List.cons_append, List.foldl_cons, List.foldl_append, List.foldl_cons, ihrest,
        depth_push_stop, ihinner, depth_push_start, Nat.add_sub_cancel]

/-- An item of a list parted by an item is in the first part, is that item, or is in the second
part. -/
theorem eq_of_append_cons_eq {α : Type} {first second before after : List α} {item other : α}
    (heq : first ++ item :: second = before ++ other :: after) :
    (∃ middle, first = before ++ other :: middle) ∨ before = first ∨
      ∃ middle, before = first ++ item :: middle ∧ second = middle ++ other :: after := by
  rcases List.append_eq_append_iff.mp heq with ⟨middle, rfl, hmiddle⟩ | ⟨middle, rfl, hmiddle⟩
  · cases middle with
    | nil => exact .inr (.inl (List.append_nil _))
    | cons head middle =>
        obtain ⟨rfl, hrest⟩ := List.cons.inj hmiddle
        exact .inr (.inr ⟨middle, rfl, hrest⟩)
  · cases middle with
    | nil => exact .inr (.inl (List.append_nil _).symm)
    | cons head middle =>
        obtain ⟨rfl, -⟩ := List.cons.inj hmiddle
        exact .inl ⟨middle, rfl⟩

/-- When a pair of well-nested events is closed, the depth is greater than it was before them, so
it is never counted down from zero. -/
theorem depth_lt_of_stop {events : List Event} (hnested : Nested events) (g : Grouping)
    {before after : List Event} {tag : Tag} (hevents : events = before ++ .stop tag :: after) :
    g.depth < (before.foldl push g).depth := by
  induction hnested generalizing g before after tag with
  | nil => simp at hevents
  | @leaf event rest hleaf _ ih =>
      cases before with
      | nil =>
          obtain ⟨rfl, -⟩ := List.cons.inj hevents
          cases hleaf
      | cons first before =>
          obtain ⟨rfl, hrest⟩ := List.cons.inj hevents
          have hlt := ih (g.push event) hrest
          rwa [depth_push_leaf g hleaf] at hlt
  | @pair opened inner rest hinner _ ihinner ihrest =>
      cases before with
      | nil => cases hevents
      | cons first before =>
          obtain ⟨rfl, hsplit⟩ := List.cons.inj hevents
          have hopen := depth_foldl_push_nested hinner (g.push (.start opened))
          rw [depth_push_start] at hopen
          rw [List.foldl_cons]
          -- the end stands inside of this pair, is the end of this pair, or comes after it
          rcases eq_of_append_cons_eq hsplit with ⟨middle, hinside⟩ | rfl | ⟨middle, rfl, hlater⟩
          · have hlt := ihinner (g.push (.start opened)) hinside
            rw [depth_push_start] at hlt
            exact Nat.lt_of_succ_lt hlt
          · rw [hopen]
            exact Nat.lt_succ_self _
          · -- once the pair is closed, the depth is what it was before the pair
            rw [List.foldl_append, List.foldl_cons]
            have hlt := ihrest ((inner.foldl push (g.push (.start opened))).push (.stop opened))
              hlater
            rwa [depth_push_stop, hopen, Nat.add_sub_cancel] at hlt

end Grouping

/-! ## Blocks -/

/-- The block that a top-level node makes. What opens the node decides. -/
inductive MakesBlock (node : List Event) : Block → Prop
  | heading {level : Nat} (hlevel : level ≤ 2)
      (hopens : node.head? = some (.start (.heading level))) :
      MakesBlock node (.heading level (textContent node))
  | quote (hopens : node.head? = some (.start .quote)) :
      MakesBlock node (.quote (textContent node))
  | list (hopens : node.head? = some (.start (.list none))) :
      MakesBlock node (.list (collectChoices node))
  | other (hheading : ∀ level ≤ 2, node.head? ≠ some (.start (.heading level)))
      (hquote : node.head? ≠ some (.start .quote))
      (hlist : node.head? ≠ some (.start (.list none))) :
      MakesBlock node (.other (renderHtml node))

/-- The first event of a group decides as the relation says, with one case for each kind. -/
theorem makesBlock_ofGroup (node : List Event) : MakesBlock node (.ofGroup node) := by
  unfold Block.ofGroup
  split
  next level rest =>
    split
    next hlevel => exact .heading hlevel rfl
    next hlevel =>
      refine .other (fun other hother heq => ?_) nofun nofun
      cases heq
      exact hlevel hother
  next rest => exact .quote rfl
  next rest => exact .list rfl
  next hheading hquote hlist =>
    cases node with
    | nil => exact .other nofun nofun nofun
    | cons first rest =>
        refine .other (fun level _ heq => ?_) (fun heq => ?_) (fun heq => ?_)
        · cases heq
          exact hheading level rest rfl
        · cases heq
          exact hquote rest rfl
        · cases heq
          exact hlist rest rfl

/-- The groups of any events are not empty and make up the events. If the events are well nested,
as those of a document are, then their groups are just their top-level nodes, none of which
begins inside of a pair, and each makes one block. The depth is then never counted down from
zero, and no event is left pending. -/
theorem groupEvents_finds_nodes :
    (∀ events : List Event,
      (groupEvents events).flatten = events ∧ ∀ group ∈ groupEvents events, group ≠ []) ∧
    (∀ text : String, Nested (events text)) ∧
    ∀ events : List Event, Nested events →
      (∀ nodes : List (List Event),
        (∀ node ∈ nodes, IsNode node) ∧ nodes.flatten = events ↔ nodes = groupEvents events) ∧
      (∀ front back, groupEvents events = front ++ back → Nested front.flatten) ∧
      List.Forall₂ MakesBlock (groupEvents events) (Block.ofEvents events) ∧
      (∀ before tag after, events = before ++ .stop tag :: after →
        (before.foldl Grouping.push .empty).depth ≠ 0) ∧
      (events.foldl Grouping.push .empty).pending = [] := by
  refine ⟨fun events => ⟨?_, ?_⟩, nested_events, fun events hnested => ?_⟩
  · have htaken := Grouping.taken_foldl_push .empty events
    rw [← Grouping.taken_close, Grouping.taken, Grouping.pending_close] at htaken
    simpa [groupEvents, Grouping.taken, Grouping.empty] using htaken
  · have hfilled : Grouping.empty.AllFilled := by simp [Grouping.AllFilled, Grouping.empty]
    intro group hgroup
    exact (hfilled.foldl_push events).close group (List.mem_reverse.mp hgroup)
  · obtain ⟨nodes, hnodes, rfl⟩ := hnested.exists_nodes
    -- nodes are grouped as they are, so whatever nodes make up the events are the groups
    have hgroups := groupEvents_flatten hnodes
    refine ⟨fun others => ⟨?_, ?_⟩, ?_, ?_, ?_, ?_⟩
    · rintro ⟨hothers, heq⟩
      rw [← heq, groupEvents_flatten hothers]
    · rintro rfl
      exact ⟨by rwa [hgroups], by rw [hgroups]⟩
    · intro front back hsplit
      apply nested_flatten
      intro node hnode
      apply hnodes
      rw [← hgroups, hsplit]
      exact List.mem_append_left _ hnode
    · rw [Block.ofEvents, List.forall₂_map_right_iff, List.forall₂_same]
      exact fun node _ => makesBlock_ofGroup node
    · intro before tag after hevents
      exact Nat.ne_of_gt (Grouping.depth_lt_of_stop hnested .empty hevents)
    · rw [Grouping.empty, Grouping.foldl_push_nodes hnodes]

/-- A title, a quote with a list in it, and a rule. -/
def quotedList : List Event :=
  [.start (.heading 1), .text "T", .stop (.heading 1), .start .quote, .start (.list none),
    .start .item, .text "a", .stop .item, .stop (.list none), .stop .quote, .rule]

/-- A list in a quote makes no block of its own. -/
theorem groupEvents_quotedList :
    Nested quotedList ∧
      groupEvents quotedList =
        [quotedList.take 3, (quotedList.drop 3).take 7, quotedList.drop 10] ∧
      Block.ofEvents quotedList = [.heading 1 "T", .quote "a", .other "<hr />\n"] := by
  have hlist : Nested [.start (.list none), .start .item, .text "a", .stop .item,
      .stop (.list none)] := .enclose (.list none) (.enclose .item (.single rfl))
  have hnodes : ∀ node ∈ [quotedList.take 3, (quotedList.drop 3).take 7, quotedList.drop 10],
      IsNode node := by
    simp only [List.forall_mem_cons]
    exact ⟨.pair (.heading 1) (.single rfl), .pair .quote hlist, .leaf rfl, by simp⟩
  have hnested : Nested quotedList := nested_flatten hnodes
  obtain ⟨hgroups, -⟩ := groupEvents_finds_nodes.2.2 quotedList hnested
  have hgroup := ((hgroups _).mp ⟨hnodes, rfl⟩).symm
  refine ⟨hnested, hgroup, ?_⟩
  rw [Block.ofEvents, hgroup]
  decide +kernel

end QuizCompiler.Quiz
