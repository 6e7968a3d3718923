import QuizCompiler.Markdown.Structure

/-! # Levels of headings

The headings of a document have levels from one to six. Each line that is read keeps this for the
blocks that are finished and for those in the frames that are still open.
-/

namespace QuizCompiler.Markdown

/-- Whether a block, if it is a heading, has a level that there is. -/
def Block.IsLevelled : Block → Prop
  | .heading level _ _ => 1 ≤ level ∧ level ≤ 6
  | _ => True

/-- Whether the blocks that a frame holds are levelled. -/
def Frame.IsLevelled : Frame → Prop
  | .quote blocks => ∀ block ∈ blocks, block.IsLevelled
  | .list _ _ items => ∀ item ∈ items, ∀ block ∈ item, block.IsLevelled
  | .item _ blocks => ∀ block ∈ blocks, block.IsLevelled

/-! ## Markers and underlines -/

/-- A heading is marked with one sign at least and six at most. -/
theorem atxLevel?_bounds {text : List Char} {level : Nat} (hlevel : atxLevel? text = some level) :
    1 ≤ level ∧ level ≤ 6 := by
  obtain ⟨hmarker, heq⟩ := Option.ite_none_right_eq_some.mp hlevel
  obtain rfl := Option.some.inj heq
  simp only [Bool.and_eq_true, decide_eq_true_eq] at hmarker
  exact hmarker.1

/-- Underlines stand for the first two levels. -/
theorem setextLevel?_bounds {text : List Char} {level : Nat}
    (hlevel : setextLevel? text = some level) : 1 ≤ level ∧ level ≤ 6 := by
  cases text with
  | nil => cases hlevel
  | cons c rest =>
      obtain ⟨-, heq⟩ := Option.ite_none_right_eq_some.mp hlevel
      obtain rfl := Option.some.inj heq
      split <;> omega

/-- A paragraph that is underlined becomes a heading of a level that there is. -/
theorem continuation_bounds {path : List Frame} {line : Line} {below : List Line} {level : Nat}
    (hline : continuation path line below = .underline level) : 1 ≤ level ∧ level ≤ 6 := by
  unfold continuation at hline
  dsimp only at hline
  split at hline
  next found hfound =>
    obtain rfl := Continuation.underline.inj hline
    obtain ⟨-, hlevel⟩ := Option.ite_none_right_eq_some.mp hfound
    exact setextLevel?_bounds hlevel
  next =>
    split at hline <;> cases hline

theorem paragraphLines_bounds {path : List Frame} {lines : List Line} {level : Nat}
    (hlevel : (paragraphLines path lines).2 = some level) : 1 ≤ level ∧ level ≤ 6 := by
  induction lines with
  | nil => cases hlevel
  | cons line rest ih =>
      rw [paragraphLines] at hlevel
      split at hlevel
      next => exact ih hlevel
      next found hline =>
        obtain rfl := Option.some.inj hlevel
        exact continuation_bounds hline
      next => cases hlevel

/-- The lines of a paragraph make a heading, a table or a paragraph, of which only the first has a
level. -/
theorem isLevelled_paragraph (path : List Frame) (task : Option Bool) (first : List Char)
    (rest : List Line) : (paragraph path task first rest).1.IsLevelled := by
  unfold paragraph
  split
  · trivial
  · dsimp only
    split
    next level hlevel => exact paragraphLines_bounds hlevel
    next => trivial

namespace Outline

/-- All headings that an outline holds have levels that there are. -/
structure IsLevelled (o : Outline) : Prop where
  path : ∀ frame ∈ o.path, frame.IsLevelled
  blocks : ∀ block ∈ o.blocks, block.IsLevelled

variable {o : Outline}

theorem isLevelled_empty : Outline.empty.IsLevelled := ⟨nofun, nofun⟩

/-! ## Frames -/

/-- A block with the right levels may be added to any frame. -/
theorem IsLevelled.add (hlevelled : o.IsLevelled) {block : Block} (hblock : block.IsLevelled) :
    (o.add block).IsLevelled := by
  obtain ⟨path, blocks, definitions, afterBlank, emptyItem⟩ := o
  obtain ⟨hpath, hblocks⟩ := hlevelled
  cases path with
  | nil => exact ⟨hpath, List.forall_mem_cons.mpr ⟨hblock, hblocks⟩⟩
  | cons frame outer =>
      obtain ⟨hframe, houter⟩ := List.forall_mem_cons.mp hpath
      refine ⟨?_, by cases frame <;> exact hblocks⟩
      cases frame with
      | quote inner =>
          exact List.forall_mem_cons.mpr ⟨List.forall_mem_cons.mpr ⟨hblock, hframe⟩, houter⟩
      | list marker tight items =>
          have hitem : ∀ other ∈ [block], other.IsLevelled := by simpa using hblock
          exact List.forall_mem_cons.mpr ⟨List.forall_mem_cons.mpr ⟨hitem, hframe⟩, houter⟩
      | item indent inner =>
          exact List.forall_mem_cons.mpr ⟨List.forall_mem_cons.mpr ⟨hblock, hframe⟩, houter⟩

theorem IsLevelled.foldl_add {blocks : List Block} (hlevelled : o.IsLevelled)
    (hblocks : ∀ block ∈ blocks, block.IsLevelled) :
    (blocks.foldl (fun o block => o.add block) o).IsLevelled := by
  induction blocks generalizing o with
  | nil => exact hlevelled
  | cons block rest ih =>
      obtain ⟨hblock, hrest⟩ := List.forall_mem_cons.mp hblocks
      exact ih (hlevelled.add hblock) hrest

/-- Closing a frame makes a block of what it holds. -/
theorem IsLevelled.close (hlevelled : o.IsLevelled) : o.close.IsLevelled := by
  obtain ⟨path, blocks, definitions, afterBlank, emptyItem⟩ := o
  obtain ⟨hpath, hblocks⟩ := hlevelled
  unfold Outline.close
  dsimp only at hpath hblocks ⊢
  split
  next => exact ⟨hpath, hblocks⟩
  next inner outer => exact add ⟨(List.forall_mem_cons.mp hpath).2, hblocks⟩ trivial
  next marker tight items outer => exact add ⟨(List.forall_mem_cons.mp hpath).2, hblocks⟩ trivial
  next indent inner marker tight items outer =>
    obtain ⟨hitem, hothers⟩ := List.forall_mem_cons.mp hpath
    obtain ⟨hlist, houter⟩ := List.forall_mem_cons.mp hothers
    have hreverse : ∀ block ∈ inner.reverse, block.IsLevelled := fun block hblock =>
      hitem block (List.mem_reverse.mp hblock)
    exact ⟨List.forall_mem_cons.mpr ⟨List.forall_mem_cons.mpr ⟨hreverse, hlist⟩, houter⟩, hblocks⟩
  next indent inner outer _ =>
    obtain ⟨hitem, houter⟩ := List.forall_mem_cons.mp hpath
    exact foldl_add ⟨houter, hblocks⟩ fun block hblock => hitem block (List.mem_reverse.mp hblock)

theorem IsLevelled.closeMany (hlevelled : o.IsLevelled) (n : Nat) :
    (o.closeMany n).IsLevelled := by
  induction n generalizing o with
  | zero => exact hlevelled
  | succ n ih => exact ih hlevelled.close

theorem IsLevelled.endEmptyItem (hlevelled : o.IsLevelled) : o.endEmptyItem.IsLevelled := by
  have hclosed (o' : Outline) (h : o'.IsLevelled) :
      ({ o' with emptyItem := false } : Outline).IsLevelled := ⟨h.path, h.blocks⟩
  unfold Outline.endEmptyItem
  apply hclosed
  split
  · exact hlevelled.close
  · exact hlevelled

/-- Whether a list is tight has no bearing on levels. -/
theorem IsLevelled.loosen (hlevelled : o.IsLevelled) : o.loosen.IsLevelled := by
  obtain ⟨path, blocks, definitions, afterBlank, emptyItem⟩ := o
  obtain ⟨hpath, hblocks⟩ := hlevelled
  unfold Outline.loosen
  dsimp only at hpath hblocks ⊢
  split
  · refine ⟨?_, hblocks⟩
    dsimp only
    split
    · simpa [Frame.IsLevelled] using hpath
    · exact hpath
  · exact ⟨hpath, hblocks⟩

theorem IsLevelled.leaveList (hlevelled : o.IsLevelled) : o.leaveList.IsLevelled := by
  unfold Outline.leaveList
  apply loosen
  split
  · exact hlevelled.endEmptyItem.close
  · exact hlevelled.endEmptyItem

theorem IsLevelled.openItem (hlevelled : o.IsLevelled) (marker : ListMarker) (indent : Nat) :
    (o.openItem marker indent).IsLevelled := by
  have hended := hlevelled.endEmptyItem
  have hleft := hended.leaveList
  unfold Outline.openItem
  dsimp only
  split
  next existing tight items outer hpath =>
    obtain ⟨hlist, houter⟩ := List.forall_mem_cons.mp (hpath ▸ hended.path)
    split
    · exact ⟨List.forall_mem_cons.mpr ⟨nofun, List.forall_mem_cons.mpr ⟨hlist, houter⟩⟩,
        hended.blocks⟩
    · exact ⟨List.forall_mem_cons.mpr ⟨nofun, List.forall_mem_cons.mpr ⟨nofun, hleft.path⟩⟩,
        hleft.blocks⟩
  next =>
    exact ⟨List.forall_mem_cons.mpr ⟨nofun, List.forall_mem_cons.mpr ⟨nofun, nofun⟩⟩,
      hended.blocks⟩
  next =>
    exact ⟨List.forall_mem_cons.mpr ⟨nofun, List.forall_mem_cons.mpr ⟨nofun, hleft.path⟩⟩,
      hleft.blocks⟩

theorem IsLevelled.openQuote (hlevelled : o.IsLevelled) : o.openQuote.IsLevelled :=
  ⟨List.forall_mem_cons.mpr ⟨nofun, hlevelled.leaveList.path⟩, hlevelled.leaveList.blocks⟩

theorem IsLevelled.passBlank (hlevelled : o.IsLevelled) : o.passBlank.IsLevelled := by
  unfold Outline.passBlank
  split
  next => exact hlevelled
  next indent inner outer hpath =>
    obtain ⟨hitem, houter⟩ := List.forall_mem_cons.mp (hpath ▸ hlevelled.path)
    exact ⟨List.forall_mem_cons.mpr ⟨hitem, houter⟩, hlevelled.blocks⟩
  next => exact ⟨hlevelled.path, hlevelled.blocks⟩

/-- When all frames are closed, the blocks have the levels that the outline had. -/
theorem IsLevelled.finish (hlevelled : o.IsLevelled) : ∀ block ∈ o.finish, block.IsLevelled :=
  fun block hblock => (hlevelled.closeMany _).blocks block (List.mem_reverse.mp hblock)

/-! ## Lines -/

theorem IsLevelled.readParagraph (hlevelled : o.IsLevelled) (path : List Frame) (fuel : Nat)
    (text : List Char) (rest : List Line) :
    (readParagraph path fuel text rest o).1.IsLevelled := by
  induction fuel generalizing text rest o with
  | zero => exact hlevelled
  | succ fuel ih =>
      unfold Markdown.readParagraph
      dsimp only
      split
      next => exact hlevelled.add (isLevelled_paragraph _ _ _ _)
      next definition after _ =>
        -- a definition is no block, and what comes after it is read in the same way
        have hdefined : ({ o with definitions := o.definitions ++ [definition] } :
            Outline).IsLevelled := ⟨hlevelled.path, hlevelled.blocks⟩
        split
        next => exact hdefined
        next =>
          split
          · exact hdefined
          · exact ih hdefined _ _

theorem IsLevelled.readLeaf (hlevelled : o.IsLevelled) (line : Line) (cursor : Cursor)
    (rest : List Line) : (readLeaf line cursor rest o).1.IsLevelled := by
  have hleft := hlevelled.leaveList
  -- of the leaves that are tried in turn only a heading has a level to bound
  unfold Markdown.readLeaf
  dsimp only
  split
  next =>
    apply add
    · exact ⟨hleft.path, hleft.blocks⟩
    · trivial
  next =>
    split
    next => exact hleft.add trivial
    next =>
      split
      next => exact hleft.add trivial
      next =>
        split
        next level hlevel => exact hleft.add (atxLevel?_bounds hlevel)
        next =>
          split
          next => exact hleft.add trivial
          next => exact hleft.readParagraph _ _ _ _

/-- Quotes and items are opened before a leaf is read in them. -/
theorem IsLevelled.readOpened (hlevelled : o.IsLevelled) (line : Line) (rest : List Line)
    (fuel : Nat) (cursor : Cursor) : (readOpened line rest fuel cursor o).1.IsLevelled := by
  -- each marker that is opened costs fuel, and what it opens keeps the levels
  induction fuel generalizing cursor o with
  | zero => exact hlevelled.readLeaf _ _ _
  | succ fuel ih =>
      unfold Markdown.readOpened
      dsimp only
      split
      next marker width after _ =>
        have hopened := hlevelled.openItem marker width
        split
        next => exact ⟨hopened.path, hopened.blocks⟩
        next =>
          split
          next checked text _ =>
            have htask : (Block.task checked).IsLevelled := trivial
            have hmarked := hopened.add htask
            split
            · exact ⟨hmarked.path, hmarked.blocks⟩
            · exact hopened.add (isLevelled_paragraph _ _ _ _)
          next => exact ih hopened _
      next =>
        split
        next => exact ih hlevelled.openQuote _
        next =>
          split
          · exact hlevelled.passBlank
          · exact hlevelled.readLeaf _ _ _

/-- Reading a line keeps the levels, whatever the line closes, opens or continues. -/
theorem IsLevelled.readLine (hlevelled : o.IsLevelled) (line : Line) (rest : List Line) :
    (readLine line rest o).1.IsLevelled :=
  (hlevelled.closeMany _).readOpened _ _ _ _

/-- The run over the lines keeps what each line keeps. -/
theorem IsLevelled.readLines (hlevelled : o.IsLevelled) (taken : Nat) (lines : List Line) :
    (readLines taken lines o).IsLevelled := by
  induction lines generalizing taken o with
  | nil => exact hlevelled
  | cons line rest ih =>
      cases taken with
      | zero => exact ih (hlevelled.readLine line rest) _
      | succ taken => exact ih hlevelled taken

end Outline

/-- All headings of a document, nested ones included, have one of the six levels. -/
theorem isLevelled_of_mem_readDocument {text : List Char} {block : Block}
    (hblock : block ∈ (readDocument text).1) : block.IsLevelled :=
  (Outline.isLevelled_empty.readLines 0 _).finish block hblock

end QuizCompiler.Markdown
