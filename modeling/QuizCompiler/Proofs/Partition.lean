import Mathlib.Data.List.Perm.Basic
import QuizCompiler.Proofs.Sections

/-! # Where every block goes

The nearest heading above a block decides where the block goes. Each block of a source is
kept in one place, or is one of the level 1 headings after the first.
-/

namespace QuizCompiler.Quiz

namespace Block

def opensSection : Block → Bool
  | .heading 2 _ => true
  | _ => false

theorem opensSection_of_isBody {block : Block} (hbody : block.isBody = true) :
    block.opensSection = false := by
  unfold opensSection
  split
  next => cases hbody
  next => rfl

end Block

/-- The texts of the level 1 headings. The first of them is the title. -/
def titlesOf (blocks : List Block) : List String := blocks.filterMap Block.title?

/-- The nearest heading of the first two levels above a place. -/
def headingAbove? (blocks : List Block) (place : Nat) : Option Block :=
  ((blocks.take place).filter fun block => !block.isBody).getLast?

/-- The section whose heading stands at a place: its position is the rank of the heading among
those of level 2, and it goes up to the next heading of the first two levels. -/
def sectionAt? (blocks : List Block) (place : Nat) : Option Section :=
  match blocks[place]? with
  | some (.heading 2 text) =>
      some ⟨text, (blocks.take (place + 1)).countP Block.opensSection,
        (blocks.drop (place + 1)).takeWhile Block.isBody⟩
  | _ => none

/-- The block at a place if it is dropped: it is no heading of the first two levels, and the
nearest one above it is missing or of level 1. -/
def droppedAt? (blocks : List Block) (place : Nat) : Option Block :=
  (blocks[place]?).filter fun block =>
    block.isBody && (headingAbove? blocks place).all fun above => above.title?.isSome

/-- The blocks that a section was made of. -/
def Section.blocks (part : Section) : List Block := .heading 2 part.heading :: part.content

/-- A section before which `n` more sections are put. -/
def Section.shift (n : Nat) (part : Section) : Section :=
  { part with position := n + part.position }

/-! ## Sections -/

/-- Counting sections on from a number only moves their positions. -/
theorem sectionsFrom_eq_map_shift (n : Nat) (blocks : List Block) :
    sectionsFrom n blocks = (sectionsFrom 0 blocks).map (Section.shift n) := by
  induction blocks generalizing n with
  | nil => rfl
  | cons block rest ih =>
      rcases block.title_or_section_or_body with ⟨text, rfl⟩ | ⟨text, rfl⟩ | hbody
      · exact ih n
      · rw [sectionsFrom_section, sectionsFrom_section, ih (n + 1), ih (0 + 1), List.map_cons,
          List.map_map]
        congr 1
        apply List.map_congr_left
        intro part _
        simp [Section.shift, Nat.add_assoc]
      · rw [sectionsFrom_of_isBody hbody, sectionsFrom_of_isBody hbody, ih n]

theorem sectionAt?_cons_zero (text : String) (rest : List Block) :
    sectionAt? (.heading 2 text :: rest) 0 = some ⟨text, 1, rest.takeWhile Block.isBody⟩ := by
  simp [sectionAt?, Block.opensSection]

theorem sectionAt?_cons_zero_of_not {block : Block} (rest : List Block)
    (hnot : block.opensSection = false) : sectionAt? (block :: rest) 0 = none := by
  unfold sectionAt?
  split
  next text hblock =>
    obtain rfl : block = .heading 2 text := by simpa using hblock
    cases hnot
  next => rfl

/-- A block in front moves the sections behind it, if it begins one itself. -/
theorem sectionAt?_cons_succ (block : Block) (rest : List Block) (place : Nat) :
    sectionAt? (block :: rest) (place + 1) =
      (sectionAt? rest place).map (Section.shift (if block.opensSection then 1 else 0)) := by
  unfold sectionAt?
  rw [List.getElem?_cons_succ, List.take_succ_cons, List.drop_succ_cons, List.countP_cons]
  split
  next text _ => simp [Section.shift, Nat.add_comm]
  next => rfl

/-- Looking at all places is looking at the first one and then at the places behind it. -/
theorem filterMap_range_cons {α β : Type} (f : Nat → Option β) (item : α) (rest : List α) :
    (List.range (item :: rest).length).filterMap f =
      (f 0).toList ++ (List.range rest.length).filterMap fun place => f (place + 1) := by
  rw [List.length_cons, List.range_succ_eq_map, List.filterMap_cons, List.filterMap_map]
  cases f 0 <;> rfl

/-- The sections are what stands at the places of blocks, taken in order. -/
theorem sectionsFrom_eq_filterMap (blocks : List Block) :
    sectionsFrom 0 blocks = (List.range blocks.length).filterMap (sectionAt? blocks) := by
  induction blocks with
  | nil => rfl
  | cons block rest ih =>
      rw [filterMap_range_cons]
      simp only [sectionAt?_cons_succ, ← List.map_filterMap, ← ih]
      rw [← sectionsFrom_eq_map_shift]
      rcases block.title_or_section_or_body with ⟨text, rfl⟩ | ⟨text, rfl⟩ | hbody
      · rw [sectionAt?_cons_zero_of_not rest rfl]
        rfl
      · rw [sectionAt?_cons_zero]
        rfl
      · have hnot := Block.opensSection_of_isBody hbody
        rw [sectionAt?_cons_zero_of_not rest hnot, hnot, sectionsFrom_of_isBody hbody]
        rfl

/-! ## Dropped blocks -/

/-- The block at a place if it is dropped, given the nearest heading above all blocks. -/
def droppedBelow? (above : Option Block) (blocks : List Block) (place : Nat) : Option Block :=
  (blocks[place]?).filter fun block =>
    block.isBody && ((headingAbove? blocks place).or above).all fun heading =>
      heading.title?.isSome

/-- A block in front is the heading above only if no nearer one is. -/
theorem headingAbove?_cons_succ (block : Block) (rest : List Block) (place : Nat) :
    headingAbove? (block :: rest) (place + 1) =
      (headingAbove? rest place).or (if block.isBody then none else some block) := by
  unfold headingAbove?
  rw [List.take_succ_cons, List.filter_cons]
  cases hbody : block.isBody with
  | true => simp
  | false => simp [List.getLast?_cons]

theorem droppedBelow?_cons_succ (above : Option Block) (block : Block) (rest : List Block)
    (place : Nat) :
    droppedBelow? above (block :: rest) (place + 1) =
      droppedBelow? ((if block.isBody then none else some block).or above) rest place := by
  simp only [droppedBelow?, List.getElem?_cons_succ, headingAbove?_cons_succ, Option.or_assoc]

theorem droppedBelow?_cons_zero (above : Option Block) (block : Block) (rest : List Block) :
    droppedBelow? above (block :: rest) 0 =
      if block.isBody && above.all (fun heading => heading.title?.isSome) then some block
      else none := by
  simp [droppedBelow?, headingAbove?, Option.filter]

/-- The dropped blocks are those at the places whose nearest heading above begins no section. -/
theorem droppedFrom_eq_filterMap (above : Option Block) (blocks : List Block) :
    droppedFrom (!above.all fun heading => heading.title?.isSome) blocks =
      (List.range blocks.length).filterMap (droppedBelow? above blocks) := by
  -- a section is open just if the nearest heading above is no title
  induction blocks generalizing above with
  | nil => rfl
  | cons block rest ih =>
      rw [filterMap_range_cons]
      simp only [droppedBelow?_cons_succ, ← ih, droppedBelow?_cons_zero]
      rcases block.title_or_section_or_body with ⟨text, rfl⟩ | ⟨text, rfl⟩ | hbody
      · rfl
      · rfl
      · rw [droppedFrom_of_isBody hbody, hbody]
        cases habove : above.all fun heading => heading.title?.isSome <;> simp [habove]

theorem droppedBelow?_none (blocks : List Block) :
    droppedBelow? none blocks = droppedAt? blocks := by
  funext place
  simp only [droppedBelow?, droppedAt?, Option.or_none]

/-! ## All blocks -/

/-- Each block is a level 1 heading, in a section, or dropped. The blocks up to the first heading
belong to the section that is open before them, if there is one. -/
theorem perm_blocks (n : Nat) (inside : Bool) (blocks : List Block) :
    blocks.Perm
      ((if inside then blocks.takeWhile Block.isBody else []) ++
        ((titlesOf blocks).map (Block.heading 1) ++
          ((sectionsFrom n blocks).flatMap Section.blocks ++ droppedFrom inside blocks))) := by
  induction blocks generalizing n inside with
  | nil => cases inside <;> exact .refl _
  | cons block rest ih =>
      rcases block.title_or_section_or_body with ⟨text, rfl⟩ | ⟨text, rfl⟩ | hbody
      · have hrest := (ih n false).cons (.heading 1 text)
        simpa [titlesOf, Block.title?, Block.isBody] using hrest
      · -- the blocks that stand first in the rest are those of the new section
        have hrest := (ih (n + 1) true).cons (.heading 2 text)
        have hmove := List.perm_append_comm_assoc
          (Block.heading 2 text :: rest.takeWhile Block.isBody)
          ((titlesOf rest).map (Block.heading 1))
          ((sectionsFrom (n + 1) rest).flatMap Section.blocks ++ droppedFrom true rest)
        simpa [titlesOf, Block.title?, Block.isBody, Section.blocks] using hrest.trans hmove
      · have hrest := (ih n inside).cons block
        simp only [titlesOf, List.filterMap_cons, Block.title?_of_isBody hbody,
          sectionsFrom_of_isBody hbody, droppedFrom_of_isBody hbody] at hrest ⊢
        cases inside with
        | true => simpa [hbody] using hrest
        | false =>
            refine hrest.trans ?_
            simp only [Bool.false_eq_true, if_false, List.nil_append, ← List.append_assoc]
            exact List.perm_middle.symm

/-- Cutting puts every block in its place. The sections are those of the level 2 headings, each
with its rank and the blocks up to the next heading of the first two levels. The first level 1
heading is the title. What is dropped are the blocks with no heading of the first two levels
above them, or one of level 1. So each block is the title, a level 1 heading after it, the
heading of a section, in one section, or dropped. -/
theorem ofBlocks_places_every_block (blocks : List Block) :
    (Source.ofBlocks blocks).value.sections =
        (List.range blocks.length).filterMap (sectionAt? blocks) ∧
      (Source.ofBlocks blocks).value.title = (titlesOf blocks).head?.getD "" ∧
      (Source.ofBlocks blocks).value.dropped =
        (List.range blocks.length).filterMap (droppedAt? blocks) ∧
      blocks.Perm
        ((titlesOf blocks).map (Block.heading 1) ++
          ((Source.ofBlocks blocks).value.sections.flatMap Section.blocks ++
            (Source.ofBlocks blocks).value.dropped)) := by
  rw [Source.value_ofBlocks]
  refine ⟨sectionsFrom_eq_filterMap blocks, ?_, ?_, ?_⟩
  · rw [titlesOf, List.head?_filterMap]
  · rw [← droppedBelow?_none]
    exact droppedFrom_eq_filterMap none blocks
  · exact perm_blocks 0 false blocks

end QuizCompiler.Quiz
