import Mathlib.Data.List.TakeWhile
import QuizCompiler.Quiz.Source

/-! # The sections of a source

A source can be read off its blocks without a state: a section is a level 2 heading with
the blocks up to the next heading of the first two levels, and what stands in no
section is dropped.
-/

namespace QuizCompiler.Quiz

namespace Block

def title? : Block → Option String
  | .heading 1 text => some text
  | _ => none

/-- Whether a block belongs to the section that it stands in: it is no heading of the first
two levels. -/
def isBody : Block → Bool
  | .heading 1 _ => false
  | .heading 2 _ => false
  | _ => true

/-- A block is a title, the beginning of a section, or part of one. -/
theorem title_or_section_or_body (block : Block) :
    (∃ text, block = .heading 1 text) ∨ (∃ text, block = .heading 2 text) ∨
      block.isBody = true := by
  unfold isBody
  split
  next text => exact Or.inl ⟨text, rfl⟩
  next text => exact Or.inr (Or.inl ⟨text, rfl⟩)
  next => exact Or.inr (Or.inr rfl)

theorem title?_of_isBody {block : Block} (hbody : block.isBody = true) : block.title? = none := by
  unfold title?
  split
  next => simp [isBody] at hbody
  next => rfl

end Block

/-- The sections in a sequence of blocks before which `n` sections stand. -/
def sectionsFrom (n : Nat) : List Block → List Section
  | [] => []
  | .heading 2 text :: rest =>
      ⟨text, n + 1, rest.takeWhile Block.isBody⟩ :: sectionsFrom (n + 1) rest
  | _ :: rest => sectionsFrom n rest

/-- The blocks of a sequence that stand in no section; `inside` says whether a section is open
before it. -/
def droppedFrom (inside : Bool) : List Block → List Block
  | [] => []
  | .heading 1 _ :: rest => droppedFrom false rest
  | .heading 2 _ :: rest => droppedFrom true rest
  | block :: rest =>
      if inside then droppedFrom inside rest else block :: droppedFrom inside rest

@[simp]
theorem sectionsFrom_title (n : Nat) (text : String) (rest : List Block) :
    sectionsFrom n (.heading 1 text :: rest) = sectionsFrom n rest := rfl

@[simp]
theorem sectionsFrom_section (n : Nat) (text : String) (rest : List Block) :
    sectionsFrom n (.heading 2 text :: rest) =
      ⟨text, n + 1, rest.takeWhile Block.isBody⟩ :: sectionsFrom (n + 1) rest := rfl

theorem sectionsFrom_of_isBody {n : Nat} {block : Block} {rest : List Block}
    (hbody : block.isBody = true) : sectionsFrom n (block :: rest) = sectionsFrom n rest := by
  rw [sectionsFrom]
  rintro text rfl
  simp [Block.isBody] at hbody

@[simp]
theorem droppedFrom_title (inside : Bool) (text : String) (rest : List Block) :
    droppedFrom inside (.heading 1 text :: rest) = droppedFrom false rest := rfl

@[simp]
theorem droppedFrom_section (inside : Bool) (text : String) (rest : List Block) :
    droppedFrom inside (.heading 2 text :: rest) = droppedFrom true rest := rfl

theorem droppedFrom_of_isBody {inside : Bool} {block : Block} {rest : List Block}
    (hbody : block.isBody = true) :
    droppedFrom inside (block :: rest) =
      if inside then droppedFrom inside rest else block :: droppedFrom inside rest := by
  rw [droppedFrom]
  · rintro text rfl
    simp [Block.isBody] at hbody
  · rintro text rfl
    simp [Block.isBody] at hbody

section Bodies

variable {body rest : List Block}

/-- Sections begin behind the blocks of a body, not in it. -/
theorem sectionsFrom_append_of_isBody (hbody : ∀ block ∈ body, block.isBody = true) (n : Nat) :
    sectionsFrom n (body ++ rest) = sectionsFrom n rest := by
  induction body with
  | nil => rfl
  | cons block body ih =>
      obtain ⟨hblock, hmore⟩ := List.forall_mem_cons.mp hbody
      rw [List.cons_append, sectionsFrom_of_isBody hblock, ih hmore]

theorem droppedFrom_append_of_isBody (hbody : ∀ block ∈ body, block.isBody = true) :
    droppedFrom true (body ++ rest) = droppedFrom true rest := by
  induction body with
  | nil => rfl
  | cons block body ih =>
      obtain ⟨hblock, hmore⟩ := List.forall_mem_cons.mp hbody
      rw [List.cons_append, droppedFrom_of_isBody hblock, if_pos rfl, ih hmore]

end Bodies

/-! ## Cutting -/

namespace Sectioning

/-- A block that is no heading of the first two levels goes to the open section, if there is
one. -/
theorem push_of_isBody (s : Sectioning) {block : Block} (hbody : block.isBody = true) :
    s.push block =
      match s.current with
      | some current =>
          { s with current := some { current with content := block :: current.content } }
      | none => { s with dropped := block :: s.dropped } := by
  unfold push
  split
  next => cases hbody
  next => cases hbody
  next => rfl

/-- A level 1 heading closes the open section, and is the title unless there is one. -/
theorem push_title (s : Sectioning) (text : String) :
    s.push (.heading 1 text) =
      { s with
        sections := s.finished
        current := none
        title := s.title.or (some text)
        log := if s.title.isSome then .extraTitle text :: s.log else s.log } := by
  unfold push
  cases s.title <;> simp

/-- A section begins: the one before it is finished, and the next has no content so far. -/
theorem push_section (s : Sectioning) (text : String) :
    s.push (.heading 2 text) =
      { s with
        sections := s.finished
        current := some ⟨text, s.finished.length + 1, []⟩ } := rfl

/-- The sections that are there once the blocks are read: the finished ones, the open one with
the blocks that still belong to it, and those that begin later. -/
def sectionsWith (s : Sectioning) (blocks : List Block) : List Section :=
  s.sections.reverse ++
    s.current.toList.map (fun part =>
      { part with content := part.content.reverse ++ blocks.takeWhile Block.isBody }) ++
    sectionsFrom s.finished.length blocks

@[simp]
theorem finished_closed (title : Option String) (sections : List Section) (dropped : List Block)
    (log : List Notice) :
    finished ⟨title, sections, none, dropped, log⟩ = sections := rfl

@[simp]
theorem finished_open (title : Option String) (sections : List Section) (part : Section)
    (dropped : List Block) (log : List Notice) :
    finished ⟨title, sections, some part, dropped, log⟩ =
      { part with content := part.content.reverse } :: sections := rfl

theorem finished_eq (s : Sectioning) :
    s.finished.reverse =
      s.sections.reverse ++
        s.current.toList.map fun part => { part with content := part.content.reverse } := by
  unfold finished
  cases s.current <;> simp

/-- Reading blocks makes the sections, the title and the dropped blocks that the blocks have in
themselves, after what was there before. -/
theorem foldl_push (s : Sectioning) (blocks : List Block) :
    (blocks.foldl push s).finished.reverse = s.sectionsWith blocks ∧
      (blocks.foldl push s).title = s.title.or (blocks.findSome? Block.title?) ∧
      (blocks.foldl push s).dropped.reverse =
        s.dropped.reverse ++ droppedFrom s.current.isSome blocks := by
  induction blocks generalizing s with
  | nil =>
      refine ⟨?_, by simp, by simp [droppedFrom]⟩
      simp [sectionsWith, finished_eq, sectionsFrom]
  | cons block rest ih =>
      obtain ⟨hsections, htitle, hdropped⟩ := ih (s.push block)
      rw [List.foldl_cons, hsections, htitle, hdropped]
      rcases block.title_or_section_or_body with ⟨text, rfl⟩ | ⟨text, rfl⟩ | hbody
      · -- a level 1 heading closes the open section and opens none
        rw [push_title]
        refine ⟨?_, ?_, by simp⟩
        · simp [sectionsWith, finished_eq, Block.isBody]
        · cases s.title <;> simp [Block.title?]
      · -- a level 2 heading closes the open section and opens the next
        rw [push_section]
        refine ⟨?_, by simp [Block.title?], by simp⟩
        simp [sectionsWith, finished_eq, Block.isBody]
      · rw [push_of_isBody s hbody]
        cases hcurrent : s.current with
        | none =>
            refine ⟨?_, ?_, ?_⟩
            · simp [sectionsWith, finished, hcurrent, sectionsFrom_of_isBody hbody]
            · simp [Block.title?_of_isBody hbody]
            · simp [droppedFrom_of_isBody hbody]
        | some current =>
            refine ⟨?_, ?_, ?_⟩
            · simp [sectionsWith, finished, hcurrent, sectionsFrom_of_isBody hbody, hbody]
            · simp [Block.title?_of_isBody hbody]
            · simp [droppedFrom_of_isBody hbody]

end Sectioning

/-- Cutting finds the sections of the blocks, the first title and what stands in no section. -/
theorem Source.value_ofBlocks (blocks : List Block) :
    (Source.ofBlocks blocks).value =
      ⟨(blocks.findSome? Block.title?).getD "", sectionsFrom 0 blocks,
        droppedFrom false blocks⟩ := by
  obtain ⟨hsections, htitle, hdropped⟩ := Sectioning.foldl_push .empty blocks
  simp only [ofBlocks, Sectioning.finish, hsections, htitle, hdropped]
  simp [Sectioning.sectionsWith, Sectioning.empty, Sectioning.finished]

/-! ## Places and contents -/

/-- Sections are counted from one on. -/
theorem position_of_getElem?_sectionsFrom {blocks : List Block} {n i : Nat} {part : Section}
    (hpart : (sectionsFrom n blocks)[i]? = some part) : part.position = n + i + 1 := by
  induction blocks generalizing n i with
  | nil => simp [sectionsFrom] at hpart
  | cons block rest ih =>
      rcases block.title_or_section_or_body with ⟨text, rfl⟩ | ⟨text, rfl⟩ | hbody
      · exact ih hpart
      · rw [sectionsFrom_section] at hpart
        cases i with
        | zero =>
            simp only [List.getElem?_cons_zero, Option.some.injEq] at hpart
            subst part
            rfl
        | succ i =>
            have := ih (by simpa using hpart)
            omega
      · rw [sectionsFrom_of_isBody hbody] at hpart
        exact ih hpart

/-- What a section holds are blocks of the document, none of them a heading of the first two
levels. -/
theorem mem_content_of_mem_sectionsFrom {blocks : List Block} {n : Nat} {part : Section}
    {block : Block} (hpart : part ∈ sectionsFrom n blocks) (hblock : block ∈ part.content) :
    block ∈ blocks ∧ block.isBody = true := by
  induction blocks generalizing n with
  | nil => simp [sectionsFrom] at hpart
  | cons first rest ih =>
      rcases first.title_or_section_or_body with ⟨text, rfl⟩ | ⟨text, rfl⟩ | hbody
      · obtain ⟨hmem, hisBody⟩ := ih hpart
        exact ⟨List.mem_cons_of_mem _ hmem, hisBody⟩
      · rw [sectionsFrom_section] at hpart
        rcases List.mem_cons.mp hpart with rfl | hpart
        · have hmem := (List.takeWhile_prefix _).subset hblock
          exact ⟨List.mem_cons_of_mem _ hmem, List.mem_takeWhile_imp hblock⟩
        · obtain ⟨hmem, hisBody⟩ := ih hpart
          exact ⟨List.mem_cons_of_mem _ hmem, hisBody⟩
      · rw [sectionsFrom_of_isBody hbody] at hpart
        obtain ⟨hmem, hisBody⟩ := ih hpart
        exact ⟨List.mem_cons_of_mem _ hmem, hisBody⟩

end QuizCompiler.Quiz
