import QuizCompiler.Proofs.Compilation
import QuizCompiler.Proofs.Grouping
import QuizCompiler.Proofs.HeadingLevels

/-! # The supplement of a question

No heading stands in a section of a document: those of the first two levels bound the sections,
and a deeper one is kept as HTML like any other block. So the supplement of a question is the HTML
of the blocks in its section, in order, without its quotes and unordered lists.
-/

namespace QuizCompiler.Quiz

open QuizCompiler.Markdown

/-! ## Groups of events and the sections that they stand in -/

def opensSection (group : List Event) : Bool := group.head? = some (.start (.heading 2))

/-- Whether a group is no heading of the first two levels. -/
def isBodyGroup (group : List Event) : Bool :=
  group.head? ≠ some (.start (.heading 1)) && group.head? ≠ some (.start (.heading 2))

/-- Whether a group is kept as HTML if it stands in a section. -/
def keepsHtml (group : List Event) : Bool :=
  group.head? ≠ some (.start .quote) && group.head? ≠ some (.start (.list none))

/-- The groups below each level 2 heading, up to the next heading of the first two levels. -/
def groupsOfSections : List (List Event) → List (List (List Event))
  | [] => []
  | group :: rest =>
      if opensSection group then rest.takeWhile isBodyGroup :: groupsOfSections rest
      else groupsOfSections rest

/-- The HTML of those groups that are kept as such, in order. -/
def htmlOfGroups (groups : List (List Event)) : String :=
  String.join ((groups.filter keepsHtml).map renderHtml)

/-- A group is a heading of the first two levels just if it begins as one. -/
theorem ofGroup_eq_heading_iff {group : List Event} {level : Nat} (hlevel : level ≤ 2) :
    (∃ text, Block.ofGroup group = .heading level text) ↔
      group.head? = some (.start (.heading level)) := by
  constructor
  · rintro ⟨text, hblock⟩
    have hmakes := makesBlock_ofGroup group
    rw [hblock] at hmakes
    cases hmakes with
    | heading _ hopens => exact hopens
  · intro hopens
    have hmakes := makesBlock_ofGroup group
    generalize Block.ofGroup group = block at hmakes
    cases hmakes with
    | heading _ hheading =>
        cases hopens.symm.trans hheading
        exact ⟨_, rfl⟩
    | quote hquote => cases hopens.symm.trans hquote
    | list hlist => cases hopens.symm.trans hlist
    | other hheading => exact absurd hopens (hheading level hlevel)

/-- A group belongs to a body unless it begins as such a heading. -/
theorem isBody_ofGroup (group : List Event) : (Block.ofGroup group).isBody = isBodyGroup group := by
  have hheading {level : Nat} (hlevel : level ≤ 2) :
      (∃ text, Block.ofGroup group = .heading level text) ↔
        group.head? = some (.start (.heading level)) := ofGroup_eq_heading_iff hlevel
  have htitle := hheading (Nat.le_succ 1)
  have hsection := hheading (Nat.le_refl 2)
  rcases (Block.ofGroup group).title_or_section_or_body with ⟨text, hblock⟩ | ⟨text, hblock⟩ | hbody
  · simp [isBodyGroup, htitle.mp ⟨text, hblock⟩, hblock, Block.isBody]
  · simp [isBodyGroup, hsection.mp ⟨text, hblock⟩, hblock, Block.isBody]
  · have hnot (level : Nat) (hheading : level = 1 ∨ level = 2) :
        ¬ ∃ text, Block.ofGroup group = .heading level text := by
      rintro ⟨text, hblock⟩
      rw [hblock] at hbody
      rcases hheading with rfl | rfl <;> cases hbody
    rw [hbody]
    simp [isBodyGroup, ← htitle, ← hsection, hnot 1, hnot 2]

/-- The sections of blocks hold what the groups of events in them make. -/
theorem content_sectionsFrom (n : Nat) (groups : List (List Event)) :
    List.Forall₂ (fun inner part => part.content = inner.map Block.ofGroup)
      (groupsOfSections groups) (sectionsFrom n (groups.map Block.ofGroup)) := by
  induction groups generalizing n with
  | nil => exact .nil
  | cons group rest ih =>
      rw [groupsOfSections, List.map_cons]
      split
      next hopens =>
        obtain ⟨text, hblock⟩ := (ofGroup_eq_heading_iff (Nat.le_refl 2)).mpr
          (of_decide_eq_true hopens)
        rw [hblock, sectionsFrom_section]
        have hbody : Block.isBody ∘ Block.ofGroup = isBodyGroup := funext isBody_ofGroup
        rw [List.takeWhile_map, hbody]
        exact .cons rfl (ih (n + 1))
      next hopens =>
        have hrest : sectionsFrom n (Block.ofGroup group :: rest.map Block.ofGroup) =
            sectionsFrom n (rest.map Block.ofGroup) := by
          rw [sectionsFrom]
          intro text hblock
          exact hopens (decide_eq_true ((ofGroup_eq_heading_iff (Nat.le_refl 2)).mp ⟨text, hblock⟩))
        rw [hrest]
        exact ih n

theorem mem_groupsOfSections {groups inner : List (List Event)}
    (hinner : inner ∈ groupsOfSections groups) :
    ∀ group ∈ inner, group ∈ groups ∧ isBodyGroup group = true := by
  induction groups with
  | nil => cases hinner
  | cons first rest ih =>
      have hlater (hrest : inner ∈ groupsOfSections rest) :
          ∀ group ∈ inner, group ∈ first :: rest ∧ isBodyGroup group = true := fun group hgroup =>
        (ih hrest group hgroup).imp_left (List.mem_cons_of_mem _)
      rw [groupsOfSections] at hinner
      split at hinner
      · rcases List.mem_cons.mp hinner with rfl | hrest
        · intro group hgroup
          exact ⟨List.mem_cons_of_mem _ ((List.takeWhile_prefix _).subset hgroup),
            List.mem_takeWhile_imp hgroup⟩
        · exact hlater hrest
      · exact hlater hinner

/-! ## What the groups of a document make -/

/-- A heading among the groups of a document has a level that there is. -/
theorem one_le_level_of_mem_groupEvents {markdown : String} {group : List Event} {level : Nat}
    (hgroup : group ∈ groupEvents (events markdown))
    (hopens : group.head? = some (.start (.heading level))) : 1 ≤ level := by
  rw [groupEvents_events] at hgroup
  obtain ⟨block, hblock, rfl⟩ := List.mem_map.mp hgroup
  have hlevelled := isLevelled_of_mem_readDocument hblock
  cases block <;> cases hopens
  exact hlevelled.1

/-- A group in a section makes no heading: those of the first two levels stand in no section, and
deeper ones are no headings to a quiz. -/
theorem headingLevel?_ofGroup {group : List Event} (hbody : isBodyGroup group = true)
    (hlevel : ∀ level, group.head? = some (.start (.heading level)) → 1 ≤ level) :
    (Block.ofGroup group).headingLevel? = none := by
  have hmakes := makesBlock_ofGroup group
  generalize Block.ofGroup group = block at hmakes
  cases hmakes with
  | @heading level hle hopens =>
      have hone := hlevel level hopens
      obtain rfl | rfl : level = 1 ∨ level = 2 := by omega
      · simp [isBodyGroup, hopens] at hbody
      · simp [isBodyGroup, hopens] at hbody
  | _ => rfl

/-- A group that is no heading is kept as its own HTML or not at all. -/
theorem supplement_ofGroup {group : List Event}
    (hheading : (Block.ofGroup group).headingLevel? = none) :
    (Block.ofGroup group).supplement = if keepsHtml group then renderHtml group else "" := by
  have hmakes := makesBlock_ofGroup group
  generalize Block.ofGroup group = block at hheading hmakes
  cases hmakes with
  | heading => cases hheading
  | quote hopens => simp [Block.supplement, keepsHtml, hopens]
  | list hopens => simp [Block.supplement, keepsHtml, hopens]
  | other _ hquote hlist => simp [Block.supplement, keepsHtml, hquote, hlist]

theorem join_supplement_ofGroups {groups : List (List Event)}
    (hheading : ∀ group ∈ groups, (Block.ofGroup group).headingLevel? = none) :
    String.join ((groups.map Block.ofGroup).map Block.supplement) = htmlOfGroups groups := by
  induction groups with
  | nil => rfl
  | cons group rest ih =>
      obtain ⟨hgroup, hrest⟩ := List.forall_mem_cons.mp hheading
      rw [htmlOfGroups] at ih ⊢
      rw [List.map_cons, List.map_cons, String.join_cons, ih hrest, supplement_ofGroup hgroup,
        List.filter_cons]
      split
      · rw [List.map_cons, String.join_cons]
      · rw [String.empty_append]

/-! ## Sections and questions -/

/-- The groups of events in each section of a document. -/
def groupsIn (markdown : String) : List (List (List Event)) :=
  groupsOfSections (groupEvents (events markdown))

theorem headingLevel?_of_mem_groupsIn {markdown : String} {groups : List (List Event)}
    (hgroups : groups ∈ groupsIn markdown) :
    ∀ group ∈ groups, (Block.ofGroup group).headingLevel? = none := by
  intro group hgroup
  obtain ⟨hmem, hbody⟩ := mem_groupsOfSections hgroups group hgroup
  exact headingLevel?_ofGroup hbody fun level => one_le_level_of_mem_groupEvents hmem

theorem headingLevel?_of_mem_content {markdown : String} {part : Section}
    (hpart : part ∈ sectionsOf markdown) : ∀ block ∈ part.content, block.headingLevel? = none := by
  intro block hblock
  rw [sectionsOf_eq] at hpart
  obtain ⟨hmem, hbody⟩ := mem_content_of_mem_sectionsFrom hpart hblock
  obtain ⟨group, hgroup, rfl⟩ := List.mem_map.mp hmem
  rw [isBody_ofGroup] at hbody
  exact headingLevel?_ofGroup hbody fun level => one_le_level_of_mem_groupEvents hgroup

/-- Each section is made of its groups, and its supplement of their HTML. -/
theorem content_sectionsOf (markdown : String) :
    List.Forall₂ (fun groups part => part.content = groups.map Block.ofGroup ∧
        (Draft.ofSection part).value.supplement = htmlOfGroups groups)
      (groupsIn markdown) (sectionsOf markdown) := by
  have hcontent := content_sectionsFrom 0 (groupEvents (events markdown))
  have hsections : sectionsFrom 0 ((groupEvents (events markdown)).map Block.ofGroup) =
      sectionsOf markdown := (sectionsOf_eq markdown).symm
  rw [hsections] at hcontent
  have hgroups := (List.forall₂_and_left _ _).mpr
    ⟨fun groups hgroups => headingLevel?_of_mem_groupsIn hgroups, hcontent⟩
  refine hgroups.imp ?_
  rintro groups part ⟨hheading, hpart⟩
  refine ⟨hpart, ?_⟩
  rw [Draft.value_ofSection, Draft.describedBy, hpart]
  exact join_supplement_ofGroups hheading

/-- Blocks are read in the same way if only headings would be read in another one, and there are
none. -/
theorem foldlM_read_of_headingLevel? {other : Draft → Block → Logged Draft}
    (hother : ∀ draft block, block.headingLevel? = none → other draft block = draft.read block)
    {content : List Block} (hcontent : ∀ block ∈ content, block.headingLevel? = none)
    (draft : Draft) : content.foldlM other draft = content.foldlM Draft.read draft := by
  induction content generalizing draft with
  | nil => rfl
  | cons block rest ih =>
      obtain ⟨hblock, hrest⟩ := List.forall_mem_cons.mp hcontent
      rw [List.foldlM_cons, List.foldlM_cons, hother draft block hblock]
      exact congrArg (draft.read block >>= ·) (funext (ih hrest))

/-- The questions of a markdown text are those of its sections, all of which are good. -/
theorem questions_of_examine {markdown title : String} {questions : List Question}
    (hexamine : (examine markdown).value = .ok (title, questions)) :
    questions = questionsIn markdown := by
  rw [value_examine] at hexamine
  by_cases hgood : ∀ part ∈ sectionsOf markdown, part.Good
  · rw [Source.value_questionsOf_of_good hgood] at hexamine
    exact (Prod.mk.inj (Except.ok.inj hexamine)).2.symm
  · obtain ⟨before, part, after, hsections, hbefore, hbad⟩ := exists_first_bad
      (show ∃ part ∈ sectionsOf markdown, ¬ part.Good by simpa using hgood)
    obtain ⟨flaw, hflaw⟩ := Source.value_questionsOf_of_bad after hbefore hbad
    rw [hsections, hflaw] at hexamine
    cases hexamine

/-- No section of a document holds a heading, so it makes no difference how a draft would read one.
What a section adds to the supplement is the HTML of the blocks in it, in order, but for its quotes
and unordered lists; the question that is made of it has this supplement, or none if it is empty. -/
theorem supplements_of_sections (markdown : String) :
    (∀ part ∈ sectionsOf markdown, ∀ block ∈ part.content, block.headingLevel? = none) ∧
      (∀ other : Draft → Block → Logged Draft,
        (∀ draft block, block.headingLevel? = none → other draft block = draft.read block) →
        ∀ part ∈ sectionsOf markdown,
          part.content.foldlM other (.start part.heading part.position) = Draft.ofSection part) ∧
      List.Forall₂ (fun groups part => part.content = groups.map Block.ofGroup ∧
          (Draft.ofSection part).value.supplement = htmlOfGroups groups)
        (groupsIn markdown) (sectionsOf markdown) ∧
      ∀ title questions, (examine markdown).value = .ok (title, questions) →
        List.Forall₂ (fun groups question => question.supplement =
            if htmlOfGroups groups = "" then none else some (htmlOfGroups groups))
          (groupsIn markdown) questions := by
  refine ⟨fun part => headingLevel?_of_mem_content, ?_, content_sectionsOf markdown, ?_⟩
  · intro other hother part hpart
    exact foldlM_read_of_headingLevel? hother (headingLevel?_of_mem_content hpart) _
  · intro title questions hexamine
    rw [questions_of_examine hexamine, questionsIn, List.forall₂_map_right_iff]
    refine (content_sectionsOf markdown).imp ?_
    rintro groups part ⟨-, hsupplement⟩
    rw [Draft.value_ofSection] at hsupplement
    rw [Draft.question, hsupplement]
    simp only [String.isEmpty_iff]

/-- A section with a level 3 heading, a rule and an ordered list among its blocks. -/
def deepHeadingText : String :=
  "## Q\n### 1 < 2\n> d\n\n---\n- [x] a\n- [ ] b\n\n1. c\n"

def deepHeadingHtml : String :=
  "<h3>1 &lt; 2</h3>\n<hr />\n<ol>\n<li>c</li>\n</ol>\n"

/-- Read a block, but forget all at a heading. -/
def readForgetting (draft : Draft) : Block → Logged Draft
  | .heading _ _ => return .blank
  | block => draft.read block

/-- A deep heading is kept as it is rendered, and a reading that forgets headings makes no
difference. -/
theorem supplements_of_deepHeadingText :
    (examine deepHeadingText).value =
        .ok ("", [⟨"Q", "d", ["a", "b"], ["a"], some deepHeadingHtml⟩]) ∧
      (groupsIn deepHeadingText).map htmlOfGroups = [deepHeadingHtml] ∧
      ∀ part ∈ sectionsOf deepHeadingText,
        part.content.foldlM readForgetting (.start part.heading part.position) =
          Draft.ofSection part := by
  have hexamine : (examine deepHeadingText).value =
      .ok ("", [⟨"Q", "d", ["a", "b"], ["a"], some deepHeadingHtml⟩]) := by decide +kernel
  obtain ⟨-, hother, -, hquestions⟩ := supplements_of_sections deepHeadingText
  refine ⟨hexamine, ?_, hother readForgetting ?_⟩
  · have hsupplements := hquestions _ _ hexamine
    generalize groupsIn deepHeadingText = inner at hsupplements ⊢
    obtain ⟨groups, rest, hsupplement, hrest, rfl⟩ := List.forall₂_cons_right_iff.mp hsupplements
    rw [List.forall₂_nil_right_iff.mp hrest]
    obtain ⟨-, hhtml⟩ := Option.ite_none_left_eq_some.mp hsupplement.symm
    rw [List.map_singleton, Option.some.inj hhtml]
  · intro draft block hblock
    cases block with
    | heading level text => cases hblock
    | _ => rfl

end QuizCompiler.Quiz
