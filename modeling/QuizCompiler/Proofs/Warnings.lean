import QuizCompiler.Proofs.Compilation
import QuizCompiler.Proofs.Partition

/-! # Warnings of lost content

A compilation warns of all that it drops or replaces, in order, and of nothing else. A
document that was compiled without a warning therefore shows every block of its source.
-/

namespace QuizCompiler.Quiz

open QuizCompiler.Random QuizCompiler.Text

namespace Notice

def isWarning (notice : Notice) : Bool := notice.level = .warn

/-- What a warning tells of the content that is lost. -/
def details : Notice → List String
  | extraTitle text => [text]
  | droppedBlocks count => [toString count]
  | descriptionReplaced position title => [toString position, title]
  | choicesReplaced position title => [toString position, title]
  | _ => []

end Notice

/-! ## What is to be warned of -/

def Section.displayTitle (part : Section) : String :=
  if trim part.heading = "" then untitled else trim part.heading

/-- The warning for a quote or a list below another one of its section. -/
def replacementAt? (part : Section) (place : Nat) : Option Notice :=
  match part.content[place]? with
  | some (.quote _) =>
      if (part.content.take place).any (fun block => block.quote?.isSome) then
        some (.descriptionReplaced part.position part.displayTitle)
      else none
  | some (.list _) =>
      if (part.content.take place).any (fun block => block.list?.isSome) then
        some (.choicesReplaced part.position part.displayTitle)
      else none
  | _ => none

/-- The warnings for the quotes and lists of a section after the first of each, in order. -/
def replacements (part : Section) : List Notice :=
  (List.range part.content.length).filterMap (replacementAt? part)

instance (part : Section) : Decidable part.Good :=
  decidable_of_iff _ (Section.good_iff_passes.trans Draft.passes_iff).symm

/-- The sections up to the first bad one, which is included. -/
def sectionsRead (parts : List Section) : List Section :=
  (parts.takeWhile fun part => decide part.Good) ++
    (parts.dropWhile fun part => decide part.Good).take 1

/-- The blocks of a markdown text that stand in no section. -/
def droppedOf (markdown : String) : List Block := (Source.ofMarkdown markdown).value.dropped

/-- The warnings for a markdown text. -/
def warningsFor (markdown : String) : List Notice :=
  (titlesOf (Block.ofMarkdown markdown)).tail.map .extraTitle ++
    (if (droppedOf markdown).length = 0 then []
      else [.droppedBlocks (droppedOf markdown).length]) ++
    (sectionsRead (sectionsOf markdown)).flatMap replacements ++
    if (sectionsOf markdown).length = 0 then [.noSections] else []

theorem occursIn_question {position : Nat} {title rest message : String}
    (hmessage : message = "Question " ++ toString position ++ " '" ++ title ++ rest) :
    ∀ detail ∈ [toString position, title], OccursIn detail message := by
  subst hmessage
  intro detail hdetail
  rcases List.mem_cons.mp hdetail with rfl | hdetail
  · exact ⟨"Question ", " '" ++ title ++ rest, by simp only [String.append_assoc]⟩
  · obtain rfl := List.mem_singleton.mp hdetail
    exact ⟨"Question " ++ toString position ++ " '", rest, rfl⟩

/-- Every detail of a notice is in its message. -/
theorem Notice.details_occurIn (notice : Notice) :
    ∀ detail ∈ notice.details, OccursIn detail notice.message := by
  cases notice with
  | extraTitle text =>
      intro detail hdetail
      obtain rfl := List.mem_singleton.mp hdetail
      exact ⟨"Ignoring extra level 1 heading '", "'", rfl⟩
  | droppedBlocks count =>
      intro detail hdetail
      obtain rfl := List.mem_singleton.mp hdetail
      exact ⟨"Dropped ", " block(s) outside of any question section", rfl⟩
  | descriptionReplaced position title => exact occursIn_question rfl
  | choicesReplaced position title => exact occursIn_question rfl
  | _ => simp [details]

/-! ## Titles and dropped blocks -/

/-- Cutting blocks warns of each title but the first. -/
theorem Sectioning.log_foldl_push (s : Sectioning) (blocks : List Block) :
    (blocks.foldl push s).log.reverse =
      s.log.reverse ++
        (if s.title.isSome then titlesOf blocks else (titlesOf blocks).tail).map .extraTitle := by
  induction blocks generalizing s with
  | nil => cases s.title <;> simp [titlesOf]
  | cons block rest ih =>
      rw [List.foldl_cons, ih]
      rcases block.title_or_section_or_body with ⟨text, rfl⟩ | ⟨text, rfl⟩ | hbody
      · rw [push_title]
        cases s.title <;> simp [titlesOf, Block.title?]
      · rw [push_section]
        simp [titlesOf, Block.title?]
      · rw [push_of_isBody s hbody]
        have htitles : titlesOf (block :: rest) = titlesOf rest := by
          simp [titlesOf, Block.title?_of_isBody hbody]
        rw [htitles]
        cases s.current <;> rfl

/-- A document is warned of for its further titles, and once for all dropped blocks. -/
theorem Source.log_ofBlocks (blocks : List Block) :
    (Source.ofBlocks blocks).log =
      (titlesOf blocks).tail.map .extraTitle ++
        if (Source.ofBlocks blocks).value.dropped.length = 0 then []
        else [.droppedBlocks (Source.ofBlocks blocks).value.dropped.length] := by
  have hlog := Sectioning.log_foldl_push .empty blocks
  simp only [ofBlocks, Sectioning.finish, hlog, List.isEmpty_iff_length_eq_zero]
  rfl

/-! ## Quotes and lists -/

/-- One more block in a section brings at most one more warning. -/
theorem replacements_append (heading : String) (position : Nat) (content : List Block)
    (block : Block) :
    replacements ⟨heading, position, content ++ [block]⟩ =
      replacements ⟨heading, position, content⟩ ++
        (replacementAt? ⟨heading, position, content ++ [block]⟩ content.length).toList := by
  have habove : ∀ place ∈ List.range content.length,
      replacementAt? ⟨heading, position, content ++ [block]⟩ place =
        replacementAt? ⟨heading, position, content⟩ place := by
    intro place hplace
    have hlt := List.mem_range.mp hplace
    simp only [replacementAt?, List.getElem?_append_left hlt,
      List.take_append_of_le_length (Nat.le_of_lt hlt)]
    rfl
  rw [replacements, replacements, List.length_append, List.length_singleton, List.range_succ,
    List.filterMap_append, List.filterMap_congr habove]
  rfl

/-- The block that is read last is warned of if a block of its kind stands above it. -/
theorem replacementAt?_length (heading : String) (position : Nat) (content : List Block)
    (block : Block) :
    replacementAt? ⟨heading, position, content ++ [block]⟩ content.length =
      match block with
      | .quote _ =>
          if content.any (fun block => block.quote?.isSome) then
            some (.descriptionReplaced position (Section.displayTitle ⟨heading, position, content⟩))
          else none
      | .list _ =>
          if content.any (fun block => block.list?.isSome) then
            some (.choicesReplaced position (Section.displayTitle ⟨heading, position, content⟩))
          else none
      | _ => none := by
  have hplace : (content ++ [block])[content.length]? = some block := by simp
  unfold replacementAt?
  simp only [hplace, List.take_left]
  cases block <;> rfl

namespace Draft

/-- The notices of a block come behind those of the blocks before it. -/
theorem log_foldlM_read_append (draft : Draft) (content : List Block) (block : Block) :
    ((content ++ [block]).foldlM read draft).log =
      (content.foldlM read draft).log ++ ((content.foldlM read draft).value.read block).log := by
  induction content generalizing draft with
  | nil => exact (List.append_nil _).trans (List.nil_append _).symm
  | cons first rest ih =>
      rw [List.cons_append, List.foldlM_cons, List.foldlM_cons, Logged.bind_eq, Logged.bind_eq, ih]
      exact (List.append_assoc _ _ _).symm

theorem displayTitle_describedBy (part : Section) :
    (describedBy part).displayTitle = part.displayTitle := by
  simp only [displayTitle, Section.displayTitle, describedBy, String.isEmpty_iff]

theorem isSome_getLast?_filterMap {β : Type} (read? : Block → Option β) (content : List Block) :
    (content.filterMap read?).getLast?.isSome = content.any fun block => (read? block).isSome := by
  rw [Bool.eq_iff_iff, List.getLast?_isSome, Ne, List.filterMap_eq_nil_iff]
  simp [Option.isSome_iff_ne_none]

/-- Reading a block warns of a replacement just where one of its kind was read before. -/
theorem log_read_describedBy (heading : String) (position : Nat) (content : List Block)
    (block : Block) :
    ((describedBy ⟨heading, position, content⟩).read block).log =
      (replacementAt? ⟨heading, position, content ++ [block]⟩ content.length).toList := by
  have htitle := displayTitle_describedBy ⟨heading, position, content⟩
  rw [replacementAt?_length]
  cases block with
  | heading level text => rfl
  | other html => rfl
  | quote text =>
      have hdescribed : (describedBy ⟨heading, position, content⟩).described =
          content.any fun block => block.quote?.isSome := isSome_getLast?_filterMap _ content
      simp only [read, setDescription, Logged.noteIf, Logged.bind_eq, htitle, hdescribed]
      split <;> rfl
  | list choices =>
      have hoffered : (describedBy ⟨heading, position, content⟩).offered =
          content.any fun block => block.list?.isSome := isSome_getLast?_filterMap _ content
      simp only [read, setChoices, Logged.noteIf, Logged.bind_eq, htitle, hoffered]
      split <;> rfl

/-- A section is warned of for its replacements, and for nothing else. -/
theorem log_ofSection (part : Section) : (ofSection part).log = replacements part := by
  obtain ⟨heading, position, content⟩ := part
  induction content using List.reverseRecOn with
  | nil => rfl
  | append_singleton content block ih =>
      have hvalue := value_ofSection ⟨heading, position, content⟩
      rw [ofSection] at ih hvalue ⊢
      rw [log_foldlM_read_append, ih, hvalue, log_read_describedBy, replacements_append]

end Draft

/-! ## Sections -/

theorem sectionsRead_cons_of_good {part : Section} (rest : List Section) (hgood : part.Good) :
    sectionsRead (part :: rest) = part :: sectionsRead rest := by
  simp [sectionsRead, hgood]

/-- Nothing is read behind a bad section. -/
theorem sectionsRead_cons_of_bad {part : Section} (rest : List Section) (hbad : ¬ part.Good) :
    sectionsRead (part :: rest) = [part] := by
  simp [sectionsRead, hbad]

theorem sectionsRead_of_good {parts : List Section} (hgood : ∀ part ∈ parts, part.Good) :
    sectionsRead parts = parts := by
  induction parts with
  | nil => rfl
  | cons part rest ih =>
      obtain ⟨hpart, hrest⟩ := List.forall_mem_cons.mp hgood
      rw [sectionsRead_cons_of_good rest hpart, ih hrest]

/-- No section is read after one that fails. -/
theorem Source.log_questionsOf (parts : List Section) :
    (Source.questionsOf parts).log = (sectionsRead parts).flatMap replacements := by
  induction parts with
  | nil => rfl
  | cons part rest ih =>
      rw [questionsOf, Logged.bind_eq, Draft.log_ofSection, Draft.value_ofSection]
      by_cases hgood : part.Good
      · rw [sectionsRead_cons_of_good rest hgood, List.flatMap_cons, ← ih,
          Draft.validate_of_passes (Section.good_iff_passes.mp hgood)]
        simp
      · rw [Section.good_iff_passes] at hgood
        obtain ⟨flaw, hflaw⟩ := Draft.validate_of_not_passes hgood
        rw [hflaw, sectionsRead_cons_of_bad rest (by rwa [Section.good_iff_passes])]
        simp

/-- All notices about a document, in order. -/
theorem log_examine (markdown : String) :
    (examine markdown).log =
      (Source.ofMarkdown markdown).log ++
        .sectionsFound (sectionsOf markdown).length (Source.ofMarkdown markdown).value.title ::
          ((sectionsRead (sectionsOf markdown)).flatMap replacements ++
            if (sectionsOf markdown).length = 0 then [.noSections] else []) := by
  have hread : (Source.ofMarkdown markdown).value.sections = sectionsOf markdown := rfl
  rw [← Source.log_questionsOf]
  simp only [examine, Logged.bind_eq, Logged.note, Source.questions, hread]
  by_cases hgood : ∀ part ∈ sectionsOf markdown, part.Good
  · rw [Source.value_questionsOf_of_good hgood]
    simp [Logged.noteIf]
  · obtain ⟨before, part, after, hsections, hbefore, hpart⟩ :=
      exists_first_bad (by simpa using hgood)
    obtain ⟨flaw, hflaw⟩ := Source.value_questionsOf_of_bad after hbefore hpart
    rw [← hsections] at hflaw
    have hlength : (sectionsOf markdown).length ≠ 0 := by simp [hsections]
    simp [hflaw, hlength]

theorem isWarning_of_mem_replacements {part : Section} {notice : Notice}
    (hnotice : notice ∈ replacements part) : notice.isWarning = true := by
  obtain ⟨place, -, hplace⟩ := List.mem_filterMap.mp hnotice
  unfold replacementAt? at hplace
  split at hplace
  next =>
    obtain ⟨-, rfl⟩ := by simpa using hplace
    rfl
  next =>
    obtain ⟨-, rfl⟩ := by simpa using hplace
    rfl
  next => cases hplace

theorem isWarning_of_mem_warningsFor {markdown : String} {notice : Notice}
    (hnotice : notice ∈ warningsFor markdown) : notice.isWarning = true := by
  simp only [warningsFor, List.mem_append, List.mem_map, List.mem_flatMap] at hnotice
  rcases hnotice with ((⟨text, -, rfl⟩ | hdropped) | ⟨part, -, hpart⟩) | hnone
  · rfl
  · obtain ⟨-, rfl⟩ := by simpa using hdropped
    rfl
  · exact isWarning_of_mem_replacements hpart
  · obtain ⟨-, rfl⟩ := by simpa using hnone
    rfl

/-- The warnings about a document are those in the list, in this order. -/
theorem filter_log_examine (markdown : String) :
    (examine markdown).log.filter Notice.isWarning = warningsFor markdown := by
  have hsource : (Source.ofMarkdown markdown).log =
      (titlesOf (Block.ofMarkdown markdown)).tail.map .extraTitle ++
        if (droppedOf markdown).length = 0 then []
        else [.droppedBlocks (droppedOf markdown).length] := Source.log_ofBlocks _
  have hfound : (Notice.sectionsFound (sectionsOf markdown).length
      (Source.ofMarkdown markdown).value.title).isWarning = false := rfl
  -- one notice stands among the warnings that is none
  rw [log_examine, hsource, List.filter_append, List.filter_cons_of_neg (by simp [hfound]),
    ← List.filter_append, ← List.append_assoc]
  exact List.filter_eq_self.mpr fun _ => isWarning_of_mem_warningsFor

/-- The drawing of a document only adds how many pages it has. -/
theorem log_compile {words : Words} {patience start stop : Nat} {markdown : String}
    {config : Config} {result : Logged (Except QuestionError Document)}
    (hrun : compile words patience markdown config start = some (result, stop)) :
    ∃ more, result.log = (examine markdown).log ++ more ∧
      more.filter Notice.isWarning = [] := by
  by_cases hgood : ∀ part ∈ sectionsOf markdown, part.Good
  · obtain ⟨document, -, rfl⟩ := (compile_of_good hgood).mp hrun
    exact ⟨[.pagesAssembled document.pages.length], rfl, rfl⟩
  · obtain ⟨before, part, after, hsections, hbefore, hpart⟩ :=
      exists_first_bad (by simpa using hgood)
    obtain ⟨flaw, hbad⟩ := compile_of_bad hsections hbefore hpart
    rw [hbad] at hrun
    obtain ⟨rfl, -⟩ := by simpa using hrun
    exact ⟨[], (List.append_nil _).symm, rfl⟩

/-! ## Documents without a warning -/

/-- The markup that a page shows beside its prompt. -/
def Element.html? : Element → Option String
  | markup element => some element.html
  | prompt _ => none

def Page.html (page : Page) : String := String.join (page.elements.filterMap Element.html?)

/-- A page represents a block of a section if it shows what the block says: the heading as the
title of its prompt, a quote as the description, a list as choices and answers, and any other
block as markup. -/
def Page.Represents (page : Page) : Block → Prop
  | .heading 2 text => ∃ prompt, .prompt prompt ∈ page.elements ∧ prompt.title = trim text
  | .quote text => ∃ prompt, .prompt prompt ∈ page.elements ∧ prompt.description = trim text
  | .list choices =>
      ∃ prompt, .prompt prompt ∈ page.elements ∧ prompt.choices = labels choices ∧
        prompt.correctAnswers = checkedLabels choices
  | block => OccursIn block.supplement page.html

/-- A document represents the title of a source, and every block that one of its pages does. -/
def Document.Represents (document : Document) : Block → Prop
  | .heading 1 text => document.title = text
  | block => ∃ page ∈ document.pages, page.Represents block

theorem filterMap_of_any_eq_false {β : Type} {read? : Block → Option β} {content : List Block}
    (hnone : (content.any fun block => (read? block).isSome) = false) :
    content.filterMap read? = [] := by
  simpa [List.filterMap_eq_nil_iff] using hnone

/-- Without a replacement there is one quote and one list at most. -/
theorem length_le_one_of_replacements {part : Section} (hquiet : replacements part = []) :
    (part.content.filterMap Block.quote?).length ≤ 1 ∧
      (part.content.filterMap Block.list?).length ≤ 1 := by
  obtain ⟨heading, position, content⟩ := part
  -- the later block is the one that replaces, so blocks are taken from the end
  induction content using List.reverseRecOn with
  | nil => simp
  | append_singleton content block ih =>
      rw [replacements_append, List.append_eq_nil_iff, replacementAt?_length] at hquiet
      obtain ⟨habove, hlast⟩ := hquiet
      obtain ⟨hquotes, hlists⟩ := ih habove
      cases block with
      | quote text =>
          have hnone : content.filterMap Block.quote? = [] :=
            filterMap_of_any_eq_false (by simpa using hlast)
          simpa [List.filterMap_cons, Block.quote?, Block.list?, hnone] using hlists
      | list choices =>
          have hnone : content.filterMap Block.list? = [] :=
            filterMap_of_any_eq_false (by simpa using hlast)
          simpa [List.filterMap_cons, Block.quote?, Block.list?, hnone] using hquotes
      | heading level text => simpa [Block.quote?, Block.list?] using ⟨hquotes, hlists⟩
      | other html => simpa [Block.quote?, Block.list?] using ⟨hquotes, hlists⟩

theorem eq_singleton_of_length_le_one {α : Type} {items : List α} {item : α}
    (hitem : item ∈ items) (hlength : items.length ≤ 1) : items = [item] := by
  match items, hlength with
  | [], _ => cases hitem
  | [only], _ => simp_all

theorem Page.Shows.html_eq {page : Page} {question : Question} (hshows : page.Shows question) :
    page.html = question.supplement.getD "" := by
  obtain ⟨markups, prompt, helements, hmarkups, -⟩ := hshows
  have hread : (markups.map Element.markup).filterMap Element.html? = markups.map Markup.html := by
    simp [List.filterMap_map, Function.comp_def, Element.html?]
  rw [Page.html, helements, List.filterMap_append, hread, hmarkups]
  cases question.supplement <;> rfl

theorem occursIn_join {content : List Block} {block : Block} (hblock : block ∈ content) :
    OccursIn block.supplement (String.join (content.map Block.supplement)) := by
  obtain ⟨before, after, rfl⟩ := List.append_of_mem hblock
  refine ⟨String.join (before.map Block.supplement), String.join (after.map Block.supplement), ?_⟩
  simp [String.join_append, String.append_assoc]

/-- A deep heading is represented where its own HTML is. -/
theorem Page.represents_heading {page : Page} {level : Nat} {text : String}
    (hbody : (Block.heading level text).isBody = true)
    (hshown : OccursIn (Block.heading level text).supplement page.html) :
    page.Represents (.heading level text) := by
  unfold Page.Represents
  split
  next hblock =>
    obtain ⟨rfl, -⟩ := Block.heading.inj hblock
    cases hbody
  next hblock => cases hblock
  next hblock => cases hblock
  next => exact hshown

/-- A page shows all that its section says if nothing in it was replaced. -/
theorem Page.Shows.represents {page : Page} {part : Section}
    (hshows : page.Shows (Draft.describedBy part).question) (hquiet : replacements part = [])
    (hbody : ∀ block ∈ part.content, block.isBody = true) :
    ∀ block ∈ part.blocks, page.Represents block := by
  -- nothing was replaced, so the last quote and the last list are the only ones
  obtain ⟨hquotes, hlists⟩ := length_le_one_of_replacements hquiet
  have hhtml : page.html = String.join (part.content.map Block.supplement) := by
    rw [hshows.html_eq]
    simp only [Draft.question, Draft.describedBy]
    by_cases hempty : String.join (part.content.map Block.supplement) = ""
    · simp [hempty]
    · simp [hempty, String.isEmpty_iff]
  obtain ⟨markups, prompt, helements, -, htitle, hdescription, hchoices, hanswers, -⟩ := hshows
  have hprompt : Element.prompt prompt ∈ page.elements := by simp [helements]
  intro block hblock
  rcases List.mem_cons.mp hblock with rfl | hblock
  · exact ⟨prompt, hprompt, htitle⟩
  · have hisBody := hbody block hblock
    have hsupplement : OccursIn block.supplement page.html := hhtml ▸ occursIn_join hblock
    cases block with
    | heading level text => exact Page.represents_heading hisBody hsupplement
    | quote text =>
        have honly : part.content.filterMap Block.quote? = [text] :=
          eq_singleton_of_length_le_one (List.mem_filterMap.mpr ⟨_, hblock, rfl⟩) hquotes
        refine ⟨prompt, hprompt, hdescription.trans ?_⟩
        simp [Draft.question, Draft.describedBy, Section.lastQuote?, honly]
    | list choices =>
        have honly : part.content.filterMap Block.list? = [choices] :=
          eq_singleton_of_length_le_one (List.mem_filterMap.mpr ⟨_, hblock, rfl⟩) hlists
        refine ⟨prompt, hprompt, hchoices.trans ?_, hanswers.trans ?_⟩
        · simp [Draft.question, Draft.describedBy, Section.lastList?, honly]
        · simp [Draft.question, Draft.describedBy, Section.lastList?, honly]
    | other html => exact hsupplement

theorem Document.represents_of_page {document : Document} {page : Page} {block : Block}
    (hpage : page ∈ document.pages) (hblock : page.Represents block)
    (htitle : block.title? = none) : document.Represents block := by
  unfold Document.Represents
  split
  next => cases htitle
  next => exact ⟨page, hpage, hblock⟩

theorem droppedOf_eq (markdown : String) :
    droppedOf markdown = droppedFrom false (Block.ofMarkdown markdown) := by
  rw [droppedOf, Source.ofMarkdown, Source.value_ofBlocks]

/-- Where nothing is dropped, every block is a title or belongs to a section. -/
theorem mem_titlesOf_or_mem_blocks {markdown : String} {block : Block}
    (hdropped : droppedOf markdown = []) (hblock : block ∈ Block.ofMarkdown markdown) :
    (∃ text ∈ titlesOf (Block.ofMarkdown markdown), block = .heading 1 text) ∨
      ∃ part ∈ sectionsOf markdown, block ∈ part.blocks := by
  have hplaced := (perm_blocks 0 false (Block.ofMarkdown markdown)).mem_iff.mp hblock
  rw [← sectionsOf_eq, ← droppedOf_eq, hdropped] at hplaced
  simpa [eq_comm] using hplaced

theorem isBody_of_mem_sectionsOf {markdown : String} {part : Section}
    (hpart : part ∈ sectionsOf markdown) : ∀ block ∈ part.content, block.isBody = true := by
  intro block hblock
  rw [sectionsOf_eq] at hpart
  exact (mem_content_of_mem_sectionsFrom hpart hblock).2

theorem title?_of_mem_blocks {markdown : String} {part : Section} {block : Block}
    (hpart : part ∈ sectionsOf markdown) (hblock : block ∈ part.blocks) :
    block.title? = none := by
  rcases List.mem_cons.mp hblock with rfl | hblock
  · rfl
  · exact Block.title?_of_isBody (isBody_of_mem_sectionsOf hpart block hblock)

section Runs

variable {words : Words} {patience start stop : Nat} {markdown : String} {config : Config}
  {document : Document} {log : List Notice}

/-- A section without replacements has a page that represents all of its blocks. -/
theorem exists_page_represents
    (hrun : compile words patience markdown config start = some (⟨.ok document, log⟩, stop))
    {part : Section} (hpart : part ∈ sectionsOf markdown) (hquiet : replacements part = []) :
    ∃ page ∈ document.pages, ∀ block ∈ part.blocks, page.Represents block := by
  obtain ⟨-, -, -, swaps, hshows⟩ := compile_eq_ok hrun
  obtain ⟨-, order, hpages⟩ := Document.showsOnce_of_reordered hshows
  have hquestion : (Draft.describedBy part).question ∈ questionsIn markdown :=
    List.mem_map_of_mem hpart
  obtain ⟨place, hplace⟩ := List.mem_iff_get.mp hquestion
  obtain ⟨page, hpage, hpageShows⟩ := hpages (order.symm place)
  rw [Equiv.apply_symm_apply, hplace] at hpageShows
  exact ⟨page, List.mem_of_getElem? hpage,
    hpageShows.represents hquiet (isBody_of_mem_sectionsOf hpart)⟩

end Runs

/-- Without a warning there are sections, at most one title, and nothing dropped or replaced. -/
theorem of_warningsFor_eq_nil {markdown : String} (hquiet : warningsFor markdown = [])
    (hgood : ∀ part ∈ sectionsOf markdown, part.Good) :
    sectionsOf markdown ≠ [] ∧ (titlesOf (Block.ofMarkdown markdown)).length ≤ 1 ∧
      droppedOf markdown = [] ∧ ∀ part ∈ sectionsOf markdown, replacements part = [] := by
  rw [warningsFor, sectionsRead_of_good hgood] at hquiet
  simp only [List.append_eq_nil_iff, List.map_eq_nil_iff, List.flatMap_eq_nil_iff] at hquiet
  obtain ⟨⟨⟨htitles, hdropped⟩, hreplaced⟩, hsections⟩ := hquiet
  have hlength := congrArg List.length htitles
  rw [List.length_tail, List.length_nil] at hlength
  exact ⟨by simpa using hsections, by omega, by simpa using hdropped, hreplaced⟩

/-- A compilation warns of each level 1 heading after the first, of the blocks in no section, of
each quote and list that takes the place of an earlier one in the sections that are read, and
of a source without sections; it warns of nothing else. So a document that comes without a
warning represents every block of its source. -/
theorem compile_warns_of_lost_content (markdown : String) :
    (examine markdown).log.filter Notice.isWarning = warningsFor markdown ∧
    (∀ notice ∈ warningsFor markdown, ∀ detail ∈ notice.details,
      OccursIn detail notice.message) ∧
    ∀ (words : Words) (patience start stop : Nat) (config : Config)
      (result : Logged (Except QuestionError Document)),
      compile words patience markdown config start = some (result, stop) →
      result.log.filter Notice.isWarning = warningsFor markdown ∧
      ∀ document, result.value = .ok document → result.log.filter Notice.isWarning = [] →
        sectionsOf markdown ≠ [] ∧ (titlesOf (Block.ofMarkdown markdown)).length ≤ 1 ∧
        droppedOf markdown = [] ∧
        (∀ part ∈ sectionsOf markdown, (part.content.filterMap Block.quote?).length ≤ 1 ∧
          (part.content.filterMap Block.list?).length ≤ 1) ∧
        ∀ block ∈ Block.ofMarkdown markdown, document.Represents block := by
  refine ⟨filter_log_examine markdown, fun notice _ => notice.details_occurIn, ?_⟩
  intro words patience start stop config result hrun
  have hlog : result.log.filter Notice.isWarning = warningsFor markdown := by
    obtain ⟨more, hmore, hnone⟩ := log_compile hrun
    rw [hmore, List.filter_append, filter_log_examine, hnone, List.append_nil]
  refine ⟨hlog, ?_⟩
  intro document hdocument hquiet
  obtain ⟨value, log⟩ := result
  obtain rfl : value = .ok document := hdocument
  obtain ⟨hgood, htitle, -⟩ := compile_eq_ok hrun
  rw [hlog] at hquiet
  obtain ⟨hsections, htitles, hdropped, hreplaced⟩ := of_warningsFor_eq_nil hquiet hgood
  refine ⟨hsections, htitles, hdropped,
    fun part hpart => length_le_one_of_replacements (hreplaced part hpart), ?_⟩
  intro block hblock
  rcases mem_titlesOf_or_mem_blocks hdropped hblock with ⟨text, htext, rfl⟩ | ⟨part, hpart, hmem⟩
  · -- the only level 1 heading is the first one
    have honly := eq_singleton_of_length_le_one htext htitles
    rw [← List.head?_filterMap, ← titlesOf, honly] at htitle
    exact htitle
  · obtain ⟨page, hpage, hrepresents⟩ := exists_page_represents hrun hpart (hreplaced part hpart)
    exact Document.represents_of_page hpage (hrepresents block hmem)
      (title?_of_mem_blocks hpart hmem)

/-- A text with all that is warned of. The second section is bad, so the third is not read. -/
def lossyText : String :=
  "lost\n\n# A\n\n# B\n\n## Q\n> a\n\n- [x] 1\n\n> b\n\n" ++
    "## R\n- [x] 1\n\nmore\n\n- [x] 2\n\n## S\n> c\n\nmore\n\n> d\n"

/-- A text that loses content in four ways has four warnings, and one that loses none has none. -/
theorem compile_warns_of_lossyText :
    (∃ result,
      compile risingWords 1 lossyText Config.default 0 = some (result, 0) ∧
      result.log.filter Notice.isWarning = [.extraTitle "B", .droppedBlocks 1,
        .descriptionReplaced 1 "Q", .choicesReplaced 2 "R"]) ∧
    ∃ document log stop,
      compile risingWords 1 twoQuestionsText Config.default 0 =
        some (⟨.ok document, log⟩, stop) ∧
      log.filter Notice.isWarning = [] ∧
      document.Represents (.other "<p>more</p>\n") := by
  have hlossy : warningsFor lossyText = [.extraTitle "B", .droppedBlocks 1,
      .descriptionReplaced 1 "Q", .choicesReplaced 2 "R"] := by decide +kernel
  have hquiet : warningsFor twoQuestionsText = [] := by decide +kernel
  have hblock : Block.other "<p>more</p>\n" ∈ Block.ofMarkdown twoQuestionsText := by
    decide +kernel
  refine ⟨?_, ?_⟩
  · have hrun : ((compile risingWords 1 lossyText Config.default 0).map Prod.snd) = some 0 := by
      decide +kernel
    obtain ⟨⟨result, stop⟩, hrun, rfl⟩ := Option.map_eq_some_iff.mp hrun
    obtain ⟨hlog, -⟩ := (compile_warns_of_lost_content lossyText).2.2 risingWords 1 0 _
      Config.default result hrun
    exact ⟨result, hrun, hlog.trans hlossy⟩
  · have hrun : ((compile risingWords 1 twoQuestionsText Config.default 0).map fun run =>
        run.1.value.toOption.isSome) = some true := by
      decide +kernel
    obtain ⟨⟨⟨value, log⟩, stop⟩, hrun, hvalue⟩ := Option.map_eq_some_iff.mp hrun
    cases value with
    | error error => cases hvalue
    | ok document =>
        obtain ⟨hlog, hdocument⟩ := (compile_warns_of_lost_content twoQuestionsText).2.2
          risingWords 1 0 stop Config.default ⟨.ok document, log⟩ hrun
        obtain ⟨-, -, -, -, hrepresents⟩ := hdocument document rfl (hlog.trans hquiet)
        exact ⟨document, log, stop, hrun, hlog.trans hquiet, hrepresents _ hblock⟩

end QuizCompiler.Quiz
