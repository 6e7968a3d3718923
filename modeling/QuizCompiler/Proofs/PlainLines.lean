import QuizCompiler.Proofs.PlainText

/-! # Lines of plain text

How markdown reads lines that hold plain text: headings, quotes of one line, and items
with a task marker. Such a line is a block by itself, whatever stands around it, as long as
a blank line comes before a heading and a blank line or an item after a quote or an item.
-/

namespace QuizCompiler.Markdown

open QuizCompiler.Text

/-! ## Cutting into lines -/

namespace Line

theorem splitFrom_append {line : List Char} (hfeed : '\n' ∉ line) (hreturn : '\r' ∉ line)
    (cur rest : List Char) :
    splitFrom cur (line ++ '\n' :: rest) = ⟨cur.reverse ++ line, true⟩ :: splitFrom [] rest := by
  induction line generalizing cur with
  | nil => simp [splitFrom]
  | cons c line ih =>
      obtain ⟨hc, hfeed⟩ := not_or.mp (mt List.mem_cons.mpr hfeed)
      obtain ⟨hc', hreturn⟩ := not_or.mp (mt List.mem_cons.mpr hreturn)
      rw [List.cons_append, splitFrom]
      · simp [Ne.symm hc, Ne.symm hc', ih hfeed hreturn]
      · rintro _ rfl
        exact absurd rfl hc'

/-- Lines that are each ended by a line feed are found again. -/
theorem split_flatMap {lines : List (List Char)}
    (hlines : ∀ line ∈ lines, '\n' ∉ line ∧ '\r' ∉ line) :
    split (lines.flatMap (· ++ ['\n'])) = lines.map (⟨·, true⟩) := by
  induction lines with
  | nil => rfl
  | cons line rest ih =>
      obtain ⟨hfeed, hreturn⟩ := hlines line List.mem_cons_self
      have hrest := ih fun other hother => hlines other (List.mem_cons_of_mem _ hother)
      rw [split] at hrest ⊢
      rw [List.flatMap_cons, List.append_assoc, List.singleton_append,
        splitFrom_append hfeed hreturn, hrest]
      rfl

end Line

/-! ## A line that begins with a letter -/

section Letters

variable {c : Char} {more : List Char}

theorem takeWritten_of_isAlpha (hc : c.isAlpha = true) (n column : Nat) :
    Cursor.takeWritten n column (c :: more) = (n, ⟨column, 0, c :: more⟩) := by
  have halnum := isAsciiAlnum_of_isAlpha hc
  rw [Cursor.takeWritten]
  · rintro _ heq
    exact ne_of_isAsciiAlnum halnum rfl (List.cons.inj heq).1
  · rintro _ heq
    exact ne_of_isAsciiAlnum halnum rfl (List.cons.inj heq).1

theorem takeUpTo_of_isAlpha (hc : c.isAlpha = true) (n column : Nat) :
    (⟨column, 0, c :: more⟩ : Cursor).takeUpTo n = (0, ⟨column, 0, c :: more⟩) := by
  cases n with
  | zero => rfl
  | succ n => simp [Cursor.takeUpTo, Cursor.take, takeWritten_of_isAlpha hc]

/-- No marker of a list begins with a letter. -/
theorem listMarker?_of_isAlpha (hc : c.isAlpha = true) : listMarker? (c :: more) = none := by
  have hne (sign : Char) (hsign : isAsciiAlnum sign = false) : c ≠ sign :=
    ne_of_isAsciiAlnum (isAsciiAlnum_of_isAlpha hc) hsign
  simp [listMarker?, hne '-' rfl, hne '+' rfl, hne '*' rfl, isDigit_of_isAlpha hc]

/-- A letter opens no frame. -/
theorem readOpened_of_isAlpha (hc : c.isAlpha = true) (line : Line) (rest : List Line)
    (fuel column : Nat) (o : Outline) :
    readOpened line rest fuel ⟨column, 0, c :: more⟩ o =
      readLeaf line ⟨column, 0, c :: more⟩ rest o := by
  have halnum := isAsciiAlnum_of_isAlpha hc
  have hquote : c ≠ '>' := ne_of_isAsciiAlnum halnum rfl
  cases fuel with
  | zero => rfl
  | succ fuel =>
      rw [readOpened, takeUpTo_of_isAlpha hc]
      simp [Cursor.listItem?, listMarker?_of_isAlpha hc, Cursor.quote?, Cursor.takeChar?, hquote,
        isBlankRest, isInlineBlank_of_isAsciiAlnum halnum]

/-- A letter begins no leaf but a paragraph. -/
theorem readLeaf_of_isAlpha (hc : c.isAlpha = true) (line : Line) (rest : List Line)
    (column : Nat) (o : Outline) :
    readLeaf line ⟨column, 0, c :: more⟩ rest o =
      readParagraph o.leaveList.path (rest.length + 1) (c :: more) rest o.leaveList := by
  have hne (sign : Char) (hsign : isAsciiAlnum sign = false) : c ≠ sign :=
    ne_of_isAsciiAlnum (isAsciiAlnum_of_isAlpha hc) hsign
  have hhtml : htmlBlock? (c :: more) = none := by
    simp [htmlBlock?, interruptingHtml?, hne '<' rfl]
  have hrule : isRule (c :: more) = false := by
    simp [isRule, hne '*' rfl, hne '-' rfl, hne '_' rfl]
  have hheading : atxLevel? (c :: more) = none := by
    simp [atxLevel?, runLength, hne '#' rfl]
  have hfence : fence? (c :: more) = none := by
    simp [fence?, hne '\x60' rfl, hne '~' rfl]
  rw [readLeaf, takeUpTo_of_isAlpha hc]
  simp [hhtml, hrule, hheading, hfence]

theorem definition?_of_isAlpha (hc : c.isAlpha = true) : definition? (c :: more) = none := by
  rw [definition?]
  rintro _ heq
  exact ne_of_isAsciiAlnum (isAsciiAlnum_of_isAlpha hc) rfl (List.cons.inj heq).1

end Letters

/-! ## Paragraphs of one line -/

/-- Where a plain paragraph stands: directly in a quote, or in an item. -/
inductive IsHolder : List Frame → Prop
  | quote : IsHolder [.quote []]
  | item (marker : ListMarker) (tight : Bool) (items : List (List Block)) :
      IsHolder [.item 2 [], .list marker tight items]

/-- What may stand below a plain paragraph so that it ends: nothing, a blank line or an item with
a task marker. -/
def EndsAbove (rest : List Line) : Prop :=
  ∀ line ∈ rest.head?, line.text = [] ∨ ∃ more, line.text = '-' :: ' ' :: '[' :: more

section Paragraphs

variable {path : List Frame} {rest : List Line} {text : List Char}

/-- A paragraph ends at a line that does not go on with it. -/
theorem continuation_of_endsAbove (hpath : IsHolder path) {line : Line} {below : List Line}
    (hrest : EndsAbove (line :: below)) : continuation path line below = .ends := by
  obtain ⟨text, ended⟩ := line
  -- an item has its own margin, so it is outside of the frames of the paragraph
  rcases hrest ⟨text, ended⟩ rfl with htext | ⟨more, htext⟩
  · cases htext
    cases hpath <;> rfl
  · cases htext
    cases hpath <;> rfl

theorem paragraphLines_of_endsAbove (hpath : IsHolder path) (hrest : EndsAbove rest) :
    paragraphLines path rest = ([], none) := by
  cases rest with
  | nil => rfl
  | cons line below => rw [paragraphLines, continuation_of_endsAbove hpath hrest]

/-- There is no bar in spaced text, so no table begins with it. -/
theorem startsTable?_of_spaced (hspaced : Spaced text) : startsTable? path text rest = none := by
  have hbar : '|' ∉ text := hspaced.not_mem rfl (by decide)
  cases rest with
  | nil => rfl
  | cons second below => simp [startsTable?, tableStart?, hbar]

/-- A line of spaced text is a paragraph of its own where the next line ends it. -/
theorem paragraph_of_spaced (hspaced : Spaced text) (hpath : IsHolder path)
    (hrest : EndsAbove rest) (task : Option Bool) :
    paragraph path task text rest = (.paragraph task (.ofLine text), 0) := by
  have htrail : dropTrailing isInlineBlank text = text :=
    hspaced.dropTrailing_eq fun c hc => isInlineBlank_of_isAsciiAlnum hc
  simp [paragraph, startsTable?_of_spaced hspaced, paragraphLines_of_endsAbove hpath hrest,
    joinLines, htrail, Prose.ofLine]

theorem readParagraph_of_isAlpha {c : Char} {more : List Char} (hc : c.isAlpha = true)
    (hspaced : Spaced (c :: more)) (hpath : IsHolder path) (hrest : EndsAbove rest) (fuel : Nat)
    (o : Outline) :
    readParagraph path (fuel + 1) (c :: more) rest o =
      (o.add (.paragraph none (.ofLine (c :: more))), 0) := by
  rw [readParagraph, definitionText, paragraphLines_of_endsAbove hpath hrest]
  simp [definition?_of_isAlpha hc, paragraph_of_spaced hspaced hpath hrest]

end Paragraphs

/-! ## Reading the lines -/

/-- What an item line says: the task marker and the label. -/
def itemText (checked : Bool) (label : List Char) : List Char :=
  '-' :: ' ' :: '[' :: (if checked then 'x' else ' ') :: ']' :: ' ' :: label

/-- Outlines outside of all lists, between the lines of plain text. The blocks are those that
there are, backwards, once all frames are closed. -/
inductive Outside : List Block → Outline → Prop
  | top (blocks : List Block) : Outside blocks ⟨[], blocks, [], false, false⟩
  | quote (inner blocks : List Block) :
      Outside (.quote inner.reverse :: blocks) ⟨[.quote inner], blocks, [], false, false⟩

/-- Outlines between the lines of plain text; an item may be open. -/
inductive Resting : List Block → Outline → Prop
  | outside {blocks : List Block} {o : Outline} (houtside : Outside blocks o) : Resting blocks o
  | item (inner : List Block) (items : List (List Block)) (blocks : List Block) :
      Resting (.list none true (items.reverse ++ [inner.reverse]) :: blocks)
        ⟨[.item 2 inner, .list ⟨'-', none⟩ true items], blocks, [], false, false⟩

section Lines

variable {blocks : List Block} {o : Outline} {rest : List Line} {text : List Char}

/-- Where a list or nothing is open, closing it gives the blocks that were read so far. -/
theorem Resting.finish (hresting : Resting blocks o) :
    o.finish = blocks.reverse ∧ o.definitions = [] := by
  cases hresting with
  | outside houtside => cases houtside <;> exact ⟨rfl, rfl⟩
  | item inner items blocks => exact ⟨by simp [Outline.finish, Outline.closeMany,
      Outline.close, Outline.add], rfl⟩

/-- A line that takes no other lines with it leaves the next one to be read. -/
theorem readLines_of_readLine {line : Line} {o next : Outline}
    (hread : readLine line rest o = (next, 0)) :
    readLines 0 (line :: rest) o = readLines 0 rest next := by
  rw [readLines, hread]

/-- Where no frame is open, a line opens frames from its beginning. -/
theorem readLine_top (line : Line) (rest : List Line) (blocks : List Block) :
    readLine line rest ⟨[], blocks, [], false, false⟩ =
      readOpened line rest (line.text.length + 1) (.start line.text)
        ⟨[], blocks, [], false, false⟩ := rfl

theorem readLines_title (hspaced : Spaced text) :
    readLines 0 (⟨'#' :: ' ' :: text, true⟩ :: rest) .empty =
      readLines 0 rest ⟨[], [.heading 1 none (.ofLine text)], [], false, false⟩ := by
  have hread : readLine ⟨'#' :: ' ' :: text, true⟩ rest .empty =
      (⟨[], [.heading 1 none (.ofLine (atxContent (' ' :: text)))], [], false, false⟩, 0) := rfl
  rw [readLines_of_readLine hread, atxContent_of_spaced hspaced]

theorem readLines_heading_top (hspaced : Spaced text) :
    readLines 0 (⟨'#' :: '#' :: ' ' :: text, true⟩ :: rest) ⟨[], blocks, [], true, false⟩ =
      readLines 0 rest ⟨[], .heading 2 none (.ofLine text) :: blocks, [], false, false⟩ := by
  have hread : readLine ⟨'#' :: '#' :: ' ' :: text, true⟩ rest ⟨[], blocks, [], true, false⟩ =
      (⟨[], .heading 2 none (.ofLine (atxContent (' ' :: text))) :: blocks, [], false, false⟩,
        0) := rfl
  rw [readLines_of_readLine hread, atxContent_of_spaced hspaced]

/-- A heading closes the item and the list that are open. -/
theorem readLines_heading_item (hspaced : Spaced text) (inner : List Block)
    (items : List (List Block)) :
    readLines 0 (⟨'#' :: '#' :: ' ' :: text, true⟩ :: rest)
        ⟨[.item 2 inner, .list ⟨'-', none⟩ true items], blocks, [], true, false⟩ =
      readLines 0 rest
        ⟨[], .heading 2 none (.ofLine text) :: .list none true (inner.reverse :: items).reverse ::
          blocks, [], false, false⟩ := by
  have hread : readLine ⟨'#' :: '#' :: ' ' :: text, true⟩ rest
        ⟨[.item 2 inner, .list ⟨'-', none⟩ true items], blocks, [], true, false⟩ =
      (⟨[], .heading 2 none (.ofLine (atxContent (' ' :: text))) ::
        .list none true (inner.reverse :: items).reverse :: blocks, [], false, false⟩, 0) := rfl
  rw [readLines_of_readLine hread, atxContent_of_spaced hspaced]

/-- A blank line ends whatever stands above it, and a heading comes after. -/
theorem readLines_heading (hspaced : Spaced text) (hresting : Resting blocks o) :
    readLines 0 (⟨[], true⟩ :: ⟨'#' :: '#' :: ' ' :: text, true⟩ :: rest) o =
      readLines 0 rest ⟨[], .heading 2 none (.ofLine text) :: blocks, [], false, false⟩ := by
  cases hresting with
  | outside houtside =>
      have hblank (below : List Line) :
          readLine ⟨[], true⟩ below o = (⟨[], blocks, [], true, false⟩, 0) := by
        cases houtside <;> rfl
      rw [readLines_of_readLine (hblank _), readLines_heading_top hspaced]
  | item inner items blocks =>
      -- a blank line stays in the item, which only the heading closes
      have hblank (below : List Line) :
          readLine ⟨[], true⟩ below
              ⟨[.item 2 inner, .list ⟨'-', none⟩ true items], blocks, [], false, false⟩ =
            (⟨[.item 2 inner, .list ⟨'-', none⟩ true items], blocks, [], true, false⟩, 0) := rfl
      rw [readLines_of_readLine (hblank _), readLines_heading_item hspaced, List.reverse_cons]

theorem quote?_of_isAlpha {c : Char} {more : List Char} (hc : c.isAlpha = true) :
    (Cursor.start ('>' :: ' ' :: c :: more)).quote? = some ⟨2, 0, c :: more⟩ := by
  have htake : Cursor.takeWritten 1 1 (' ' :: c :: more) = (0, ⟨2, 0, c :: more⟩) :=
    takeWritten_of_isAlpha hc 0 2
  simp [Cursor.quote?, Cursor.start, Cursor.takeChar?, Cursor.take, htake]

/-- A quote of one line stays open, since the next line may belong to it. -/
theorem readLines_quote {c : Char} {more : List Char} (hc : c.isAlpha = true)
    (hspaced : Spaced (c :: more)) (hrest : EndsAbove rest) :
    readLines 0 (⟨'>' :: ' ' :: c :: more, true⟩ :: rest) ⟨[], blocks, [], false, false⟩ =
      readLines 0 rest
        ⟨[.quote [.paragraph none (.ofLine (c :: more))]], blocks, [], false, false⟩ := by
  have hmargin (line : List Char) :
      (Cursor.start ('>' :: line)).takeUpTo 4 = (0, .start ('>' :: line)) := rfl
  have hitem (line : List Char) : (Cursor.start ('>' :: line)).listItem? 0 = none := rfl
  have hopen : (⟨[], blocks, [], false, false⟩ : Outline).openQuote =
      ⟨[.quote []], blocks, [], false, false⟩ := rfl
  apply readLines_of_readLine
  rw [readLine_top, readOpened, hmargin]
  simp only [Nat.zero_lt_succ, if_true, hitem, quote?_of_isAlpha hc, hopen]
  rw [readOpened_of_isAlpha hc, readLeaf_of_isAlpha hc]
  exact readParagraph_of_isAlpha hc hspaced .quote hrest _ _

/-- A line with a marker, a task and spaced text opens an item with one paragraph. -/
theorem readOpened_item (hspaced : Spaced text) (hrest : EndsAbove rest) (checked : Bool)
    (fuel : Nat) (holder : IsHolder (o.openItem ⟨'-', none⟩ 2).path) :
    readOpened ⟨itemText checked text, true⟩ rest (fuel + 1) (.start (itemText checked text)) o =
      ((o.openItem ⟨'-', none⟩ 2).add (.paragraph (some checked) (.ofLine text)), 0) := by
  have hmargin : (Cursor.start (itemText checked text)).takeUpTo 4 =
      (0, .start (itemText checked text)) := rfl
  -- the bullet takes two columns, and the task marker the next three
  have hitem : (Cursor.start (itemText checked text)).listItem? 0 =
      some (⟨'-', none⟩, 2, ⟨2, 0, (itemText checked text).drop 2⟩) := by
    simp [Cursor.listItem?, Cursor.start, itemText, isRule, listMarker?, Cursor.take,
      Cursor.takeUpTo, Cursor.takeWritten, isBlankRest, isInlineBlank]
  have hnotBlank : isBlankRest ((itemText checked text).drop 2) = false := rfl
  have htask : (⟨2, 0, (itemText checked text).drop 2⟩ : Cursor).taskMarker? true =
      some (checked, ⟨5, 0, ' ' :: text⟩) := by
    cases checked <;> rfl
  have htext : (' ' :: text).dropWhile isInlineBlank = text :=
    hspaced.dropWhile_eq fun c hc => isInlineBlank_of_isAsciiAlnum hc
  have hlabel : isBlankRest (' ' :: text) = false := by
    obtain ⟨c, more, rfl, hc⟩ := hspaced.head
    simp [isBlankRest, isInlineBlank_of_isAsciiAlnum hc]
  rw [readOpened, hmargin]
  simp only [Nat.zero_lt_succ, if_true, hitem, hnotBlank, htask, hlabel, htext,
    paragraph_of_spaced hspaced holder hrest]
  rfl

/-- An item outside of all lists begins a list, and ends a quote. -/
theorem readLines_firstItem (hspaced : Spaced text) (hrest : EndsAbove rest) (checked : Bool)
    (houtside : Outside blocks o) :
    readLines 0 (⟨itemText checked text, true⟩ :: rest) o =
      readLines 0 rest
        ⟨[.item 2 [.paragraph (some checked) (.ofLine text)], .list ⟨'-', none⟩ true []], blocks,
          [], false, false⟩ := by
  have hclose : readLine ⟨itemText checked text, true⟩ rest o =
      readOpened ⟨itemText checked text, true⟩ rest ((itemText checked text).length + 1)
        (.start (itemText checked text)) ⟨[], blocks, [], false, false⟩ := by
    cases houtside <;> rfl
  apply readLines_of_readLine
  rw [hclose]
  exact readOpened_item hspaced hrest checked _ (.item _ _ _)

/-- A further item is added to the list that is open. -/
theorem readLines_nextItem (hspaced : Spaced text) (hrest : EndsAbove rest) (checked : Bool)
    (inner : List Block) (items : List (List Block)) :
    readLines 0 (⟨itemText checked text, true⟩ :: rest)
        ⟨[.item 2 inner, .list ⟨'-', none⟩ true items], blocks, [], false, false⟩ =
      readLines 0 rest
        ⟨[.item 2 [.paragraph (some checked) (.ofLine text)],
          .list ⟨'-', none⟩ true (inner.reverse :: items)], blocks, [], false, false⟩ := by
  have hclose : readLine ⟨itemText checked text, true⟩ rest
        ⟨[.item 2 inner, .list ⟨'-', none⟩ true items], blocks, [], false, false⟩ =
      readOpened ⟨itemText checked text, true⟩ rest ((itemText checked text).length + 1)
        (.start (itemText checked text))
        ⟨[.list ⟨'-', none⟩ true (inner.reverse :: items)], blocks, [], false, false⟩ := rfl
  apply readLines_of_readLine
  rw [hclose]
  exact readOpened_item hspaced hrest checked _ (.item _ _ _)

end Lines

end QuizCompiler.Markdown
