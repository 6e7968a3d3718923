import QuizCompiler.Proofs.Names
import QuizCompiler.Proofs.Rewording
import QuizCompiler.Proofs.Supplies

/-! # Names in turn

Once the questions are in order, their names are made of one identifier after the other. An
identifier is passed over only if it already stands behind the same mark, so few identifiers that
differ are enough.
-/

namespace QuizCompiler.Random

namespace Uuid

theorem length_text (id : Uuid) : id.text.toList.length = 36 := by
  have hpairs (bytes : List UInt8) : (bytes.flatMap hexPair).length = 2 * bytes.length :=
    (isGroup_flatMap rfl).length
  rw [toList_text]
  simp [hpairs]

/-- A name tells its mark and its identifier, as all identifiers are equally long. -/
theorem append_text_inj {mark other : String} {id id' : Uuid}
    (heq : mark ++ id.text = other ++ id'.text) : mark = other ∧ id = id' := by
  have hlists := congrArg String.toList heq
  rw [String.toList_append, String.toList_append] at hlists
  obtain ⟨hmark, hid⟩ := List.append_inj' hlists (by rw [length_text, length_text])
  exact ⟨String.toList_inj.mp hmark, text_injective (String.toList_inj.mp hid)⟩

end Uuid

/-- The identifiers that a stream gives from some word on, each made of the next sixteen words. -/
def identifiers (words : Words) (origin place : Nat) : Uuid :=
  Uuid.ofWords words (origin + 16 * place)

/-- A byte of an identifier as it is made of the lowest byte of a word: the version and the variant
have fixed bits. -/
def identifierByte (i : Nat) (byte : UInt8) : UInt8 :=
  if i = 6 then byte &&& 0x0f ||| 0x40 else if i = 8 then byte &&& 0x3f ||| 0x80 else byte

/-- Identifiers follow each other, sixteen words apart. -/
theorem ofWords_mul (words : Words) (origin place k : Nat) :
    Uuid.ofWords words (origin + 16 * place + k * 16) = identifiers words origin (place + k) := by
  rw [identifiers, Nat.mul_add, Nat.mul_comm k, Nat.add_assoc]

/-- Each byte of an identifier is that of one word, but for the version and the variant. -/
theorem get_identifiers (words : Words) (origin place : Nat) (i : Fin 16) :
    (identifiers words origin place).bytes.get i =
      identifierByte i (words (origin + 16 * place + i)).toUInt8 := by
  have hget (bytes : Vector UInt8 16) : bytes.get i = bytes[i.val] := rfl
  rw [hget, identifiers, Uuid.ofWords, Uuid.ofRandom, identifierByte]
  by_cases hvariant : i.val = 8
  · simp [hvariant]
  by_cases hversion : i.val = 6
  · simp [hversion]
  rw [if_neg hversion, if_neg hvariant, Vector.getElem_set_ne, Vector.getElem_set_ne,
    Vector.getElem_ofFn]
  · exact Ne.symm hversion
  · exact Ne.symm hvariant

end QuizCompiler.Random

namespace QuizCompiler.Quiz

open QuizCompiler.Random

/-! ## Picks -/

/-- The identifier at a place, taken to stand behind a mark. -/
structure Pick where
  mark : String
  place : Nat

def Pick.name (ids : Nat → Uuid) (pick : Pick) : String := pick.mark ++ (ids pick.place).text

/-- How many identifiers were examined for names. -/
def examined (picks : List Pick) : Nat := (picks.getLast?.map fun pick => pick.place + 1).getD 0

theorem examined_concat (picks : List Pick) (pick : Pick) :
    examined (picks ++ [pick]) = pick.place + 1 := by
  simp [examined]

/-- The next pick takes the first identifier that was not examined yet and gives a new name. -/
structure TakesNext (ids : Nat → Uuid) (before : List Pick) (pick : Pick) : Prop where
  unexamined : examined before ≤ pick.place
  unissued : pick.name ids ∉ before.map (Pick.name ids)
  passed : ∀ place, examined before ≤ place → place < pick.place →
    ∃ earlier ∈ before, earlier.mark = pick.mark ∧ ids earlier.place = ids place

/-- The marks of the names that questions need. A supplement is named before its prompt. -/
def marksOf (questions : List Question) : List String :=
  questions.flatMap fun question =>
    if question.supplement.isSome then [supplementMark, ""] else [""]

/-! ## Names without pages -/

/-- Draw names for marks, one after the other. -/
def drawNames (words : Words) (patience : Nat) : List String → List String → Draw (List String)
  | _, [] => return []
  | issued, mark :: marks => do
    let name ← drawName words patience issued mark
    let names ← drawNames words patience (name :: issued) marks
    return name :: names

section Drawing

variable {words : Words} {patience origin start stop : Nat} {issued : List String}

theorem drawNames_cons {names : List String} {mark : String} {marks : List String} :
    drawNames words patience issued (mark :: marks) start = some (names, stop) ↔
      ∃ name middle rest, drawName words patience issued mark start = some (name, middle) ∧
        drawNames words patience (name :: issued) marks middle = some (rest, stop) ∧
        names = name :: rest := by
  simp only [drawNames, Draw.bind_eq_some, Draw.pure_eq_some]
  constructor
  · rintro ⟨name, middle, hname, rest, _, hrest, rfl, rfl⟩
    exact ⟨name, middle, rest, hname, hrest, rfl⟩
  · rintro ⟨name, middle, rest, hname, hrest, rfl⟩
    exact ⟨name, middle, hname, rest, stop, hrest, rfl, rfl⟩

/-- Names for two lists of marks are drawn one list after the other. -/
theorem drawNames_append {names first second : List String} :
    drawNames words patience issued (first ++ second) start = some (names, stop) ↔
      ∃ front middle back, drawNames words patience issued first start = some (front, middle) ∧
        drawNames words patience (front.reverse ++ issued) second middle = some (back, stop) ∧
        names = front ++ back := by
  induction first generalizing issued start names with
  | nil => simp [drawNames, Draw.pure_eq_some]
  | cons mark first ih =>
      simp only [List.cons_append, drawNames_cons, ih]
      constructor
      · rintro ⟨name, middle, _, hname, ⟨front, later, back, hfront, hback, rfl⟩, rfl⟩
        exact ⟨name :: front, later, back, ⟨name, middle, front, hname, hfront, rfl⟩,
          by simpa using hback, rfl⟩
      · rintro ⟨_, later, back, ⟨name, middle, front, hname, hfront, rfl⟩, hback, rfl⟩
        exact ⟨name, middle, front ++ back, hname,
          ⟨front, later, back, hfront, by simpa using hback, rfl⟩, rfl⟩

theorem marksOf_cons (question : Question) (questions : List Question) :
    marksOf (question :: questions) = marksOf [question] ++ marksOf questions := by
  simp [marksOf]

/-- A page needs no other words than its names. -/
theorem drawPage_iff {question : Question} {names : List String} :
    drawNames words patience issued (marksOf [question]) start = some (names, stop) ↔
      ∃ page, drawPage words patience issued question start =
          some ((page, names.reverse ++ issued), stop) ∧
        page.elements.map Element.name = names := by
  -- a page takes one name, and one before it if there is a supplement
  cases hsupplement : question.supplement with
  | none =>
      have hmarks : marksOf [question] = [""] := by simp [marksOf, hsupplement]
      simp only [hmarks, drawNames, drawPage, hsupplement, Draw.bind_eq_some, Draw.pure_eq_some]
      constructor
      · rintro ⟨name, _, hname, _, _, ⟨rfl, rfl⟩, rfl, rfl⟩
        exact ⟨_, ⟨name, _, hname, rfl, rfl⟩, rfl⟩
      · rintro ⟨_, ⟨name, _, hname, hpage, rfl⟩, rfl⟩
        obtain ⟨rfl, -⟩ := Prod.mk.inj hpage
        exact ⟨name, _, hname, _, _, ⟨rfl, rfl⟩, rfl, rfl⟩
  | some html =>
      have hmarks : marksOf [question] = [supplementMark, ""] := by simp [marksOf, hsupplement]
      simp only [hmarks, drawNames, drawPage, hsupplement, Draw.bind_eq_some, Draw.pure_eq_some]
      constructor
      · rintro ⟨mark, _, hmark, _, _, ⟨name, _, hname, _, _, ⟨rfl, rfl⟩, rfl, rfl⟩, rfl, rfl⟩
        exact ⟨_, ⟨mark, _, hmark, name, _, hname, rfl, rfl⟩, rfl⟩
      · rintro ⟨_, ⟨mark, _, hmark, name, _, hname, hpage, rfl⟩, rfl⟩
        obtain ⟨rfl, -⟩ := Prod.mk.inj hpage
        exact ⟨mark, _, hmark, _, _, ⟨name, _, hname, _, _, ⟨rfl, rfl⟩, rfl, rfl⟩, rfl, rfl⟩

/-- So do all pages together. -/
theorem drawPages_iff {names : List String} {questions : List Question} :
    drawNames words patience issued (marksOf questions) start = some (names, stop) ↔
      ∃ pages, drawPages words patience issued questions start = some (pages, stop) ∧
        (pages.flatMap Page.elements).map Element.name = names := by
  induction questions generalizing issued names start with
  | nil =>
      simp only [marksOf, List.flatMap_nil, drawNames, drawPages, Draw.pure_eq_some]
      constructor
      · rintro ⟨rfl, rfl⟩
        exact ⟨[], ⟨rfl, rfl⟩, rfl⟩
      · rintro ⟨_, ⟨rfl, rfl⟩, rfl⟩
        exact ⟨rfl, rfl⟩
  | cons question questions ih =>
      rw [marksOf_cons, drawNames_append]
      simp only [drawPage_iff, ih, drawPages, Draw.bind_eq_some, Draw.pure_eq_some]
      constructor
      · rintro ⟨_, middle, _, ⟨page, hpage, rfl⟩, ⟨pages, hpages, rfl⟩, rfl⟩
        exact ⟨page :: pages, ⟨_, middle, hpage, pages, stop, hpages, rfl, rfl⟩, by simp⟩
      · rintro ⟨_, ⟨⟨page, more⟩, middle, hpage, pages, _, hpages, rfl, rfl⟩, rfl⟩
        obtain ⟨rfl, -⟩ := drawPage_names hpage
        exact ⟨_, middle, _, ⟨page, hpage, rfl⟩, ⟨pages, hpages, rfl⟩, by simp⟩

/-! ## The next identifier -/

/-- The names that were given when picks were made, the latest first. -/
def issuedFor (ids : Nat → Uuid) (picks : List Pick) : List String :=
  (picks.map (Pick.name ids)).reverse

theorem issuedFor_concat (ids : Nat → Uuid) (picks : List Pick) (pick : Pick) :
    issuedFor ids (picks ++ [pick]) = pick.name ids :: issuedFor ids picks := by
  simp [issuedFor]

/-- A name is issued if its identifier was picked before with the same mark. -/
theorem mem_issuedFor {ids : Nat → Uuid} {picks : List Pick} {mark : String} {id : Uuid} :
    mark ++ id.text ∈ issuedFor ids picks ↔
      ∃ earlier ∈ picks, earlier.mark = mark ∧ ids earlier.place = id := by
  rw [issuedFor, List.mem_reverse, List.mem_map]
  constructor
  · rintro ⟨earlier, hearlier, hname⟩
    exact ⟨earlier, hearlier, Uuid.append_text_inj hname⟩
  · rintro ⟨earlier, hearlier, rfl, rfl⟩
    exact ⟨earlier, hearlier, rfl⟩

/-- A name takes the next identifier that was not yet issued with its mark. -/
theorem drawName_takesNext {before : List Pick} {mark name : String}
    (hname : drawName words patience (issuedFor (identifiers words origin) before) mark
      (origin + 16 * examined before) = some (name, stop)) :
    ∃ pick : Pick, pick.mark = mark ∧ pick.name (identifiers words origin) = name ∧
      TakesNext (identifiers words origin) before pick ∧
      stop = origin + 16 * examined (before ++ [pick]) := by
  obtain ⟨k, -, hpassed, hread, rfl⟩ := drawUntil_eq_some.mp hname
  simp only [ofWords_mul, List.contains_iff_mem, Option.ite_none_left_eq_some,
    Option.some.injEq] at hread
  obtain ⟨hnew, rfl⟩ := hread
  refine ⟨⟨mark, examined before + k⟩, rfl, rfl, ⟨Nat.le_add_right _ _, ?_, ?_⟩, ?_⟩
  · intro hissued
    exact hnew (List.mem_reverse.mpr hissued)
  · intro place hexamined hlt
    obtain ⟨j, rfl⟩ := Nat.exists_eq_add_of_le hexamined
    have hissued := hpassed j (Nat.lt_of_add_lt_add_left hlt)
    simp only [ofWords_mul] at hissued
    apply mem_issuedFor.mp
    by_contra hnew
    simp [hnew] at hissued
  · rw [examined_concat, Nat.mul_add, Nat.mul_add]
    omega

/-- Names that are drawn one after the other are picked in turn. -/
theorem drawNames_inTurn (before : List Pick) {marks names : List String}
    (hnames : drawNames words patience (issuedFor (identifiers words origin) before) marks
      (origin + 16 * examined before) = some (names, stop)) :
    ∃ picks : List Pick, picks.map Pick.mark = marks ∧
      picks.map (Pick.name (identifiers words origin)) = names ∧
      (∀ first pick rest, picks = first ++ pick :: rest →
        TakesNext (identifiers words origin) (before ++ first) pick) ∧
      stop = origin + 16 * examined (before ++ picks) := by
  -- the picks before the names that are still wanted say which are issued
  induction marks generalizing before names with
  | nil =>
      obtain ⟨rfl, rfl⟩ := Draw.pure_eq_some.mp hnames
      exact ⟨[], rfl, rfl, by simp, by simp⟩
  | cons mark marks ih =>
      obtain ⟨name, middle, others, hname, hothers, rfl⟩ := drawNames_cons.mp hnames
      obtain ⟨pick, rfl, rfl, htakes, rfl⟩ := drawName_takesNext hname
      rw [← issuedFor_concat] at hothers
      obtain ⟨picks, rfl, rfl, hturns, rfl⟩ := ih (before ++ [pick]) hothers
      refine ⟨pick :: picks, rfl, rfl, ?_, by simp⟩
      intro first other rest hsplit
      cases first with
      | nil =>
          obtain ⟨rfl, -⟩ := List.cons.inj hsplit
          rwa [List.append_nil]
      | cons head first =>
          obtain ⟨rfl, hrest⟩ := List.cons.inj hsplit
          simpa using hturns first other rest hrest

/-! ## Enough identifiers -/

/-- From any place on there is an identifier beside any fewer than `count`. -/
def KeepsDiffering (ids : Nat → Uuid) (count : Nat) : Prop :=
  ∀ seen : List Uuid, seen.length < count → ∀ place, ∃ k, place ≤ k ∧ ids k ∉ seen

/-- An identifier is left as long as fewer were picked with the mark than differ. -/
theorem drawName_ends_of_keepsDiffering {count : Nat}
    (hids : KeepsDiffering (identifiers words origin) count) (before : List Pick) (mark : String)
    (hbefore : (before.countP fun pick => pick.mark = mark) < count) :
    ∃ name stop, Draw.Ends (fun patience =>
      drawName words patience (issuedFor (identifiers words origin) before) mark)
      (origin + 16 * examined before) (name, stop) := by
  apply drawUntil_ends
  -- only identifiers that stand behind the same mark are in the way
  obtain ⟨place, hplace, hnew⟩ := hids
    ((before.filter fun pick => pick.mark = mark).map fun pick =>
      identifiers words origin pick.place)
    (by rwa [List.length_map, ← List.countP_eq_length_filter]) (examined before)
  obtain ⟨k, rfl⟩ := Nat.exists_eq_add_of_le hplace
  refine ⟨k, ?_⟩
  have hunissued : mark ++ (identifiers words origin (examined before + k)).text ∉
      issuedFor (identifiers words origin) before := by
    intro hissued
    obtain ⟨earlier, hearlier, hmark, hid⟩ := mem_issuedFor.mp hissued
    refine hnew (List.mem_map.mpr ⟨earlier, List.mem_filter.mpr ⟨hearlier, ?_⟩, hid⟩)
    simpa using hmark
  simp [ofWords_mul, hunissued]

/-- All names are found if no mark needs more of them than identifiers differ. -/
theorem drawNames_ends {count : Nat} (hids : KeepsDiffering (identifiers words origin) count)
    (before : List Pick) {marks : List String}
    (hmarks : ∀ mark, (before.countP fun pick => pick.mark = mark) + marks.count mark ≤ count) :
    ∃ names stop, Draw.Ends (fun patience =>
      drawNames words patience (issuedFor (identifiers words origin) before) marks)
      (origin + 16 * examined before) (names, stop) := by
  induction marks generalizing before with
  | nil => exact ⟨[], _, .pure _ _⟩
  | cons mark marks ih =>
      have hmark := hmarks mark
      rw [List.count_cons_self] at hmark
      obtain ⟨name, middle, patience, hpatience⟩ :=
        drawName_ends_of_keepsDiffering hids before mark (by omega)
      obtain ⟨pick, rfl, rfl, -, rfl⟩ := drawName_takesNext (hpatience patience (Nat.le_refl _))
      -- what is picked for a mark is not to be picked for it any more
      have hrest (other : String) :
          ((before ++ [pick]).countP fun earlier => earlier.mark = other) + marks.count other ≤
            count := by
        have hother := hmarks other
        rw [List.count_cons] at hother
        rw [List.countP_append, List.countP_singleton]
        simp only [beq_iff_eq, decide_eq_true_eq] at hother ⊢
        by_cases heq : pick.mark = other
        · rw [if_pos heq] at hother ⊢
          omega
        · rw [if_neg heq] at hother ⊢
          omega
      obtain ⟨names, stop, hnames⟩ := ih (before ++ [pick]) hrest
      rw [issuedFor_concat] at hnames
      exact ⟨_, stop, .bind ⟨patience, hpatience⟩ (.bind hnames (.pure _ _))⟩

end Drawing

theorem count_marksOf_le (questions : List Question) (mark : String) :
    (marksOf questions).count mark ≤ questions.length := by
  induction questions with
  | nil => exact Nat.le_refl 0
  | cons question questions ih =>
      have hone : (marksOf [question]).count mark ≤ 1 := by
        apply List.nodup_iff_count_le_one.mp
        cases hsupplement : question.supplement with
        | none => simp [marksOf, hsupplement]
        | some html => simp [marksOf, hsupplement, supplementMark]
      rw [marksOf_cons, List.count_append, List.length_cons]
      omega

/-! ## Documents -/

/-- After the shuffle, the names of the elements are made in turn of the identifiers that follow in
the stream: each takes the first one from there on that does not stand behind its mark already.
Sixteen words are used for each identifier examined. The assembly ends if there is always an
identifier beside any fewer than there are questions. -/
theorem assemble_names_in_turn (words : Words) (start : Nat) (title : String)
    (questions : List Question) (config : Config) :
    (∀ origin place i, (identifiers words origin place).bytes.get i =
      identifierByte i (words (origin + 16 * place + i)).toUInt8) ∧
    (∀ patience document stop,
      assemble words patience title questions config start = some (document, stop) →
      ∃ ordered middle picks,
        shuffle words patience questions start = some (ordered, middle) ∧
        List.Forall₂ Page.Shows document.pages ordered ∧
        picks.map Pick.mark = marksOf ordered ∧
        document.elementNames = picks.map (Pick.name (identifiers words middle)) ∧
        (∀ before pick after, picks = before ++ pick :: after →
          TakesNext (identifiers words middle) before pick) ∧
        stop = middle + 16 * examined picks) ∧
    ∀ patience ordered middle, shuffle words patience questions start = some (ordered, middle) →
      KeepsDiffering (identifiers words middle) questions.length →
      ∃ document stop,
        Draw.Ends (fun patience => assemble words patience title questions config) start
          (document, stop) := by
  refine ⟨get_identifiers words, ?_, ?_⟩
  · intro patience document stop hrun
    obtain ⟨ordered, middle, pages, hordered, hpages, rfl⟩ := assemble_eq_some_of_shuffle.mp hrun
    have hnames := drawPages_iff.mpr ⟨pages, hpages, rfl⟩
    obtain ⟨picks, hmarks, hpicks, hturns, rfl⟩ := drawNames_inTurn [] hnames
    exact ⟨ordered, middle, picks, hordered, drawPages_shows hpages, hmarks, hpicks.symm, hturns,
      rfl⟩
  · intro patience ordered middle hordered hids
    have hlength : ordered.length = questions.length := by
      obtain ⟨swaps, -, rfl⟩ := shuffle_eq_some.mp hordered
      exact (reordered_perm swaps questions).length_eq
    -- a question wants each mark once at most, so an identifier is left for it every time
    have hmarks (mark : String) :
        (([] : List Pick).countP fun pick => pick.mark = mark) + (marksOf ordered).count mark ≤
          questions.length := by
      rw [List.countP_nil, Nat.zero_add, ← hlength]
      exact count_marksOf_le ordered mark
    -- the names need some patience and the shuffle another; both runs are given the greater
    obtain ⟨names, stop, enough, hnames⟩ := drawNames_ends hids [] hmarks
    obtain ⟨pages, hpages, -⟩ := drawPages_iff.mp
      (hnames (max enough patience) (Nat.le_max_left _ _))
    have hshuffle :=
      shuffle_extendedBy (Nat.le_max_right enough patience) words questions _ _ hordered
    obtain ⟨document, hrun⟩ : ∃ document,
        assemble words (max enough patience) title questions config start =
          some (document, stop) :=
      ⟨_, assemble_eq_some_of_shuffle.mpr ⟨ordered, middle, pages, hshuffle, hpages, rfl⟩⟩
    exact ⟨document, stop, max enough patience, fun more hmore =>
      assemble_extendedBy hmore words title questions config _ _ hrun⟩

/-- A stream that supplies names keeps differing from every place on. -/
theorem keepsDiffering_of_supply {words : Words} {places names : Nat}
    (hsupply : words.Supply places names) (origin : Nat) :
    KeepsDiffering (identifiers words origin) names := by
  intro seen hseen place
  obtain ⟨k, hk⟩ := hsupply.fresh (seen.map Uuid.text) (origin + 16 * place) (by simpa using hseen)
  refine ⟨place + k, Nat.le_add_right _ _, fun hmem => hk (List.mem_map.mpr ⟨_, hmem, ?_⟩)⟩
  rw [ofWords_mul]

/-- Four identifiers are examined for three names if the third is equal to the second. A stream that
counts always ends. -/
theorem assemble_slowWords_in_turn :
    (∃ document picks, assemble slowWords 2 "T" twoQuestions Config.default 0 =
        some (document, 65) ∧
      picks.map Pick.mark = ["meta", "", ""] ∧ examined picks = 4 ∧
      document.elementNames = picks.map (Pick.name (identifiers slowWords 1))) ∧
    ∃ document stop,
      Draw.Ends (fun patience => assemble countingWords patience "T" twoQuestions Config.default) 0
        (document, stop) := by
  refine ⟨?_, ?_⟩
  · have hstop : (assemble slowWords 2 "T" twoQuestions Config.default 0).map Prod.snd =
        some 65 := by decide +kernel
    have hshuffle : shuffle slowWords 2 twoQuestions 0 = some (twoQuestions.reverse, 1) := by
      decide +kernel
    obtain ⟨⟨document, stop⟩, hrun, rfl⟩ := Option.map_eq_some_iff.mp hstop
    obtain ⟨-, hturns, -⟩ :=
      assemble_names_in_turn slowWords 0 "T" twoQuestions Config.default
    obtain ⟨ordered, middle, picks, hordered, -, hmarks, hnames, -, hexamined⟩ :=
      hturns 2 document 65 hrun
    obtain ⟨rfl, rfl⟩ := Prod.mk.inj (Option.some.inj (hordered.symm.trans hshuffle))
    exact ⟨document, picks, hrun, hmarks, by omega, hnames⟩
  · have hshuffle : (shuffle countingWords 1 twoQuestions 0).isSome = true := by decide +kernel
    obtain ⟨⟨ordered, middle⟩, hordered⟩ := Option.isSome_iff_exists.mp hshuffle
    obtain ⟨-, -, hends⟩ :=
      assemble_names_in_turn countingWords 0 "T" twoQuestions Config.default
    exact hends 1 ordered middle hordered
      (keepsDiffering_of_supply (countingWords_supply 2 (by decide)) middle)

end QuizCompiler.Quiz
