import QuizCompiler.Proofs.Compilation
import QuizCompiler.Proofs.Identifiers

/-! # The names of elements

An identifier is written in one form, and that form is accepted. The names of a document
are distinct because each of them was checked against those issued before it, whatever
the stream supplies.
-/

namespace QuizCompiler.Random.Uuid

open QuizCompiler.Text

/-! ## The form of random identifiers -/

/-- The hexadecimal digits in lower case. -/
def isLowerHexDigit (c : Char) : Bool := c.isDigit || ('a' ≤ c && c ≤ 'f')

/-- So many lower-case hexadecimal digits. -/
structure IsGroup (size : Nat) (group : List Char) : Prop where
  length : group.length = size
  digits : ∀ c ∈ group, isLowerHexDigit c = true

/-- The written form of a random identifier: groups of 8, 4, 4, 4 and 12 lower-case digits with
hyphens between them. The third begins with the version, 4, and the fourth with a digit
whose upper bits are the variant, 10. -/
def IsRandomForm (text : String) : Prop :=
  ∃ (first second third fourth fifth : List Char) (variant : Char),
    text.toList = first ++ '-' :: (second ++ '-' :: ('4' :: third ++ '-' ::
      (variant :: fourth ++ '-' :: fifth))) ∧
    IsGroup 8 first ∧ IsGroup 4 second ∧ IsGroup 3 third ∧
    variant ∈ ['8', '9', 'a', 'b'] ∧ IsGroup 3 fourth ∧ IsGroup 12 fifth

theorem isLowerHexDigit_lowerHexDigit {n : Nat} (hn : n < 16) :
    isLowerHexDigit (lowerHexDigit n) = true := by
  have hall : ∀ n < 16, isLowerHexDigit (lowerHexDigit n) = true := by decide
  exact hall n hn

theorem isGroup_hexPair (byte : UInt8) : IsGroup 2 (hexPair byte) := by
  have hbyte := byte.toNat_lt
  refine ⟨rfl, ?_⟩
  simp only [hexPair, List.mem_cons, List.not_mem_nil, or_false]
  rintro c (rfl | rfl)
  · exact isLowerHexDigit_lowerHexDigit (by omega)
  · exact isLowerHexDigit_lowerHexDigit (by omega)

theorem IsGroup.append {m n : Nat} {first second : List Char} (hfirst : IsGroup m first)
    (hsecond : IsGroup n second) : IsGroup (m + n) (first ++ second) := by
  refine ⟨by rw [List.length_append, hfirst.length, hsecond.length], ?_⟩
  intro c hc
  rcases List.mem_append.mp hc with hc | hc
  · exact hfirst.digits c hc
  · exact hsecond.digits c hc

theorem IsGroup.tail {size : Nat} {c : Char} {group : List Char}
    (hgroup : IsGroup (size + 1) (c :: group)) : IsGroup size group :=
  ⟨Nat.succ.inj hgroup.length, fun d hd => hgroup.digits d (List.mem_cons_of_mem _ hd)⟩

/-- Bytes are written as twice as many digits. -/
theorem isGroup_flatMap {size : Nat} {bytes : List UInt8} (hsize : 2 * bytes.length = size) :
    IsGroup size (bytes.flatMap hexPair) := by
  subst hsize
  induction bytes with
  | nil => exact ⟨rfl, by simp⟩
  | cons byte bytes ih =>
      have happend := (isGroup_hexPair byte).append ih
      rwa [Nat.add_comm, ← Nat.mul_succ] at happend

theorem take_flatMap_hexPair (n : Nat) (bytes : List UInt8) :
    (bytes.flatMap hexPair).take (2 * n) = (bytes.take n).flatMap hexPair := by
  induction bytes generalizing n with
  | nil => simp
  | cons byte bytes ih =>
      cases n with
      | zero => rfl
      | succ n =>
          rw [List.flatMap_cons, List.take_succ_cons, List.flatMap_cons, ← ih n]
          rfl

theorem drop_flatMap_hexPair (n : Nat) (bytes : List UInt8) :
    (bytes.flatMap hexPair).drop (2 * n) = (bytes.drop n).flatMap hexPair := by
  induction bytes generalizing n with
  | nil => simp
  | cons byte bytes ih =>
      cases n with
      | zero => rfl
      | succ n =>
          rw [List.flatMap_cons, List.drop_succ_cons, ← ih n]
          rfl

/-- The digits of an identifier, group by group. -/
theorem toList_text (id : Uuid) :
    id.text.toList =
      (id.bytes.toList.take 4).flatMap hexPair ++ '-' ::
        (((id.bytes.toList.drop 4).take 2).flatMap hexPair ++ '-' ::
          (((id.bytes.toList.drop 6).take 2).flatMap hexPair ++ '-' ::
            (((id.bytes.toList.drop 8).take 2).flatMap hexPair ++ '-' ::
              (id.bytes.toList.drop 10).flatMap hexPair))) := by
  simp only [text, String.toList_ofList, groupSizes, hyphenate]
  rw [take_flatMap_hexPair 4, drop_flatMap_hexPair 4, take_flatMap_hexPair 2,
    drop_flatMap_hexPair 2, take_flatMap_hexPair 2, drop_flatMap_hexPair 2,
    take_flatMap_hexPair 2, drop_flatMap_hexPair 2, List.drop_drop, List.drop_drop,
    List.drop_drop]

/-- The byte of the version begins with its digit. -/
theorem hexPair_version (byte : UInt8) :
    ∃ digit, hexPair (byte &&& 0x0f ||| 0x40) = ['4', digit] := by
  have hupper : (byte &&& 0x0f ||| 0x40).toNat / 16 = 4 := by
    have hall : ∀ n < 256, (n &&& 15 ||| 64) / 16 = 4 := by decide +kernel
    simpa using hall byte.toNat byte.toNat_lt
  exact ⟨lowerHexDigit ((byte &&& 0x0f ||| 0x40).toNat % 16), by rw [hexPair, hupper]; rfl⟩

/-- The byte of the variant begins with one of four digits. -/
theorem hexPair_variant (byte : UInt8) :
    ∃ variant digit, hexPair (byte &&& 0x3f ||| 0x80) = [variant, digit] ∧
      variant ∈ ['8', '9', 'a', 'b'] := by
  refine ⟨_, _, rfl, ?_⟩
  have hall : ∀ n < 256, lowerHexDigit ((n &&& 63 ||| 128) / 16) ∈ ['8', '9', 'a', 'b'] := by
    decide +kernel
  simpa using hall byte.toNat byte.toNat_lt

/-- The digits of two neighbouring bytes of an identifier. -/
theorem flatMap_take_two_drop {bytes : Vector UInt8 16} {i : Nat} (hi : i + 1 < 16) :
    ((bytes.toList.drop i).take 2).flatMap hexPair = hexPair bytes[i] ++ hexPair bytes[i + 1] := by
  rw [List.drop_eq_getElem_cons (by simp; omega), List.drop_eq_getElem_cons (by simp; omega)]
  simp

/-- Whatever the bytes are, an identifier made of them has the form of a random one. -/
theorem isRandomForm_ofRandom (bytes : Vector UInt8 16) : IsRandomForm (ofRandom bytes).text := by
  obtain ⟨upper, hversion⟩ := hexPair_version bytes[6]
  obtain ⟨variant, lower, hvariant, hmem⟩ := hexPair_variant bytes[8]
  have hsixth : (ofRandom bytes).bytes[6] = bytes[6] &&& 0x0f ||| 0x40 := by simp [ofRandom]
  have heighth : (ofRandom bytes).bytes[8] = bytes[8] &&& 0x3f ||| 0x80 := by simp [ofRandom]
  have hupper : IsGroup 1 [upper] :=
    IsGroup.tail (hversion ▸ isGroup_hexPair (bytes[6] &&& 0x0f ||| 0x40))
  have hlower : IsGroup 1 [lower] :=
    IsGroup.tail (hvariant ▸ isGroup_hexPair (bytes[8] &&& 0x3f ||| 0x80))
  refine ⟨((ofRandom bytes).bytes.toList.take 4).flatMap hexPair,
    (((ofRandom bytes).bytes.toList.drop 4).take 2).flatMap hexPair,
    upper :: hexPair (ofRandom bytes).bytes[7], lower :: hexPair (ofRandom bytes).bytes[9],
    ((ofRandom bytes).bytes.toList.drop 10).flatMap hexPair, variant, ?_,
    isGroup_flatMap (by simp), isGroup_flatMap (by simp), hupper.append (isGroup_hexPair _), hmem,
    hlower.append (isGroup_hexPair _), isGroup_flatMap (by simp)⟩
  rw [toList_text, flatMap_take_two_drop (i := 6) (by omega), hsixth, hversion,
    flatMap_take_two_drop (i := 8) (by omega), heighth, hvariant]
  rfl

/-! ## Acceptance -/

/-- The five groups of an identifier, whose sizes alone decide that it is accepted. -/
theorem IsRandomForm.groups {text : String} (htext : IsRandomForm text) :
    ∃ first second third fourth fifth : List Char,
      text.toList =
        first ++ '-' :: (second ++ '-' :: (third ++ '-' :: (fourth ++ '-' :: fifth))) ∧
      IsGroup 8 first ∧ IsGroup 4 second ∧ IsGroup 4 third ∧ IsGroup 4 fourth ∧
      IsGroup 12 fifth := by
  obtain ⟨first, second, third, fourth, fifth, variant, htext, hfirst, hsecond, hthird, hvariant,
    hfourth, hfifth⟩ := htext
  have hversion : IsGroup 1 ['4'] := ⟨rfl, by simp [isLowerHexDigit]⟩
  have hmark : IsGroup 1 [variant] := by
    have hall : ∀ c ∈ ['8', '9', 'a', 'b'], isLowerHexDigit c = true := by
      simp [isLowerHexDigit]
    exact ⟨rfl, by simpa using hall variant hvariant⟩
  exact ⟨first, second, '4' :: third, variant :: fourth, fifth, htext, hfirst, hsecond,
    hversion.append hthird, hmark.append hfourth, hfifth⟩

theorem IsGroup.isDigits {size : Nat} {group : List Char} (hgroup : IsGroup size group) :
    IsDigits size group := by
  refine ⟨hgroup.length, ?_⟩
  intro c hc
  have hdigit := hgroup.digits c hc
  simp only [isLowerHexDigit, Bool.or_eq_true] at hdigit
  simp only [isHexDigit, Bool.or_eq_true]
  exact .inl hdigit

/-- The form in which identifiers are written is one of the accepted forms. -/
theorem isForm_of_isRandomForm {text : String} (htext : IsRandomForm text) :
    IsForm text.toList := by
  obtain ⟨first, second, third, fourth, fifth, htext, hfirst, hsecond, hthird, hfourth, hfifth⟩ :=
    htext.groups
  rw [htext]
  exact .grouped (.more hfirst.isDigits (.more hsecond.isDigits (.more hthird.isDigits
    (.more hfourth.isDigits (.last hfifth.isDigits)))))

/-- Identifiers consist of lower-case digits and hyphens. -/
theorem IsRandomForm.char {text : String} (htext : IsRandomForm text) {c : Char}
    (hc : c ∈ text.toList) : isLowerHexDigit c = true ∨ c = '-' := by
  obtain ⟨first, second, third, fourth, fifth, htext, hfirst, hsecond, hthird, hfourth, hfifth⟩ :=
    htext.groups
  rw [htext] at hc
  simp only [List.mem_append, List.mem_cons] at hc
  rcases hc with hc | hc | hc | hc | hc | hc | hc | hc | hc
  · exact .inl (hfirst.digits c hc)
  · exact .inr hc
  · exact .inl (hsecond.digits c hc)
  · exact .inr hc
  · exact .inl (hthird.digits c hc)
  · exact .inr hc
  · exact .inl (hfourth.digits c hc)
  · exact .inr hc
  · exact .inl (hfifth.digits c hc)

end QuizCompiler.Random.Uuid

namespace QuizCompiler.Quiz

open QuizCompiler.Random QuizCompiler.Text

/-! ## Single names -/

/-- A name that is drawn was not issued before, and is an identifier behind its mark. -/
theorem drawName_eq_some {words : Words} {patience start stop : Nat} {issued : List String}
    {mark name : String}
    (hname : drawName words patience issued mark start = some (name, stop)) :
    name ∉ issued ∧ ∃ id, name = mark ++ id ∧ Uuid.IsRandomForm id := by
  obtain ⟨k, -, -, hread, -⟩ := drawUntil_eq_some.mp hname
  dsimp only at hread
  split at hread
  next => cases hread
  next hnew =>
    obtain rfl := Option.some.inj hread
    exact ⟨by simpa using hnew, _, rfl, Uuid.isRandomForm_ofRandom _⟩

/-- A random identifier behind the mark is accepted. -/
theorem isGeneratedName_supplementMark_append {id : String} (hid : Uuid.IsRandomForm id) :
    isGeneratedName (supplementMark ++ id) = true :=
  (isGeneratedName_marked id).mpr (Uuid.isForm_of_isRandomForm hid)

theorem isGeneratedName_of_isRandomForm {id : String} (hid : Uuid.IsRandomForm id) :
    isGeneratedName id = true := by
  have hform := Uuid.isForm_of_isRandomForm hid
  apply (isGeneratedName_unmarked _).mpr hform
  rintro rest rfl
  exact not_isForm_marked rest hform

/-! ## Expressions -/

/-- An expression mentions a name by setting it between braces. -/
def Mentions (expression name : String) : Prop := OccursIn ("\x7b" ++ name ++ "\x7d") expression

/-- The expression for a name without braces mentions this name only. -/
theorem mentions_unansweredExpression_iff {own name : String} (hopen : '\x7b' ∉ own.toList)
    (hclose : '\x7d' ∉ own.toList) :
    Mentions (unansweredExpression own) name ↔ name = own := by
  constructor
  · rintro ⟨before, after, htext⟩
    have hchars : [] ++ '\x7b' :: (own.toList ++ '\x7d' :: [' ', 'e', 'm', 'p', 't', 'y']) =
        before.toList ++ '\x7b' :: (name.toList ++ '\x7d' :: after.toList) := by
      simpa [unansweredExpression] using congrArg String.toList htext
    obtain ⟨-, -, hrest⟩ := (List.append_cons_inj_of_notMem (by simp) (by simp [hopen])).mp hchars
    obtain ⟨hname, -, -⟩ := (List.append_cons_inj_of_notMem hclose (by decide)).mp hrest
    exact (String.toList_inj.mp hname).symm
  · rintro rfl
    exact ⟨"", " empty", by simp [unansweredExpression, String.append_assoc]⟩

/-! ## The names of a document -/

/-- New names: no two of them are equal, and none was issued before. -/
structure NewNames (issued names : List String) : Prop where
  nodup : names.Nodup
  unissued : ∀ name ∈ names, name ∉ issued

theorem NewNames.nil (issued : List String) : NewNames issued [] := ⟨List.nodup_nil, by simp⟩

/-- Names that are new after others were issued are new together with them. -/
theorem NewNames.append {issued first second : List String} (hfirst : NewNames issued first)
    (hsecond : NewNames (first.reverse ++ issued) second) : NewNames issued (first ++ second) := by
  refine ⟨List.nodup_append'.mpr ⟨hfirst.nodup, hsecond.nodup, ?_⟩, ?_⟩
  · intro name hname hagain
    exact hsecond.unissued name hagain (by simp [hname])
  · intro name hname
    rcases List.mem_append.mp hname with hname | hname
    · exact hfirst.unissued name hname
    · exact fun hissued => hsecond.unissued name hname (by simp [hissued])

theorem NewNames.singleton {issued : List String} {name : String} (hname : name ∉ issued) :
    NewNames issued [name] := ⟨List.nodup_singleton name, by simpa using hname⟩

/-- A markup is named by an identifier behind the mark of supplements. A prompt is named by an
identifier, and enabled as long as it is not answered. -/
def Element.WellNamed : Element → Prop
  | markup element => ∃ id, element.name = supplementMark ++ id ∧ Uuid.IsRandomForm id
  | prompt element =>
    Uuid.IsRandomForm element.name ∧ element.enabledIf = unansweredExpression element.name

theorem Element.WellNamed.isGeneratedName {element : Element} (hnamed : element.WellNamed) :
    isGeneratedName element.name = true := by
  cases element with
  | markup element =>
      obtain ⟨id, hname, hid⟩ := hnamed
      rw [Element.name, hname]
      exact isGeneratedName_supplementMark_append hid
  | prompt element => exact isGeneratedName_of_isRandomForm hnamed.1

/-- There are no braces in an identifier, which would end an expression early. -/
theorem not_brace_of_isRandomForm {id : String} (hid : Uuid.IsRandomForm id) {c : Char}
    (hc : c ∈ id.toList) : c ≠ '\x7b' ∧ c ≠ '\x7d' := by
  constructor
  · rintro rfl
    have hchar := hid.char hc
    simp [Uuid.isLowerHexDigit] at hchar
  · rintro rfl
    have hchar := hid.char hc
    simp [Uuid.isLowerHexDigit] at hchar

theorem Element.WellNamed.not_brace {element : Element} (hnamed : element.WellNamed) :
    ∀ c ∈ element.name.toList, c ≠ '\x7b' ∧ c ≠ '\x7d' := by
  intro c hc
  cases element with
  | markup element =>
      obtain ⟨id, hname, hid⟩ := hnamed
      rw [Element.name, hname, String.toList_append, List.mem_append] at hc
      rcases hc with hc | hc
      · have hmark : ∀ c ∈ supplementMark.toList, c ≠ '\x7b' ∧ c ≠ '\x7d' := by
          simp [supplementMark]
        exact hmark c hc
      · exact not_brace_of_isRandomForm hid hc
  | prompt element => exact not_brace_of_isRandomForm hnamed.1 hc

theorem wellNamed_prompt {question : Question} {name : String}
    (hname : ∃ id, name = "" ++ id ∧ Uuid.IsRandomForm id) :
    (Element.prompt (question.prompt name)).WellNamed := by
  obtain ⟨id, rfl, hid⟩ := hname
  rw [String.empty_append]
  exact ⟨hid, rfl⟩

section Drawing

variable {words : Words} {patience start stop : Nat}

/-- The names of a page are new, and are issued when it is drawn. -/
theorem drawPage_names {issued more : List String} {question : Question} {page : Page}
    (hpage : drawPage words patience issued question start = some ((page, more), stop)) :
    more = (page.elements.map Element.name).reverse ++ issued ∧
      NewNames issued (page.elements.map Element.name) ∧
      ∀ element ∈ page.elements, element.WellNamed := by
  unfold drawPage at hpage
  cases hsupplement : question.supplement with
  | none =>
      simp only [hsupplement, Draw.bind_eq_some, Draw.pure_eq_some, Prod.mk.injEq] at hpage
      obtain ⟨name, _, hname, ⟨rfl, rfl⟩, -⟩ := hpage
      obtain ⟨hnew, hform⟩ := drawName_eq_some hname
      refine ⟨rfl, .singleton hnew, ?_⟩
      intro element helement
      obtain rfl := List.mem_singleton.mp helement
      exact wellNamed_prompt hform
  | some html =>
      simp only [hsupplement, Draw.bind_eq_some, Draw.pure_eq_some, Prod.mk.injEq] at hpage
      obtain ⟨mark, _, hmark, name, _, hname, ⟨rfl, rfl⟩, -⟩ := hpage
      obtain ⟨hmarkNew, hmarkForm⟩ := drawName_eq_some hmark
      obtain ⟨hnameNew, hnameForm⟩ := drawName_eq_some hname
      refine ⟨rfl, (NewNames.singleton hmarkNew).append (.singleton hnameNew), ?_⟩
      intro element helement
      rcases List.mem_cons.mp helement with rfl | helement
      · exact hmarkForm
      · obtain rfl := List.mem_singleton.mp helement
        exact wellNamed_prompt hnameForm

/-- The names of all pages are new. -/
theorem drawPages_names {issued : List String} {questions : List Question} {pages : List Page}
    (hpages : drawPages words patience issued questions start = some (pages, stop)) :
    NewNames issued ((pages.flatMap Page.elements).map Element.name) ∧
      ∀ element ∈ pages.flatMap Page.elements, element.WellNamed := by
  induction questions generalizing issued pages start stop with
  | nil =>
      obtain ⟨rfl, -⟩ := Draw.pure_eq_some.mp hpages
      exact ⟨.nil issued, by simp⟩
  | cons question questions ih =>
      simp only [drawPages, Draw.bind_eq_some, Draw.pure_eq_some] at hpages
      obtain ⟨⟨page, more⟩, _, hpage, others, _, hothers, rfl, -⟩ := hpages
      obtain ⟨rfl, hnew, hnamed⟩ := drawPage_names hpage
      obtain ⟨hothersNew, hothersNamed⟩ := ih hothers
      rw [List.flatMap_cons]
      refine ⟨?_, ?_⟩
      · rw [List.map_append]
        exact hnew.append hothersNew
      · intro element helement
        rcases List.mem_append.mp helement with helement | helement
        · exact hnamed element helement
        · exact hothersNamed element helement

end Drawing

/-- An assembled document names its elements differently, each by a random identifier. The name
of a markup has a mark before it. All these names are recognised and free of braces, and
the expression that enables a prompt mentions the name of this prompt and no other. -/
theorem assemble_names (words : Words) (patience start stop : Nat) (title : String)
    (questions : List Question) (config : Config) (document : Document)
    (hrun : assemble words patience title questions config start = some (document, stop)) :
    document.elementNames.Nodup ∧
      ∀ element ∈ document.elements,
        isGeneratedName element.name = true ∧
        (∀ c ∈ element.name.toList, c ≠ '\x7b' ∧ c ≠ '\x7d') ∧
        match element with
        | .markup markup => ∃ id, markup.name = "meta" ++ id ∧ Uuid.IsRandomForm id
        | .prompt prompt =>
          Uuid.IsRandomForm prompt.name ∧
            prompt.enabledIf = "\x7b" ++ prompt.name ++ "\x7d empty" ∧
            ∀ name, Mentions prompt.enabledIf name ↔ name = prompt.name := by
  obtain ⟨swaps, middle, pages, -, hpages, rfl⟩ := assemble_eq_some.mp hrun
  obtain ⟨hnew, hnamed⟩ := drawPages_names hpages
  refine ⟨hnew.nodup, ?_⟩
  intro element helement
  have hwell := hnamed element helement
  have hbraces := hwell.not_brace
  refine ⟨hwell.isGeneratedName, hbraces, ?_⟩
  cases element with
  | markup markup => exact hwell
  | prompt prompt =>
      obtain ⟨hform, henabled⟩ := hwell
      refine ⟨hform, henabled, fun name => ?_⟩
      rw [henabled]
      exact mentions_unansweredExpression_iff (fun hopen => (hbraces _ hopen).1 rfl)
        (fun hclose => (hbraces _ hclose).2 rfl)

/-- A stream that supplies the same bytes many times. -/
def slowWords : Words := fun i => UInt32.ofNat (i / 49)

/-- The identifier of a supplement may be drawn again for a prompt, but not for a second one. -/
theorem assemble_names_repeated_bytes :
    ∃ document stop,
      assemble slowWords 2 "T" twoQuestions Config.default 0 = some (document, stop) ∧
      document.elementNames = ["meta00000000-0000-4000-8000-000000000000",
        "00000000-0000-4000-8000-000000000000", "01010101-0101-4101-8101-010101010101"] ∧
      document.elementNames.Nodup ∧
      ∀ element ∈ document.elements, isGeneratedName element.name = true := by
  have hnames : ((assemble slowWords 2 "T" twoQuestions Config.default 0).map fun run =>
      run.1.elementNames) = some ["meta00000000-0000-4000-8000-000000000000",
        "00000000-0000-4000-8000-000000000000", "01010101-0101-4101-8101-010101010101"] := by
    decide +kernel
  obtain ⟨⟨document, stop⟩, hrun, hnames⟩ := Option.map_eq_some_iff.mp hnames
  obtain ⟨hnodup, hnamed⟩ := assemble_names slowWords 2 0 stop "T" twoQuestions Config.default
    document hrun
  exact ⟨document, stop, hrun, hnames, hnodup, fun element helement => (hnamed element helement).1⟩

end QuizCompiler.Quiz
