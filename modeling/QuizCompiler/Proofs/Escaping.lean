import QuizCompiler.Proofs.Validation

/-! # Escaped text

Text that is escaped for HTML has nothing in it that could be taken for markup, and it can be read
back. A heading that a section keeps as HTML therefore shows its own text and no other.
-/

namespace QuizCompiler.Text

/-! ## Single characters -/

/-- The references that escaped text may contain. -/
def references : List (List Char) :=
  [['&', 'a', 'm', 'p', ';'], ['&', 'l', 't', ';'], ['&', 'g', 't', ';'],
    ['&', 'q', 'u', 'o', 't', ';']]

/-- How a character is written where it shall not be markup. -/
inductive WrittenAs : Char → List Char → Prop
  | ampersand : WrittenAs '&' ['&', 'a', 'm', 'p', ';']
  | less : WrittenAs '<' ['&', 'l', 't', ';']
  | greater : WrittenAs '>' ['&', 'g', 't', ';']
  | quote : WrittenAs '\x22' ['&', 'q', 'u', 'o', 't', ';']
  | plain {c : Char} (hc : c ∉ ['&', '<', '>', '\x22']) : WrittenAs c [c]

/-- Each character is written in one of the ways that there are. -/
theorem writtenAs_attributeReference? (c : Char) :
    WrittenAs c ((attributeReference? c).getD [c]) := by
  by_cases hampersand : c = '&'
  · subst hampersand
    exact .ampersand
  by_cases hless : c = '<'
  · subst hless
    exact .less
  by_cases hgreater : c = '>'
  · subst hgreater
    exact .greater
  by_cases hquote : c = '\x22'
  · subst hquote
    exact .quote
  have hnone : attributeReference? c = none := by
    simp [attributeReference?, hampersand, hless, hgreater, hquote]
  rw [hnone]
  exact .plain (by simp [hampersand, hless, hgreater, hquote])

/-- The text that is read from HTML if the references in it are resolved. -/
def resolved : List Char → List Char
  | '&' :: 'a' :: 'm' :: 'p' :: ';' :: rest => '&' :: resolved rest
  | '&' :: 'l' :: 't' :: ';' :: rest => '<' :: resolved rest
  | '&' :: 'g' :: 't' :: ';' :: rest => '>' :: resolved rest
  | '&' :: 'q' :: 'u' :: 'o' :: 't' :: ';' :: rest => '\x22' :: resolved rest
  | c :: rest => c :: resolved rest
  | [] => []

theorem resolved_cons {c : Char} (hc : c ≠ '&') (rest : List Char) :
    resolved (c :: rest) = c :: resolved rest := by
  rw [resolved] <;> simp [hc]

namespace WrittenAs

variable {c : Char} {part : List Char}

theorem no_markup (hwritten : WrittenAs c part) :
    ∀ d ∈ part, d ≠ '<' ∧ d ≠ '>' ∧ d ≠ '\x22' := by
  cases hwritten with
  | plain hc =>
      intro d hd
      obtain rfl := List.mem_singleton.mp hd
      simp only [List.mem_cons, not_or] at hc
      exact ⟨hc.2.1, hc.2.2.1, hc.2.2.2.1⟩
  | _ => simp

/-- An ampersand is written only where a reference begins. -/
theorem ampersand_first (hwritten : WrittenAs c part) {before after : List Char}
    (hpart : part = before ++ '&' :: after) : before = [] ∧ part ∈ references := by
  have htail : '&' ∉ part.tail := by
    cases hwritten <;> simp
  have hbefore : before = [] := by
    cases before with
    | nil => rfl
    | cons d before => exact absurd (by simp [hpart]) htail
  refine ⟨hbefore, ?_⟩
  subst hbefore
  cases hwritten with
  | plain hc =>
      obtain ⟨rfl, -⟩ := List.cons.inj hpart
      exact absurd (by simp) hc
  | _ => decide

/-- The way in which a character is written resolves to it, whatever follows. -/
theorem resolved_append (hwritten : WrittenAs c part) (rest : List Char) :
    resolved (part ++ rest) = c :: resolved rest := by
  cases hwritten with
  | plain hc =>
      apply resolved_cons
      rintro rfl
      exact hc (by simp)
  | _ => rfl

end WrittenAs

/-! ## Whole texts -/

/-- HTML that shows a text and nothing else. There is no markup in it, each ampersand begins a
reference, and the text is what they resolve to. -/
structure ShowsText (html text : List Char) : Prop where
  no_markup : ∀ c ∈ html, c ≠ '<' ∧ c ≠ '>' ∧ c ≠ '\x22'
  ampersands : ∀ before after, html = before ++ '&' :: after →
    ∃ reference ∈ references, reference <+: '&' :: after
  resolved_eq : resolved html = text

theorem ShowsText.nil : ShowsText [] [] := by
  refine ⟨by simp, ?_, rfl⟩
  intro before after hnil
  simp at hnil

/-- A text is shown if its first character is and the others are. -/
theorem ShowsText.cons {c : Char} {part html text : List Char} (hwritten : WrittenAs c part)
    (hshows : ShowsText html text) : ShowsText (part ++ html) (c :: text) := by
  refine ⟨?_, ?_, ?_⟩
  · intro d hd
    rcases List.mem_append.mp hd with hd | hd
    · exact hwritten.no_markup d hd
    · exact hshows.no_markup d hd
  · intro before after hsplit
    rcases List.append_eq_append_iff.mp hsplit with ⟨more, -, hhtml⟩ | ⟨more, hpart, hafter⟩
    · exact hshows.ampersands more after hhtml
    · cases more with
      | nil => exact hshows.ampersands [] after hafter.symm
      | cons d more =>
          obtain ⟨rfl, rfl⟩ := List.cons.inj hafter
          obtain ⟨rfl, hmem⟩ := hwritten.ampersand_first hpart
          exact ⟨part, hmem, html, by rw [hpart]; rfl⟩
  · rw [hwritten.resolved_append, hshows.resolved_eq]

/-- Escaping in one pass shows the text, character by character. -/
theorem showsText_escapeAttribute (s : String) :
    ShowsText (escapeAttribute s).toList s.toList := by
  rw [escapeAttribute, String.toList_ofList]
  induction s.toList with
  | nil => exact .nil
  | cons c rest ih => exact .cons (writtenAs_attributeReference? c) ih

end QuizCompiler.Text

namespace QuizCompiler.Quiz

open QuizCompiler.Text

/-- Escaping one kind of character after the other comes to the same as escaping each character
once, and what is escaped shows the text that it was made of. So does a heading that stands in a
section: the paragraph that it is kept as shows its text, between what the other blocks are kept
as. -/
theorem escapeInTurn_shows_text (s : String) :
    escapeInTurn s = escapeAttribute s ∧
      ShowsText (escapeInTurn s).toList s.toList ∧
      ∀ (part : Section) (level : Nat) (before after : List Block),
        part.content = before ++ .heading level s :: after →
        ∃ html, ShowsText html.toList s.toList ∧
          (Draft.ofSection part).value.supplement =
            String.join (before.map Block.supplement) ++ ("<p>" ++ html ++ "</p>\n") ++
              String.join (after.map Block.supplement) := by
  have hshows : ShowsText (escapeInTurn s).toList s.toList := by
    rw [escapeInTurn_eq_escapeAttribute]
    exact showsText_escapeAttribute s
  refine ⟨escapeInTurn_eq_escapeAttribute s, hshows, ?_⟩
  intro part level before after hcontent
  refine ⟨escapeInTurn s, hshows, ?_⟩
  rw [Draft.value_ofSection, Draft.describedBy, hcontent, List.map_append, List.map_cons,
    String.join_append, String.join_cons, String.append_assoc]
  rfl

/-- A section with a heading that already contains a reference. -/
def headedSection : Section :=
  ⟨"Q", 1, [.other "<hr />\n", .heading 1 "&lt;b> &amp; \x22", .quote "d", .other "<p>e</p>\n"]⟩

/-- The ampersand of a reference is escaped like any other, and only once. -/
theorem escapeInTurn_shows_reference :
    escapeInTurn "&lt;b> &amp; \x22" = "&amp;lt;b&gt; &amp;amp; &quot;" ∧
      resolved (escapeInTurn "&lt;b> &amp; \x22").toList = "&lt;b> &amp; \x22".toList ∧
      ∃ html, ShowsText html.toList "&lt;b> &amp; \x22".toList ∧
        (Draft.ofSection headedSection).value.supplement =
          "<hr />\n" ++ ("<p>" ++ html ++ "</p>\n") ++ "<p>e</p>\n" := by
  obtain ⟨hescape, hshows, hsection⟩ := escapeInTurn_shows_text "&lt;b> &amp; \x22"
  obtain ⟨html, hhtml, hsupplement⟩ :=
    hsection headedSection 1 [.other "<hr />\n"] [.quote "d", .other "<p>e</p>\n"] rfl
  refine ⟨?_, hshows.resolved_eq, html, hhtml, hsupplement⟩
  rw [hescape]
  decide

end QuizCompiler.Quiz
