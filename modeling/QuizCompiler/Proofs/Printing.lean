import QuizCompiler.Json.Printer
import QuizCompiler.Proofs.Grammar

/-! # Printed values

What is printed for a value is a text of the grammar that denotes this value, however deep
the value stands.
-/

namespace QuizCompiler.Json

open QuizCompiler.Text

/-! ## Blanks -/

theorem isBlank_newLine (depth : Nat) : IsBlank (newLine depth) := by
  intro c hc
  rcases List.mem_cons.mp hc with rfl | hc
  · simp
  · simp [List.eq_of_mem_replicate hc]

theorem isBlank_nil : IsBlank [] := by simp [IsBlank]

theorem isBlank_space : IsBlank [' '] := by simp [IsBlank]

/-! ## Texts -/

/-- The digits of a control character are read as its number. -/
theorem fourDigits?_lowerHexDigit {n : Nat} (hn : n < 0x20) :
    fourDigits? '0' '0' (lowerHexDigit (n / 16)) (lowerHexDigit (n % 16)) = some n := by
  have hall : ∀ n < 0x20,
      fourDigits? '0' '0' (lowerHexDigit (n / 16)) (lowerHexDigit (n % 16)) = some n := by decide
  exact hall n hn

/-- Every character is written in a way that spells it. -/
theorem Spells.escapeChar_append {spelled chars : List Char} (c : Char)
    (hspells : Spells spelled chars) : Spells (escapeChar c ++ spelled) (c :: chars) := by
  unfold escapeChar
  split_ifs with hquote hslash hback htab hfeed hform hreturn hcontrol
  · exact .escape (by simp [hquote, escapes]) hspells
  · exact .escape (by simp [hslash, escapes]) hspells
  · exact .escape (by simp [hback, escapes]) hspells
  · exact .escape (by simp [htab, escapes]) hspells
  · exact .escape (by simp [hfeed, escapes]) hspells
  · exact .escape (by simp [hform, escapes]) hspells
  · exact .escape (by simp [hreturn, escapes]) hspells
  · have hunit := Spells.unit (fourDigits?_lowerHexDigit hcontrol) (by omega) hspells
    rwa [Char.ofNat_toNat] at hunit
  · exact .plain hquote hslash (by omega) hspells

/-- Escaped character by character, a text is spelled. -/
theorem spells_flatMap_escapeChar (chars : List Char) :
    Spells (chars.flatMap escapeChar) chars := by
  induction chars with
  | nil => exact .nil
  | cons c chars ih => exact ih.escapeChar_append c

theorem denotesBare_quoted (text : String) : DenotesBare (quoted text) (.text text) := by
  have htext := DenotesBare.text (spells_flatMap_escapeChar text.toList)
  rwa [String.ofList_toList] at htext

theorem denotesKey_quoted {before : List Char} (hbefore : IsBlank before) (key : String) :
    DenotesKey (before ++ quoted key) key := by
  have hkey := DenotesKey.key hbefore (spells_flatMap_escapeChar key.toList) isBlank_nil
  rwa [String.ofList_toList] at hkey

/-! ## Values -/

mutual

/-- A value whose numbers are written as numbers. -/
def WellWritten : Json → Prop
  | null => True
  | bool _ => True
  | number literal => IsNumber literal.toList
  | text _ => True
  | list items => WellWrittenItems items
  | object members => WellWrittenMembers members

/-- Items whose numbers are written as numbers. -/
def WellWrittenItems : List Json → Prop
  | [] => True
  | item :: items => WellWritten item ∧ WellWrittenItems items

/-- Members whose numbers are written as numbers. -/
def WellWrittenMembers : List (String × Json) → Prop
  | [] => True
  | (_, value) :: members => WellWritten value ∧ WellWrittenMembers members

end

theorem wellWrittenItems_map {α : Type} {write : α → Json} (hwrite : ∀ x, (write x).WellWritten)
    (xs : List α) : WellWrittenItems (xs.map write) := by
  induction xs with
  | nil => trivial
  | cons x xs ih => exact ⟨hwrite x, ih⟩

mutual

/-- A value that is printed at any depth denotes itself: margins and line ends are blanks between
its parts. -/
theorem denotesBare_prettyChars (depth : Nat) :
    ∀ value : Json, value.WellWritten → DenotesBare (prettyChars depth value) value
  | null, _ => .null
  | bool true, _ => .true
  | bool false, _ => .false
  | number literal, hnumber => by
      have hliteral := DenotesBare.number hnumber
      rwa [String.ofList_toList] at hliteral
  | text value, _ => denotesBare_quoted value
  | list [], _ => .emptyList isBlank_nil
  | list (item :: items), ⟨hitem, hitems⟩ => by
      obtain ⟨inner, hinner, hdenotes⟩ := denotesItems_prettyItems depth items hitems
        (isBlank_newLine (depth + 1)) (denotesBare_prettyChars (depth + 1) item hitem)
      rw [prettyChars, hinner]
      exact .list hdenotes
  | object [], _ => .emptyObject isBlank_nil
  | object ((key, value) :: members), ⟨hvalue, hmembers⟩ => by
      obtain ⟨inner, hinner, hdenotes⟩ := denotesMembers_prettyMembers depth members hmembers key
        (isBlank_newLine (depth + 1)) (denotesBare_prettyChars (depth + 1) value hvalue)
      rw [prettyChars, hinner]
      exact .object hdenotes

/-- A printed item, the further items after it and the end of the list. -/
theorem denotesItems_prettyItems (depth : Nat) :
    ∀ items : List Json, WellWrittenItems items → ∀ {before bare : List Char} {item : Json},
      IsBlank before → DenotesBare bare item →
        ∃ inner, before ++ bare ++ prettyItems depth items = inner ++ [']'] ∧
          DenotesItems inner (item :: items)
  | [], _, before, bare, item, hbefore, hitem => by
      refine ⟨before ++ (bare ++ newLine depth), by simp [prettyItems], ?_⟩
      exact .last (.blanks hbefore hitem (isBlank_newLine depth))
  | next :: items, ⟨hnext, hitems⟩, before, bare, item, hbefore, hitem => by
      obtain ⟨inner, hinner, hdenotes⟩ := denotesItems_prettyItems depth items hitems
        (isBlank_newLine (depth + 1)) (denotesBare_prettyChars (depth + 1) next hnext)
      refine ⟨before ++ (bare ++ []) ++ ',' :: inner, ?_, ?_⟩
      · rw [prettyItems, hinner]
        simp
      · exact .more (.blanks hbefore hitem isBlank_nil) hdenotes

/-- A printed member, the further members after it and the end of the object. -/
theorem denotesMembers_prettyMembers (depth : Nat) :
    ∀ members : List (String × Json), WellWrittenMembers members → ∀ (key : String)
      {before bare : List Char} {value : Json}, IsBlank before → DenotesBare bare value →
        ∃ inner, before ++ quoted key ++ [':', ' '] ++ bare ++ prettyMembers depth members =
            inner ++ ['\x7d'] ∧
          DenotesMembers inner ((key, value) :: members)
  | [], _, key, before, bare, value, hbefore, hvalue => by
      refine ⟨before ++ quoted key ++ ':' :: ([' '] ++ (bare ++ newLine depth)),
        by simp [prettyMembers], ?_⟩
      exact .last (denotesKey_quoted hbefore key)
        (.blanks isBlank_space hvalue (isBlank_newLine depth))
  | (next, nextValue) :: members, ⟨hnext, hmembers⟩, key, before, bare, value, hbefore,
      hvalue => by
      obtain ⟨inner, hinner, hdenotes⟩ := denotesMembers_prettyMembers depth members hmembers next
        (isBlank_newLine (depth + 1)) (denotesBare_prettyChars (depth + 1) nextValue hnext)
      refine ⟨before ++ quoted key ++ ':' :: ([' '] ++ (bare ++ []) ++ ',' :: inner), ?_, ?_⟩
      · rw [prettyMembers, hinner]
        simp
      · exact .more (denotesKey_quoted hbefore key) (.blanks isBlank_space hvalue isBlank_nil)
          hdenotes

end

/-- A printed value denotes itself. -/
theorem denotes_pretty {value : Json} (hvalue : value.WellWritten) :
    Denotes value.pretty.toList value := by
  have hbare := denotesBare_prettyChars 0 value hvalue
  rw [pretty, String.toList_ofList]
  simpa using Denotes.blanks isBlank_nil hbare isBlank_nil

end QuizCompiler.Json
