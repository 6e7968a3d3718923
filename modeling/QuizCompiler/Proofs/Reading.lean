import QuizCompiler.Proofs.Grammar

/-! # Reading what the grammar allows

The reader takes every text of the grammar and returns the value that it denotes, so no
text denotes two values.
-/

namespace QuizCompiler.Json

/-! ## Values

One lemma for each way in which a value, a list of items or a list of members can go on.
Blanks before any of them are skipped, so none of these lemmas speaks of them. -/

/-- A value is read behind blanks, whatever they are. -/
theorem readValue_congr {text other : List Char} (hskip : skipBlank text = skipBlank other)
    (fuel : Nat) : readValue fuel text = readValue fuel other := by
  cases fuel with
  | zero => rfl
  | succ fuel => rw [readValue, readValue, hskip]

theorem readItems_congr {text other : List Char} (hskip : skipBlank text = skipBlank other)
    (fuel : Nat) : readItems fuel text = readItems fuel other := by
  cases fuel with
  | zero => rfl
  | succ fuel => rw [readItems, readItems, readValue_congr hskip]

theorem readMembers_congr {text other : List Char} (hskip : skipBlank text = skipBlank other)
    (fuel : Nat) : readMembers fuel text = readMembers fuel other := by
  cases fuel with
  | zero => rfl
  | succ fuel => rw [readMembers, readMembers, hskip]

theorem skipBlank_blank_cons {blank rest : List Char} {c : Char} (hblank : IsBlank blank)
    (hc : isJsonBlank c = false) : skipBlank (blank ++ c :: rest) = c :: rest := by
  rw [skipBlank_of_isBlank hblank, skipBlank_cons hc]

theorem readValue_number {literal rest : List Char} (hnumber : IsNumber literal)
    (hrest : EndsNumber rest) (fuel : Nat) :
    readValue (fuel + 1) (literal ++ rest) = some (.number (String.ofList literal), rest) := by
  have hread := readNumber_append hnumber hrest
  obtain ⟨c, tail, rfl, hc⟩ := hnumber.head
  -- the characters that begin a value of another kind, or none at all
  have hother : c ∉ [' ', '\n', '\r', '\t', '\x22', '[', '\x7b', 't', 'f', 'n'] := by
    intro hmem
    have hall : ∀ d ∈ [' ', '\n', '\r', '\t', '\x22', '[', '\x7b', 't', 'f', 'n'],
        d.isDigit = false ∧ d ≠ '-' := by simp
    obtain ⟨hdigit, hminus⟩ := hall c hmem
    rcases hc with hc | hc
    · rw [hdigit] at hc
      cases hc
    · exact hminus hc
  simp only [List.mem_cons, List.not_mem_nil, or_false, not_or] at hother
  obtain ⟨hspace, hfeed, hreturn, htab, hquote, hbracket, hbrace, ht, hf, hn⟩ := hother
  have hblank : isJsonBlank c = false := by simp [isJsonBlank, hspace, hfeed, hreturn, htab]
  rw [readValue, List.cons_append, skipBlank_cons hblank]
  split
  next heq => exact absurd (List.cons.inj heq).1 hquote
  next heq => exact absurd (List.cons.inj heq).1 hbracket
  next heq => exact absurd (List.cons.inj heq).1 hbrace
  next heq => exact absurd (List.cons.inj heq).1 ht
  next heq => exact absurd (List.cons.inj heq).1 hf
  next heq => exact absurd (List.cons.inj heq).1 hn
  next => exact hread

theorem readValue_text {spelled chars : List Char} (hspells : Spells spelled chars)
    (rest : List Char) (fuel : Nat) :
    readValue (fuel + 1) ('\x22' :: (spelled ++ '\x22' :: rest)) =
      some (.text (String.ofList chars), rest) := by
  rw [readValue, skipBlank_cons rfl]
  simp only [readText_of_spells hspells, Option.map_some]

theorem readValue_emptyList {blank : List Char} (hblank : IsBlank blank) (rest : List Char)
    (fuel : Nat) :
    readValue (fuel + 1) ('[' :: (blank ++ ']' :: rest)) = some (.list [], rest) := by
  rw [readValue, skipBlank_cons rfl]
  simp only [skipBlank_blank_cons hblank (c := ']') rfl]

theorem readValue_emptyObject {blank : List Char} (hblank : IsBlank blank) (rest : List Char)
    (fuel : Nat) :
    readValue (fuel + 1) ('\x7b' :: (blank ++ '\x7d' :: rest)) = some (.object [], rest) := by
  rw [readValue, skipBlank_cons rfl]
  simp only [skipBlank_blank_cons hblank (c := '\x7d') rfl]

/-- No item begins with the bracket that ends a list. -/
theorem readItems_close (fuel : Nat) (rest : List Char) : readItems fuel (']' :: rest) = none := by
  cases fuel with
  | zero => rfl
  | succ fuel =>
      have hvalue : readValue fuel (']' :: rest) = none := by
        cases fuel with
        | zero => rfl
        | succ fuel => rfl
      rw [readItems, hvalue]

/-- No member begins with the brace that ends an object. -/
theorem readMembers_close (fuel : Nat) (rest : List Char) :
    readMembers fuel ('\x7d' :: rest) = none := by
  cases fuel with
  | zero => rfl
  | succ fuel => rfl

theorem readValue_list {fuel : Nat} {text rest : List Char} {items : List Json}
    (hitems : readItems fuel text = some (items, rest)) :
    readValue (fuel + 1) ('[' :: text) = some (.list items, rest) := by
  have hskipped : readItems fuel (skipBlank text) = some (items, rest) := by
    rw [readItems_congr (skipBlank_skipBlank text), hitems]
  rw [readValue, skipBlank_cons rfl]
  simp only
  split
  next heq =>
    rw [heq, readItems_close] at hskipped
    cases hskipped
  next => rw [hskipped, Option.map_some]

theorem readValue_object {fuel : Nat} {text rest : List Char} {members : List (String × Json)}
    (hmembers : readMembers fuel text = some (members, rest)) :
    readValue (fuel + 1) ('\x7b' :: text) = some (.object members, rest) := by
  have hskipped : readMembers fuel (skipBlank text) = some (members, rest) := by
    rw [readMembers_congr (skipBlank_skipBlank text), hmembers]
  rw [readValue, skipBlank_cons rfl]
  simp only
  split
  next heq =>
    rw [heq, readMembers_close] at hskipped
    cases hskipped
  next => rw [hskipped, Option.map_some]

theorem readItems_last {fuel : Nat} {text blank rest : List Char} {item : Json}
    (hblank : IsBlank blank) (hitem : readValue fuel text = some (item, blank ++ ']' :: rest)) :
    readItems (fuel + 1) text = some ([item], rest) := by
  rw [readItems, hitem]
  simp only [skipBlank_blank_cons hblank (c := ']') rfl]

theorem readItems_more {fuel : Nat} {text blank next rest : List Char} {item : Json}
    {items : List Json} (hblank : IsBlank blank)
    (hitem : readValue fuel text = some (item, blank ++ ',' :: next))
    (hitems : readItems fuel next = some (items, rest)) :
    readItems (fuel + 1) text = some (item :: items, rest) := by
  rw [readItems, hitem]
  simp only [skipBlank_blank_cons hblank (c := ',') rfl, hitems, Option.map_some]

theorem readMembers_last {fuel : Nat} {key text blank rest : List Char} {name : String}
    {value : Json} (hkey : DenotesKey key name) (hblank : IsBlank blank)
    (hvalue : readValue fuel text = some (value, blank ++ '\x7d' :: rest)) :
    readMembers (fuel + 1) (key ++ ':' :: text) = some ([(name, value)], rest) := by
  obtain ⟨hbefore, hspells, hafter⟩ := hkey
  simp only [List.append_assoc, List.cons_append]
  rw [readMembers, skipBlank_blank_cons hbefore rfl]
  simp only [readText_of_spells hspells, skipBlank_blank_cons hafter (c := ':') rfl, hvalue,
    skipBlank_blank_cons hblank (c := '\x7d') rfl]

theorem readMembers_more {fuel : Nat} {key text blank next rest : List Char} {name : String}
    {value : Json} {members : List (String × Json)} (hkey : DenotesKey key name)
    (hblank : IsBlank blank)
    (hvalue : readValue fuel text = some (value, blank ++ ',' :: next))
    (hmembers : readMembers fuel next = some (members, rest)) :
    readMembers (fuel + 1) (key ++ ':' :: text) = some ((name, value) :: members, rest) := by
  obtain ⟨hbefore, hspells, hafter⟩ := hkey
  simp only [List.append_assoc, List.cons_append]
  rw [readMembers, skipBlank_blank_cons hbefore rfl]
  simp only [readText_of_spells hspells, skipBlank_blank_cons hafter (c := ':') rfl, hvalue,
    skipBlank_blank_cons hblank (c := ',') rfl, hmembers, Option.map_some]

/-! ## Completeness

A value of `n` characters is read with `2 * n` steps, and a list of items or members with
two more, since its reader begins with a step of its own. -/

theorem endsNumber_cons {rest : List Char} {c : Char} (hc : isNumberChar c = false) :
    EndsNumber (c :: rest) := by
  simpa [EndsNumber] using hc

theorem EndsNumber.blank_append {blank rest : List Char} (hrest : EndsNumber rest)
    (hblank : IsBlank blank) : EndsNumber (blank ++ rest) := by
  cases blank with
  | nil => exact hrest
  | cons c blank =>
      have hall : ∀ c ∈ [' ', '\n', '\r', '\t'], isNumberChar c = false := by
        simp [isNumberChar]
      exact endsNumber_cons (hall c (hblank c List.mem_cons_self))

mutual

/-- A text that denotes a value is read as that value, with whatever follows left over. Each
character accounts for two steps at most. -/
theorem DenotesBare.readValue_eq {text : List Char} {value : Json} (fuel : Nat)
    (rest : List Char) :
    DenotesBare text value → EndsNumber rest → 2 * text.length ≤ fuel + 1 →
      readValue (fuel + 1) (text ++ rest) = some (value, rest)
  | .null, _, _ => rfl
  | .true, _, _ => rfl
  | .false, _, _ => rfl
  | .number hnumber, hrest, _ => readValue_number hnumber hrest fuel
  | .text hspells, _, _ => by
      simpa using readValue_text hspells rest fuel
  | .emptyList hblank, _, _ => by
      simpa using readValue_emptyList hblank rest fuel
  | .list hitems, _, hfuel => by
      simp only [List.length_cons, List.length_append, List.length_nil] at hfuel
      obtain ⟨fuel, rfl⟩ := Nat.exists_eq_add_of_le' (show 2 ≤ fuel by omega)
      simpa using readValue_list (hitems.readItems_eq fuel rest (by omega))
  | .emptyObject hblank, _, _ => by
      simpa using readValue_emptyObject hblank rest fuel
  | .object hmembers, _, hfuel => by
      simp only [List.length_cons, List.length_append, List.length_nil] at hfuel
      obtain ⟨fuel, rfl⟩ := Nat.exists_eq_add_of_le' (show 2 ≤ fuel by omega)
      simpa using readValue_object (hmembers.readMembers_eq fuel rest (by omega))

/-- Blanks around the text are skipped before it and left over behind it. -/
theorem Denotes.readValue_eq {text : List Char} {value : Json} (fuel : Nat) (rest : List Char) :
    Denotes text value → EndsNumber rest → 2 * text.length ≤ fuel + 1 →
      ∃ blank, IsBlank blank ∧
        readValue (fuel + 1) (text ++ rest) = some (value, blank ++ rest)
  | .blanks hbefore hbare hafter, hrest, hfuel => by
      simp only [List.length_append] at hfuel
      refine ⟨_, hafter, ?_⟩
      rw [List.append_assoc, readValue_congr (skipBlank_of_isBlank hbefore), List.append_assoc]
      exact hbare.readValue_eq fuel _ (hrest.blank_append hafter) (by omega)

/-- Items are read up to the bracket that closes their list. -/
theorem DenotesItems.readItems_eq {text : List Char} {items : List Json} (fuel : Nat)
    (rest : List Char) :
    DenotesItems text items → 2 * text.length ≤ fuel →
      readItems (fuel + 2) (text ++ ']' :: rest) = some (items, rest)
  | .last hitem, hfuel => by
      obtain ⟨blank, hblank, hread⟩ :=
        hitem.readValue_eq fuel (']' :: rest) (endsNumber_cons rfl) (by omega)
      exact readItems_last hblank hread
  | .more hitem hitems, hfuel => by
      simp only [List.length_cons, List.length_append] at hfuel
      obtain ⟨blank, hblank, hread⟩ :=
        hitem.readValue_eq fuel (',' :: (_ ++ ']' :: rest)) (endsNumber_cons rfl) (by omega)
      obtain ⟨fuel, rfl⟩ := Nat.exists_eq_add_of_le' (show 1 ≤ fuel by omega)
      rw [List.append_assoc]
      exact readItems_more hblank hread (hitems.readItems_eq fuel rest (by omega))

/-- Members are read up to the brace that closes their object. -/
theorem DenotesMembers.readMembers_eq {text : List Char} {members : List (String × Json)}
    (fuel : Nat) (rest : List Char) :
    DenotesMembers text members → 2 * text.length ≤ fuel →
      readMembers (fuel + 2) (text ++ '\x7d' :: rest) = some (members, rest)
  | .last hkey hvalue, hfuel => by
      simp only [List.length_cons, List.length_append] at hfuel
      obtain ⟨blank, hblank, hread⟩ :=
        hvalue.readValue_eq fuel ('\x7d' :: rest) (endsNumber_cons rfl) (by omega)
      rw [List.append_assoc]
      exact readMembers_last hkey hblank hread
  | .more hkey hvalue hmembers, hfuel => by
      simp only [List.length_cons, List.length_append] at hfuel
      obtain ⟨blank, hblank, hread⟩ :=
        hvalue.readValue_eq fuel (',' :: (_ ++ '\x7d' :: rest)) (endsNumber_cons rfl) (by omega)
      obtain ⟨fuel, rfl⟩ := Nat.exists_eq_add_of_le' (show 1 ≤ fuel by omega)
      rw [List.append_assoc, List.cons_append, List.append_assoc]
      exact readMembers_more hkey hblank hread (hmembers.readMembers_eq fuel rest (by omega))

end

/-- The reader returns the value that a text denotes. -/
theorem read_of_denotes {source : String} {value : Json} (hdenotes : Denotes source.toList value) :
    read source = some value := by
  obtain ⟨blank, hblank, hread⟩ := hdenotes.readValue_eq (2 * source.length + 1) []
    (by simp [EndsNumber]) (by rw [String.length_toList]; omega)
  rw [List.append_nil, List.append_nil] at hread
  have hrest : skipBlank blank = [] :=
    List.dropWhile_eq_nil_iff.mpr fun c hc => isJsonBlank_iff.mpr (hblank c hc)
  simp [read, hread, hrest]

/-- A text denotes one value at most. -/
theorem Denotes.unique {source : String} {value other : Json}
    (hvalue : Denotes source.toList value) (hother : Denotes source.toList other) :
    other = value := by
  have hread := read_of_denotes hother
  rw [read_of_denotes hvalue] at hread
  exact (Option.some.inj hread).symm

end QuizCompiler.Json
