import QuizCompiler.Quiz.Block

/-! # Trimmed texts

Trimming leaves no blank at either end of a text and changes nothing about a text that has
none there. All labels of choices that are read from markdown are trimmed.
-/

namespace QuizCompiler.Text

/-- A text with no blank at either end. -/
def Trimmed (s : String) : Prop :=
  (∀ c ∈ s.toList.head?, isBlank c = false) ∧ ∀ c ∈ s.toList.getLast?, isBlank c = false

section Lists

variable {α : Type} {p : α → Bool} {xs : List α}

theorem not_of_mem_head?_dropWhile {x : α} (hx : x ∈ (xs.dropWhile p).head?) : p x = false := by
  have hhead := List.head?_dropWhile_not p xs
  rw [Option.mem_def.mp hx] at hhead
  exact hhead

theorem not_of_mem_getLast?_dropTrailing {x : α} (hx : x ∈ (dropTrailing p xs).getLast?) :
    p x = false := by
  rw [dropTrailing, List.getLast?_reverse] at hx
  exact not_of_mem_head?_dropWhile hx

theorem dropTrailing_isPrefix (p : α → Bool) (xs : List α) : dropTrailing p xs <+: xs := by
  have hsuffix := List.reverse_prefix.mpr (List.dropWhile_suffix p (l := xs.reverse))
  rwa [List.reverse_reverse] at hsuffix

theorem mem_head?_of_isPrefix {ys : List α} {x : α} (hpre : ys <+: xs) (hx : x ∈ ys.head?) :
    x ∈ xs.head? := by
  obtain ⟨rest, rfl⟩ := hpre
  cases ys with
  | nil => cases hx
  | cons y ys => exact hx

end Lists

/-- Trimming is done at once: the text that is left neither begins nor ends with a blank. -/
theorem trimmed_trim (s : String) : Trimmed (trim s) := by
  rw [Trimmed, trim, String.toList_ofList, trimChars]
  refine ⟨?_, ?_⟩
  · intro c hc
    exact not_of_mem_head?_dropWhile (mem_head?_of_isPrefix (dropTrailing_isPrefix _ _) hc)
  · intro c hc
    exact not_of_mem_getLast?_dropTrailing hc

/-- One more blank at the end is dropped with the others. -/
theorem dropTrailing_append_of_last {α : Type} {p : α → Bool} {xs : List α} {x : α}
    (hx : p x = true) : dropTrailing p (xs ++ [x]) = dropTrailing p xs := by
  simp [dropTrailing, hx]

theorem Trimmed.dropTrailing_eq {s : String} (htrimmed : Trimmed s) :
    dropTrailing isBlank s.toList = s.toList := by
  rcases List.eq_nil_or_concat s.toList with hnil | ⟨init, c, hconcat⟩
  · rw [hnil]
    rfl
  · rw [List.concat_eq_append] at hconcat
    rw [hconcat]
    exact dropTrailing_of_last (htrimmed.2 c (by simp [hconcat]))

/-- Trimming leaves a trimmed text as it is. -/
theorem Trimmed.trim_eq {s : String} (htrimmed : Trimmed s) : trim s = s := by
  have hhead : s.toList.dropWhile isBlank = s.toList := by
    cases hs : s.toList with
    | nil => rfl
    | cons c rest =>
        exact List.dropWhile_cons_of_neg (by simp [htrimmed.1 c (by simp [hs])])
  rw [trim, trimChars, hhead, htrimmed.dropTrailing_eq, String.ofList_toList]

/-- The end of a line makes no difference to a text that is trimmed. -/
theorem trim_append_newline (s : String) : trim (s ++ "\n") = trim s := by
  rw [trim, trim, trimChars, trimChars, String.toList_append, show "\n".toList = ['\n'] from rfl,
    List.dropWhile_append]
  split
  next hblank =>
    rw [List.isEmpty_iff.mp hblank]
    rfl
  next => rw [dropTrailing_append_of_last rfl]

/-- Trimming takes the end of the line from a trimmed text, and no more. -/
theorem Trimmed.trim_append_newline {s : String} (htrimmed : Trimmed s) :
    trim (s ++ "\n") = s := by
  rw [Text.trim_append_newline, htrimmed.trim_eq]

end QuizCompiler.Text

namespace QuizCompiler.Quiz

open QuizCompiler.Markdown QuizCompiler.Text

/-- The choices of a list; other blocks have none. -/
def Block.choices : Block → List Choice
  | .list choices => choices
  | _ => []

/-- An event adds at most a choice with a trimmed label. -/
theorem ChoiceScan.push_trimmed {scan : ChoiceScan}
    (hscan : ∀ choice ∈ scan.choices, Trimmed choice.label) (event : Event) :
    ∀ choice ∈ (scan.push event).choices, Trimmed choice.label := by
  unfold push
  split
  next => exact hscan
  next => exact hscan
  next => split <;> exact hscan
  next =>
    split
    next =>
      split
      next label checked _ =>
        intro choice hchoice
        rcases List.mem_cons.mp hchoice with rfl | hchoice
        · exact trimmed_trim _
        · exact hscan choice hchoice
      next => exact hscan
    next => exact hscan
  next => split <;> exact hscan
  next => exact hscan

theorem collectChoices_trimmed (events : List Event) :
    ∀ choice ∈ collectChoices events, Trimmed choice.label := by
  -- all choices that were collected are trimmed, at every step
  have hfold : ∀ scan : ChoiceScan, (∀ choice ∈ scan.choices, Trimmed choice.label) →
      ∀ choice ∈ (events.foldl ChoiceScan.push scan).choices, Trimmed choice.label := by
    induction events with
    | nil => exact fun scan hscan => hscan
    | cons event events ih =>
        exact fun scan hscan => ih _ (ChoiceScan.push_trimmed hscan event)
  intro choice hchoice
  exact hfold .empty (by simp [ChoiceScan.empty]) choice (List.mem_reverse.mp hchoice)

theorem Block.ofGroup_trimmed (group : List Event) :
    ∀ choice ∈ (Block.ofGroup group).choices, Trimmed choice.label := by
  unfold ofGroup
  split
  next =>
    split <;> simp [choices]
  next => simp [choices]
  next => exact collectChoices_trimmed _
  next => simp [choices]

/-- The labels of all choices that are read from a document are trimmed. -/
theorem Block.ofMarkdown_trimmed (text : String) :
    ∀ block ∈ Block.ofMarkdown text, ∀ choice ∈ block.choices, Trimmed choice.label := by
  intro block hblock
  obtain ⟨group, -, rfl⟩ := List.mem_map.mp hblock
  exact ofGroup_trimmed group

end QuizCompiler.Quiz
