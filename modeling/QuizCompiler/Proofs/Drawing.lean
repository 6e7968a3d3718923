import Mathlib.Data.Nat.Find
import QuizCompiler.Proofs.Pages

/-! # Draws that end

A draw that is patient enough has a result, and more patience does not change it. An
assembly ends if the stream keeps supplying what is still needed: words that stand for an
index, and identifiers that were not issued yet.
-/

namespace QuizCompiler.Random

open QuizCompiler.Text

/-! ## Patience -/

/-- A draw has a result from some patience on, and always the same. -/
def Draw.Ends {α : Type} (draw : Nat → Draw α) (start : Nat) (result : α × Nat) : Prop :=
  ∃ patience, ∀ more, patience ≤ more → draw more start = some result

namespace Draw.Ends

variable {α β : Type}

theorem pure (value : α) (start : Nat) : Ends (fun _ => Pure.pure value) start (value, start) :=
  ⟨0, fun _ _ => rfl⟩

/-- Draws in sequence end if each of them does: both do from the greater patience on. -/
theorem bind {first : Nat → Draw α} {next : Nat → α → Draw β} {start middle : Nat} {value : α}
    {result : β × Nat} (hfirst : Ends first start (value, middle))
    (hnext : Ends (fun patience => next patience value) middle result) :
    Ends (fun patience => first patience >>= next patience) start result := by
  obtain ⟨atFirst, hfirst⟩ := hfirst
  obtain ⟨atNext, hnext⟩ := hnext
  refine ⟨max atFirst atNext, fun more hmore => ?_⟩
  obtain ⟨value', stop⟩ := result
  exact bind_eq_some.mpr ⟨value, middle, hfirst more (by omega), hnext more (by omega)⟩

end Draw.Ends

/-- A draw takes the first reading that there is, and is to be patient for just so long. -/
theorem drawUntil_eq_some {α : Type} {width patience start stop : Nat}
    {read? : Nat → Option α} {value : α} :
    drawUntil width read? patience start = some (value, stop) ↔
      ∃ k < patience, (∀ j < k, read? (start + j * width) = none) ∧
        read? (start + k * width) = some value ∧ stop = start + (k + 1) * width := by
  induction patience generalizing start with
  | zero => simp [drawUntil]
  | succ patience ih =>
      cases hread : read? start with
      | some first =>
          simp only [drawUntil, hread, Option.some.injEq, Prod.mk.injEq]
          constructor
          · rintro ⟨rfl, rfl⟩
            exact ⟨0, by omega, by simp, by simpa using hread, by omega⟩
          · rintro ⟨k, -, hnone, hvalue, rfl⟩
            cases k with
            | zero => simp_all
            | succ k =>
                have hfirst := hnone 0 (by omega)
                rw [Nat.zero_mul, Nat.add_zero, hread] at hfirst
                cases hfirst
      | none =>
          -- the further tries are counted from the second place
          have hshift (j : Nat) : start + width + j * width = start + (j + 1) * width := by
            rw [Nat.succ_mul, Nat.add_assoc, Nat.add_comm width]
          simp only [drawUntil, hread, ih, hshift]
          constructor
          · rintro ⟨k, hk, hnone, hvalue, rfl⟩
            refine ⟨k + 1, by omega, fun j hj => ?_, hvalue, rfl⟩
            cases j with
            | zero => simpa using hread
            | succ j => exact hnone j (by omega)
          · rintro ⟨k, hk, hnone, hvalue, rfl⟩
            cases k with
            | zero => simp_all
            | succ k =>
                exact ⟨k, by omega, fun j hj => hnone (j + 1) (by omega), hvalue, rfl⟩

/-- A draw ends if there is a reading at some place that it comes to. -/
theorem drawUntil_ends {α : Type} {width start : Nat} {read? : Nat → Option α}
    (hread : ∃ k, (read? (start + k * width)).isSome = true) :
    ∃ value stop, Draw.Ends (drawUntil width read?) start (value, stop) := by
  obtain ⟨value, hvalue⟩ := Option.isSome_iff_exists.mp (Nat.find_spec hread)
  refine ⟨value, start + (Nat.find hread + 1) * width, Nat.find hread + 1, fun more hmore => ?_⟩
  refine drawUntil_eq_some.mpr ⟨Nat.find hread, by omega, fun j hj => ?_, hvalue, rfl⟩
  simpa using Nat.find_min hread hj

/-! ## What a stream supplies -/

/-- A stream supplies the indices of up to `places` places, and one more identifier beside any
fewer than `names` texts, however far it has been read. -/
structure Words.Supply (words : Words) (places names : Nat) : Prop where
  index : ∀ n start, 2 ≤ n → n ≤ places → ∃ k, (index? n (words (start + k))).isSome = true
  fresh : ∀ (seen : List String) (start : Nat), seen.length < names →
    ∃ k, (Uuid.ofWords words (start + k * 16)).text ∉ seen

/-- The word zero stands for the first place, however many there are. -/
theorem index?_zero (n : Nat) : index? n 0 = some 0 := by
  simp [index?]

theorem lowerHexDigit_inj {m n : Nat} (hm : m < 16) (hn : n < 16)
    (heq : lowerHexDigit m = lowerHexDigit n) : m = n := by
  have hall : ∀ m < 16, ∀ n < 16, lowerHexDigit m = lowerHexDigit n → m = n := by decide
  exact hall m hm n hn heq

/-- An identifier begins with a digit of its first word. -/
theorem Uuid.head?_text (words : Words) (first : Nat) :
    (ofWords words first).text.toList.head? =
      some (lowerHexDigit ((words first).toUInt8.toNat / 16)) := by
  obtain ⟨b, bs, hbytes⟩ : ∃ b bs, (ofWords words first).bytes.toList = b :: bs :=
    List.exists_cons_of_length_pos (by simp)
  have hb : b = (words first).toUInt8 := by
    have hfirst := congrArg (·[0]?) hbytes
    simpa [ofWords, ofRandom] using hfirst.symm
  rw [text, String.toList_ofList, hbytes, hb]
  rfl

section Supplied

variable {words : Words} {places names : Nat}

/-- With words that keep giving indices, a sequence of indices ends. -/
theorem drawSwaps_ends (hsupply : words.Supply places names) {n : Nat}
    (hn : n ≠ 0 → n < places) (start : Nat) :
    ∃ swaps stop, Draw.Ends (fun patience => drawSwaps words patience n) start (swaps, stop) := by
  induction n generalizing start with
  | zero => exact ⟨[], start, .pure _ _⟩
  | succ n ih =>
      have hplaces := hn (Nat.succ_ne_zero n)
      obtain ⟨k, hk⟩ := hsupply.index (n + 2) start (by omega) (by omega)
      obtain ⟨index, middle, hindex⟩ : ∃ index middle, Draw.Ends
          (fun patience => drawIndex words patience (n + 2)) start (index, middle) :=
        drawUntil_ends ⟨k, by simpa using hk⟩
      obtain ⟨swaps, stop, hswaps⟩ := ih (fun _ => by omega) middle
      exact ⟨index :: swaps, stop, hindex.bind (hswaps.bind (.pure _ _))⟩

theorem shuffle_ends {α : Type} (hsupply : words.Supply places names) (items : List α)
    (hitems : items.length ≤ places) (start : Nat) :
    ∃ swaps stop, Draw.Ends (fun patience => shuffle words patience items) start
      (reordered swaps items, stop) := by
  obtain ⟨swaps, stop, hswaps⟩ := drawSwaps_ends hsupply (n := items.length - 1)
    (fun _ => by omega) start
  refine ⟨swaps, stop, ?_⟩
  rw [← toList_arrange]
  exact hswaps.bind (.pure _ _)

end Supplied

end QuizCompiler.Random

namespace QuizCompiler.Quiz

open QuizCompiler.Random

/-- How many names questions need: one each, and one more for every supplement. -/
def nameCount (questions : List Question) : Nat :=
  questions.length + questions.countP fun question => question.supplement.isSome

section Supplied

variable {words : Words} {places names : Nat}

/-- A name is found as long as fewer are issued than there are different identifiers ahead. -/
theorem drawName_ends (hsupply : words.Supply places names) (issued : List String)
    (hissued : issued.length < names) (mark : String) (start : Nat) :
    ∃ name stop, Draw.Ends (fun patience => drawName words patience issued mark) start
      (name, stop) := by
  apply drawUntil_ends
  -- a name is new if its identifier is none of those that stand behind a mark of this length
  obtain ⟨k, hk⟩ := hsupply.fresh
    (issued.map fun name => String.ofList (name.toList.drop mark.toList.length)) start
    (by simpa using hissued)
  refine ⟨k, ?_⟩
  have hnew : (mark ++ (Uuid.ofWords words (start + k * 16)).text) ∉ issued := by
    intro hmem
    refine hk (List.mem_map.mpr ⟨_, hmem, ?_⟩)
    simp
  simp [hnew]

/-- A page needs a name for its prompt, and one more if it has a supplement. -/
theorem drawPage_ends (hsupply : words.Supply places names) (issued : List String)
    (question : Question) (hissued : issued.length + nameCount [question] ≤ names)
    (start : Nat) :
    ∃ page more stop, more.length = issued.length + nameCount [question] ∧
      Draw.Ends (fun patience => drawPage words patience issued question) start
        ((page, more), stop) := by
  unfold drawPage
  cases hsupplement : question.supplement with
  | none =>
      have hcount : nameCount [question] = 1 := by simp [nameCount, hsupplement]
      obtain ⟨name, stop, hname⟩ := drawName_ends hsupply issued (by omega) "" start
      exact ⟨_, _, stop, by simp [hcount], hname.bind (.pure _ _)⟩
  | some html =>
      have hcount : nameCount [question] = 2 := by simp [nameCount, hsupplement]
      obtain ⟨mark, middle, hmark⟩ :=
        drawName_ends hsupply issued (by omega) supplementMark start
      -- the name of the markup is issued by now, so there is one more to avoid
      obtain ⟨name, stop, hname⟩ := drawName_ends hsupply (mark :: issued)
        (by rw [List.length_cons]; omega) "" middle
      exact ⟨_, _, stop, by simp [hcount], hmark.bind (hname.bind (.pure _ _))⟩

theorem nameCount_cons (question : Question) (questions : List Question) :
    nameCount (question :: questions) = nameCount [question] + nameCount questions := by
  simp only [nameCount, List.countP_cons, List.countP_nil, List.length_cons, List.length_nil]
  omega

theorem drawPages_ends (hsupply : words.Supply places names) (issued : List String)
    (questions : List Question) (hissued : issued.length + nameCount questions ≤ names)
    (start : Nat) :
    ∃ pages stop, Draw.Ends (fun patience => drawPages words patience issued questions) start
      (pages, stop) := by
  induction questions generalizing issued start with
  | nil => exact ⟨[], start, .pure _ _⟩
  | cons question questions ih =>
      rw [nameCount_cons] at hissued
      obtain ⟨page, more, middle, hlength, hpage⟩ :=
        drawPage_ends hsupply issued question (by omega) start
      obtain ⟨pages, stop, hpages⟩ := ih more (by omega) middle
      exact ⟨page :: pages, stop, hpage.bind (hpages.bind (.pure _ _))⟩

/-- A document ends on every stream that supplies enough places and names. -/
theorem assemble_ends (hsupply : words.Supply places names) (title : String)
    (questions : List Question) (config : Config) (hplaces : questions.length ≤ places)
    (hnames : nameCount questions ≤ names) (start : Nat) :
    ∃ document stop,
      Draw.Ends (fun patience => assemble words patience title questions config) start
        (document, stop) := by
  obtain ⟨swaps, middle, hshuffle⟩ := shuffle_ends hsupply questions hplaces start
  have hordered : nameCount (reordered swaps questions) ≤ names := by
    have hperm := reordered_perm swaps questions
    rwa [nameCount, hperm.length_eq, hperm.countP_eq]
  obtain ⟨pages, stop, hpages⟩ :=
    drawPages_ends hsupply [] (reordered swaps questions) (by simpa using hordered) middle
  exact ⟨_, stop, hshuffle.bind (hpages.bind (.pure _ _))⟩

end Supplied

end QuizCompiler.Quiz
