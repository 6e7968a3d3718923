import Mathlib.Data.List.Permutation
import QuizCompiler.Proofs.Compilation
import QuizCompiler.Proofs.Indices
import QuizCompiler.Proofs.Supplies

/-! # The order of pages is uniform

A shuffle draws one index for each place but the first. Every order of different items comes of
just one sequence of indices, and every such sequence is drawn from some stream.
-/

namespace QuizCompiler.Random

/-! ## Sequences of indices -/

/-- The sequences of indices for `n + 1` places: one at most `i` for each `i` from `n` down to
one. -/
def SwapChoices (n : Nat) : Set (List Nat) :=
  {swaps | List.Forall₂ (· ≤ ·) swaps (List.range' 1 n).reverse}

theorem mem_swapChoices_zero {swaps : List Nat} : swaps ∈ SwapChoices 0 ↔ swaps = [] :=
  List.forall₂_nil_right_iff

/-- A sequence begins with an index for the last place and goes on with one for the places before
it. -/
theorem mem_swapChoices_succ {n : Nat} {swaps : List Nat} :
    swaps ∈ SwapChoices (n + 1) ↔
      ∃ index others, index ≤ n + 1 ∧ others ∈ SwapChoices n ∧ swaps = index :: others := by
  have hplaces : (List.range' 1 (n + 1)).reverse = (n + 1) :: (List.range' 1 n).reverse := by
    rw [List.range'_concat]
    simp [Nat.add_comm]
  simp only [SwapChoices, Set.mem_ofPred_eq, hplaces, List.forall₂_cons_right_iff]

theorem length_of_mem_swapChoices {n : Nat} {swaps : List Nat} (hswaps : swaps ∈ SwapChoices n) :
    swaps.length = n := by
  simpa using List.Forall₂.length_eq hswaps

/-- What a shuffle draws is such a sequence. -/
theorem drawSwaps_mem {words : Words} {patience n start stop : Nat} {swaps : List Nat}
    (hdrawn : drawSwaps words patience n start = some (swaps, stop)) : swaps ∈ SwapChoices n := by
  induction n generalizing swaps start stop with
  | zero =>
      obtain ⟨rfl, -⟩ := Draw.pure_eq_some.mp hdrawn
      exact mem_swapChoices_zero.mpr rfl
  | succ n ih =>
      simp only [drawSwaps, Draw.bind_eq_some, Draw.pure_eq_some] at hdrawn
      obtain ⟨index, _, hindex, others, _, hothers, rfl, -⟩ := hdrawn
      obtain ⟨_, -, -, hword, -⟩ := drawUntil_eq_some.mp hindex
      have hlt := index?_lt (Nat.succ_pos (n + 1)) hword
      exact mem_swapChoices_succ.mpr ⟨index, others, Nat.le_of_lt_succ hlt, ih hothers, rfl⟩

/-! ## Every order comes of one sequence -/

section Arranging

variable {α : Type}

/-- Exchanging two places before the last one leaves the last one alone. -/
theorem swapIfInBounds_push (items : Array α) (item : α) {i j : Nat} (hi : i < items.size)
    (hj : j < items.size) :
    (items.push item).swapIfInBounds i j = (items.swapIfInBounds i j).push item := by
  ext k hk hk'
  · simp
  · simp only [Array.getElem_push, Array.getElem_swapIfInBounds, Array.size_push,
      Array.size_swapIfInBounds]
    grind

/-- A shuffle of the places before the last one leaves the last one alone. -/
theorem arrange_push {n : Nat} {swaps : List Nat} {items : Array α}
    (hswaps : swaps ∈ SwapChoices n) (hsize : n < items.size) (item : α) :
    arrange swaps (items.push item) = (arrange swaps items).push item := by
  induction n generalizing swaps items with
  | zero =>
      obtain rfl := mem_swapChoices_zero.mp hswaps
      rfl
  | succ n ih =>
      obtain ⟨index, others, hindex, hothers, rfl⟩ := mem_swapChoices_succ.mp hswaps
      have hlength := length_of_mem_swapChoices hothers
      rw [arrange, arrange, hlength, swapIfInBounds_push items item hsize (by omega)]
      exact ih hothers (by rw [Array.size_swapIfInBounds]; omega)

/-- The first exchange of a shuffle puts the item at its index in the last place, where it
stays. -/
theorem exists_arrange_cons {n : Nat} {items : Array α} (hsize : items.size = n + 2)
    (index : Nat) (hindex : index < items.size) :
    ∃ rest : Array α, rest.size = n + 1 ∧ (rest.push items[index]).Perm items ∧
      ∀ others ∈ SwapChoices n,
        arrange (index :: others) items = (arrange others rest).push items[index] := by
  obtain ⟨rest, last, hpush⟩ :
      ∃ (rest : Array α) (last : α), items.swapIfInBounds (n + 1) index = rest.push last :=
    Array.eq_push_of_size_ne_zero (by rw [Array.size_swapIfInBounds]; omega)
  have hrest : rest.size = n + 1 := by
    have hsizes := congrArg Array.size hpush
    rw [Array.size_swapIfInBounds, Array.size_push, hsize] at hsizes
    exact (Nat.succ.inj hsizes).symm
  have hswapped : (items.swapIfInBounds (n + 1) index).Perm items := by
    rw [Array.swapIfInBounds_def, dif_pos (by omega), dif_pos hindex]
    exact Array.swap_perm _ _
  obtain rfl : last = items[index] := by
    have hback := congrArg (·[n + 1]?) hpush
    rw [Array.getElem?_eq_getElem (by simp; omega), Array.getElem_swapIfInBounds_left hindex,
      ← hrest, Array.getElem?_push_size] at hback
    exact (Option.some.inj hback).symm
  refine ⟨rest, hrest, hpush ▸ hswapped, fun others hothers => ?_⟩
  rw [arrange, length_of_mem_swapChoices hothers, hpush, arrange_push hothers (by omega)]

/-- What is left of different items and of an order of them once the last one is placed. -/
theorem perm_of_push_perm {items front rest : Array α} {item : α}
    (hdistinct : items.toList.Nodup) (hrest : (rest.push item).Perm items)
    (hfront : (front.push item).Perm items) : rest.toList.Nodup ∧ front.Perm rest := by
  rw [Array.perm_iff_toList_perm, Array.toList_push] at hrest hfront
  have hall : (rest.toList ++ [item]).Nodup := hrest.nodup_iff.mpr hdistinct
  refine ⟨(List.nodup_append.mp hall).1, ?_⟩
  rw [Array.perm_iff_toList_perm]
  exact (List.perm_append_right_iff _).mp (hfront.trans hrest.symm)

/-- Every order of different items comes of just one sequence of indices. -/
theorem existsUnique_arrange {n : Nat} {items order : Array α} (hsize : items.size = n + 1)
    (hdistinct : items.toList.Nodup) (horder : order.Perm items) :
    ∃! swaps, swaps ∈ SwapChoices n ∧ arrange swaps items = order := by
  induction n generalizing items order with
  | zero =>
      obtain ⟨item, hitem⟩ := List.length_eq_one_iff.mp hsize
      have hsame : items = order := by
        rw [Array.perm_iff_toList_perm, hitem, List.perm_singleton] at horder
        exact Array.toList_inj.mp (hitem.trans horder.symm)
      refine ⟨[], ⟨mem_swapChoices_zero.mpr rfl, hsame⟩, ?_⟩
      rintro swaps ⟨hswaps, -⟩
      exact mem_swapChoices_zero.mp hswaps
  | succ n ih =>
      -- the last item of the order tells the first index
      obtain ⟨front, last, rfl⟩ : ∃ (front : Array α) (last : α), order = front.push last :=
        Array.eq_push_of_size_ne_zero (by rw [horder.size_eq]; omega)
      have hlast : last ∈ front.push last := Array.mem_push_self
      obtain ⟨index, hindex, rfl⟩ := Array.getElem_of_mem (horder.mem_iff.mp hlast)
      obtain ⟨rest, hrest, hperm, harrange⟩ := exists_arrange_cons hsize index hindex
      obtain ⟨hrestDistinct, hfront⟩ := perm_of_push_perm hdistinct hperm horder
      obtain ⟨others, ⟨hothers, heq⟩, hunique⟩ := ih hrest hrestDistinct hfront
      refine ⟨index :: others, ⟨?_, by rw [harrange others hothers, heq]⟩, ?_⟩
      · exact mem_swapChoices_succ.mpr ⟨index, others, by omega, hothers, rfl⟩
      · rintro swaps ⟨hswaps, hresult⟩
        obtain ⟨first, more, hfirst, hmore, rfl⟩ := mem_swapChoices_succ.mp hswaps
        have hbound : first < items.toList.length := by
          rw [Array.length_toList]
          omega
        obtain ⟨_, -, -, hother⟩ := exists_arrange_cons hsize first hbound
        have hpushed := hother more hmore
        rw [hresult, Array.push_eq_push] at hpushed
        obtain rfl : index = first := hdistinct.getElem_inj_iff.mp hpushed.1
        rw [harrange more hmore] at hresult
        rw [hunique more ⟨hmore, (Array.push_eq_push.mp hresult).2⟩]

/-- Each order of distinct items comes of one sequence of indices. -/
theorem existsUnique_toList_arrange {items order : List α} (hdistinct : items.Nodup)
    (horder : order.Perm items) :
    ∃! swaps, swaps ∈ SwapChoices (items.length - 1) ∧
      (arrange swaps items.toArray).toList = order := by
  cases items with
  | nil =>
      obtain rfl := List.perm_nil.mp horder
      refine ⟨[], ⟨mem_swapChoices_zero.mpr rfl, rfl⟩, ?_⟩
      rintro swaps ⟨hswaps, -⟩
      exact mem_swapChoices_zero.mp hswaps
  | cons item rest =>
      have hexists : ∃! swaps, swaps ∈ SwapChoices rest.length ∧
          arrange swaps (item :: rest).toArray = order.toArray :=
        existsUnique_arrange rfl hdistinct (Array.perm_iff_toList_perm.mpr horder)
      simpa only [← Array.toList_inj, List.length_cons, Nat.add_one_sub_one] using hexists

/-- Sequences of indices correspond to the orders of different items. -/
theorem bijOn_arrange {items : List α} (hdistinct : items.Nodup) :
    Set.BijOn (fun swaps => (arrange swaps items.toArray).toList)
      (SwapChoices (items.length - 1)) {order | order.Perm items} := by
  have hperm (swaps : List Nat) : (arrange swaps items.toArray).toList.Perm items := by
    rw [toList_arrange]
    exact reordered_perm swaps items
  refine ⟨?_, ?_, ?_⟩
  · exact fun swaps _ => hperm swaps
  · intro swaps hswaps others hothers heq
    have hunique := existsUnique_toList_arrange hdistinct (hperm others)
    exact hunique.unique ⟨hswaps, heq⟩ ⟨hothers, rfl⟩
  · intro order horder
    exact (existsUnique_toList_arrange hdistinct horder).exists

/-- There are as many orders of different items as the factorial of their number. -/
theorem ncard_perm {items : List α} (hdistinct : items.Nodup) :
    {order : List α | order.Perm items}.ncard = items.length.factorial := by
  classical
  have horders : {order : List α | order.Perm items} = items.permutations.toFinset := by
    ext order
    simp
  rw [horders, Set.ncard_coe_finset,
    List.toFinset_card_of_nodup (List.nodup_permutations items hdistinct),
    List.length_permutations]

end Arranging

/-! ## Every sequence is drawn -/

/-- There are words that stand for the indices of a sequence, so that a shuffle that begins with
them draws this sequence. -/
theorem exists_drawSwaps {n : Nat} (hn : n + 1 < UInt32.size) {swaps : List Nat}
    (hswaps : swaps ∈ SwapChoices n) :
    ∃ first : List UInt32, first.length = n ∧ ∀ (words : Words) (patience start : Nat),
      0 < patience → (∀ i word, first[i]? = some word → words (start + i) = word) →
        drawSwaps words patience n start = some (swaps, start + n) := by
  induction n generalizing swaps with
  | zero =>
      obtain rfl := mem_swapChoices_zero.mp hswaps
      exact ⟨[], rfl, fun _ _ _ _ _ => rfl⟩
  | succ n ih =>
      obtain ⟨index, others, hindex, hothers, rfl⟩ := mem_swapChoices_succ.mp hswaps
      obtain ⟨word, hword⟩ := exists_index?_eq_some hn (Nat.lt_succ_of_le hindex)
      obtain ⟨more, hlength, hmore⟩ := ih (Nat.lt_of_succ_lt hn) hothers
      -- the first word stands for the first index, and the words for the others follow
      refine ⟨word :: more, congrArg (· + 1) hlength, ?_⟩
      intro words patience start hpatience hwords
      have hfirst : drawIndex words patience (n + 2) start = some (index, start + 1) := by
        refine drawUntil_eq_some.mpr ⟨0, hpatience, by omega, ?_, by omega⟩
        rwa [Nat.zero_mul, hwords 0 word rfl]
      have hrest : drawSwaps words patience n (start + 1) = some (others, start + 1 + n) := by
        refine hmore words patience (start + 1) hpatience fun i word hi => ?_
        rw [Nat.add_assoc, Nat.add_comm 1]
        exact hwords (i + 1) word hi
      rw [drawSwaps, Draw.bind_eq_some]
      refine ⟨index, start + 1, hfirst, Draw.bind_eq_some.mpr ⟨others, _, hrest, ?_⟩⟩
      rw [Nat.add_comm n, ← Nat.add_assoc]
      rfl

end QuizCompiler.Random

namespace QuizCompiler.Quiz

open QuizCompiler.Random

/-! ## Pages -/

/-- A page shows one question only. -/
theorem Page.Shows.unique {page : Page} {question other : Question}
    (hshows : page.Shows question) (hother : page.Shows other) : question = other := by
  obtain ⟨markups, prompt, helements, hhtml, htitle, hdescription, hchoices, hanswers, -⟩ := hshows
  obtain ⟨others, _, hsame, hhtml', htitle', hdescription', hchoices', hanswers', -⟩ := hother
  rw [helements] at hsame
  obtain ⟨hmarkups, hprompt⟩ := List.append_inj' hsame rfl
  have hinjective : Function.Injective Element.markup := fun _ _ => Element.markup.inj
  obtain rfl := List.map_injective_iff.mpr hinjective hmarkups
  obtain rfl := Element.prompt.inj (List.head_eq_of_cons_eq hprompt)
  have hsupplement : question.supplement = other.supplement := by
    have hlists := congrArg List.head? (hhtml.symm.trans hhtml')
    simpa using hlists
  cases question
  cases other
  simp_all

/-- Pages show one list of questions only. -/
theorem forall₂_shows_iff {pages : List Page} {order : List Question}
    (hshows : List.Forall₂ Page.Shows pages order) (other : List Question) :
    List.Forall₂ Page.Shows pages other ↔ other = order := by
  constructor
  · intro hother
    have hunique : Relator.RightUnique Page.Shows := fun _ _ _ => Page.Shows.unique
    exact hunique.forall₂ hother hshows
  · rintro rfl
    exact hshows

theorem nameCount_le (questions : List Question) : nameCount questions ≤ 2 * questions.length := by
  have hsupplements : questions.countP (fun question => question.supplement.isSome) ≤
      questions.length := List.countP_le_length
  rw [nameCount]
  omega

/-- Every sequence of indices is drawn in an assembly that ends. -/
theorem exists_assemble {questions : List Question} (hlength : questions.length < UInt32.size)
    {swaps : List Nat} (hswaps : swaps ∈ SwapChoices (questions.length - 1)) (title : String)
    (config : Config) :
    ∃ (words : Words) (patience : Nat) (document : Document) (stop : Nat),
      drawSwaps words patience (questions.length - 1) 0 = some (swaps, questions.length - 1) ∧
        assemble words patience title questions config 0 = some (document, stop) := by
  have hplaces : questions.length - 1 + 1 < UInt32.size := by
    rw [UInt32.size] at hlength ⊢
    omega
  obtain ⟨first, hfirst, hdraw⟩ := exists_drawSwaps hplaces hswaps
  let words : Words := fun i => first[i]?.getD (countingWords i)
  have hsupply : words.Supply questions.length (256 ^ 8) := by
    refine (countingWords_supply _ (Nat.le_refl _)).of_eq_from (questions.length - 1) fun i hi => ?_
    simp only [words, List.getElem?_eq_none (hfirst ▸ hi), Option.getD_none]
  have hnames : nameCount questions ≤ 256 ^ 8 := by
    have hle := nameCount_le questions
    rw [UInt32.size] at hlength
    omega
  obtain ⟨document, stop, patience, hends⟩ :=
    assemble_ends hsupply title questions config (Nat.le_refl _) hnames 0
  refine ⟨words, patience + 1, document, stop, ?_, hends _ (Nat.le_succ patience)⟩
  rw [hdraw words (patience + 1) 0 (Nat.succ_pos patience), Nat.zero_add]
  intro i word hi
  simp only [words, Nat.zero_add, hi, Option.getD_some]

/-- The order of pages is uniform. Each index below a number stands for the same number of words,
and no word stands for any other. The sequences of indices that are drawn for
different questions correspond to all orders of these, an assembly shows the questions in the order
for the sequence it draws and in no other, and every sequence is drawn in some assembly. -/
theorem assemble_uniform :
    (∀ n, 0 < n → n < UInt32.size →
      (∀ k < n, {word : UInt32 | index? n word = some k}.ncard = 2 ^ leadingZeros n) ∧
        ∀ word k, index? n word = some k → k < n) ∧
    ∀ (title : String) (questions : List Question) (config : Config),
      questions.Nodup → questions.length < UInt32.size →
      Set.BijOn (fun swaps => (arrange swaps questions.toArray).toList)
          (SwapChoices (questions.length - 1)) {order | order.Perm questions} ∧
        {order : List Question | order.Perm questions}.ncard = questions.length.factorial ∧
        (∀ (words : Words) (patience start stop : Nat) (document : Document),
          assemble words patience title questions config start = some (document, stop) →
            ∃ swaps ∈ SwapChoices (questions.length - 1), ∃ middle,
              drawSwaps words patience (questions.length - 1) start = some (swaps, middle) ∧
                ∀ order, List.Forall₂ Page.Shows document.pages order ↔
                  order = (arrange swaps questions.toArray).toList) ∧
        ∀ swaps ∈ SwapChoices (questions.length - 1),
          ∃ (words : Words) (patience : Nat) (document : Document) (stop : Nat),
            drawSwaps words patience (questions.length - 1) 0 =
                some (swaps, questions.length - 1) ∧
              assemble words patience title questions config 0 = some (document, stop) := by
  refine ⟨fun n hpos hsize => ⟨fun k hk => ncard_index? hsize hk, fun _ _ => index?_lt hpos⟩, ?_⟩
  intro title questions config hdistinct hlength
  refine ⟨bijOn_arrange hdistinct, ncard_perm hdistinct, ?_, ?_⟩
  · intro words patience start stop document hrun
    obtain ⟨swaps, middle, pages, hdrawn, hpages, rfl⟩ := assemble_eq_some.mp hrun
    refine ⟨swaps, drawSwaps_mem hdrawn, middle, hdrawn, ?_⟩
    rw [toList_arrange]
    exact forall₂_shows_iff (drawPages_shows hpages)
  · exact fun swaps hswaps => exists_assemble hlength hswaps title config

/-- Two questions are shown in reverse if the index zero is drawn for the second place. -/
theorem assemble_uniform_two_questions :
    {word : UInt32 | index? 3 word = some 2}.ncard = 2 ^ 30 ∧
      twoQuestions.Nodup ∧ twoQuestions.length < UInt32.size ∧
      {order : List Question | order.Perm twoQuestions}.ncard = 2 ∧
      ∃ (words : Words) (patience : Nat) (document : Document) (stop : Nat),
        assemble words patience "T" twoQuestions Config.default 0 = some (document, stop) ∧
          List.Forall₂ Page.Shows document.pages twoQuestions.reverse := by
  obtain ⟨hindices, horders⟩ := assemble_uniform
  obtain ⟨hwords, -⟩ := hindices 3 (by decide) (by decide)
  have hdistinct : twoQuestions.Nodup := by decide
  have hlength : twoQuestions.length < UInt32.size := by decide
  obtain ⟨-, hcount, hruns, hdrawn⟩ := horders "T" twoQuestions Config.default hdistinct hlength
  have hchoice : [0] ∈ SwapChoices (twoQuestions.length - 1) :=
    mem_swapChoices_succ.mpr ⟨0, [], Nat.zero_le _, mem_swapChoices_zero.mpr rfl, rfl⟩
  obtain ⟨words, patience, document, stop, hdraw, hrun⟩ := hdrawn [0] hchoice
  obtain ⟨swaps, -, middle, hswaps, hshows⟩ := hruns words patience 0 stop document hrun
  obtain ⟨rfl, -⟩ := Prod.mk.inj (Option.some.inj (hdraw.symm.trans hswaps))
  exact ⟨hwords 2 (by decide), hdistinct, hlength, hcount, words, patience, document, stop, hrun,
    (hshows _).mpr rfl⟩

end QuizCompiler.Quiz
