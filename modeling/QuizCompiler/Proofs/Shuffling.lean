import Mathlib.Data.List.FinRange
import Mathlib.Logic.Equiv.Basic
import QuizCompiler.Random.Draw

/-! # Shuffling permutes

A draw is a chain of steps, and a chain has a result exactly if each of its steps has one.
The indices that a shuffle draws fix a permutation of places; the items themselves play
no part in it.
-/

namespace QuizCompiler.Random

/-! ## Chains of draws -/

namespace Draw

variable {α β : Type}

theorem pure_eq_some {value result : α} {start stop : Nat} :
    (pure value : Draw α) start = some (result, stop) ↔ result = value ∧ stop = start := by
  change some (value, start) = some (result, stop) ↔ _
  simp [eq_comm]

theorem bind_eq_some {first : Draw α} {next : α → Draw β} {result : β} {start stop : Nat} :
    (first >>= next) start = some (result, stop) ↔
      ∃ value middle, first start = some (value, middle) ∧
        next value middle = some (result, stop) := by
  change (first start).bind (fun drawn => next drawn.1 drawn.2) = some (result, stop) ↔ _
  simp [Option.bind_eq_some_iff]

end Draw

/-! ## The order that indices fix -/

/-- Exchange two of `n` places, if there are such places. -/
def exchange (n i j : Nat) : Equiv.Perm (Fin n) :=
  if h : i < n ∧ j < n then Equiv.swap ⟨i, h.1⟩ ⟨j, h.2⟩ else Equiv.refl (Fin n)

/-- The place that each of `n` places is filled from when items are arranged. -/
def reorder (n : Nat) : List Nat → Equiv.Perm (Fin n)
  | [] => Equiv.refl (Fin n)
  | index :: others => (reorder n others).trans (exchange n (others.length + 1) index)

/-- Two places are exchanged if there are both of them, and every other one is left alone. -/
theorem exchange_val {n i j : Nat} (place : Fin n) :
    (exchange n i j place).val =
      if place.val = i ∧ j < n then j else if place.val = j ∧ i < n then i else place.val := by
  have hplace := place.isLt
  unfold exchange
  by_cases hbounds : i < n ∧ j < n
  · rw [dif_pos hbounds, Equiv.swap_apply_def]
    simp only [Fin.ext_iff, hbounds.1, hbounds.2, and_true]
    split_ifs <;> rfl
  · rw [dif_neg hbounds, Equiv.refl_apply, if_neg (by omega), if_neg (by omega)]

/-- After an exchange, each place holds what was at the place that it was exchanged with. -/
theorem getElem?_swapIfInBounds {α : Type} (items : Array α) (i j : Nat)
    (place : Fin items.size) :
    (items.swapIfInBounds i j)[place.val]? = items[(exchange items.size i j place).val]? := by
  have hplace := place.isLt
  rw [Array.getElem?_eq_getElem (by simp), Array.getElem?_eq_getElem (Fin.isLt _),
    Array.getElem_swapIfInBounds, Option.some.injEq]
  simp only [exchange_val]
  split_ifs <;> rfl

/-- Arranging items fills each place from the place that the indices fix for it. -/
theorem getElem?_arrange {α : Type} (swaps : List Nat) (items : Array α) {n : Nat}
    (hsize : items.size = n) (place : Fin n) :
    (arrange swaps items)[place.val]? = items[(reorder n swaps place).val]? := by
  induction swaps generalizing items with
  | nil => rfl
  | cons index others ih =>
      -- the first exchange is made before the others are, so it is looked through last
      subst hsize
      rw [arrange, ih _ (by simp), getElem?_swapIfInBounds]
      rfl

theorem size_arrange {α : Type} (swaps : List Nat) (items : Array α) :
    (arrange swaps items).size = items.size := by
  induction swaps generalizing items with
  | nil => rfl
  | cons index others ih => rw [arrange, ih, Array.size_swapIfInBounds]

/-- A list in the order that indices fix. -/
def reordered {α : Type} (swaps : List Nat) (items : List α) : List α :=
  List.ofFn fun place => items.get (reorder items.length swaps place)

/-- What the exchanges make of items is decided by places alone. -/
theorem toList_arrange {α : Type} (swaps : List Nat) (items : List α) :
    (arrange swaps items.toArray).toList = reordered swaps items := by
  apply List.ext_getElem?
  intro k
  rw [Array.getElem?_toList]
  by_cases hk : k < items.length
  · rw [getElem?_arrange swaps items.toArray List.size_toArray ⟨k, hk⟩]
    simp [reordered, hk]
  · rw [Array.getElem?_eq_none (by rw [size_arrange]; simpa using hk),
      List.getElem?_eq_none (by simpa [reordered] using hk)]

/-- Reordered items are the same items. -/
theorem reordered_perm {α : Type} (swaps : List Nat) (items : List α) :
    (reordered swaps items).Perm items := by
  have hperm := Equiv.Perm.ofFn_comp_perm (reorder items.length swaps) items.get
  rwa [List.ofFn_get] at hperm

/-! ## Shuffles -/

/-- A shuffle puts the items in the order that the drawn indices fix. -/
theorem shuffle_eq_some {α : Type} {words : Words} {patience start stop : Nat}
    {items ordered : List α} :
    shuffle words patience items start = some (ordered, stop) ↔
      ∃ swaps, drawSwaps words patience (items.length - 1) start = some (swaps, stop) ∧
        ordered = reordered swaps items := by
  unfold shuffle
  rw [Draw.bind_eq_some]
  simp only [Draw.pure_eq_some, toList_arrange]
  constructor
  · rintro ⟨swaps, middle, hswaps, rfl, rfl⟩
    exact ⟨swaps, hswaps, rfl⟩
  · rintro ⟨swaps, hswaps, rfl⟩
    exact ⟨swaps, stop, hswaps, rfl, rfl⟩

end QuizCompiler.Random
