/-! # Drawing from a random stream

Randomness is an endless sequence of words, of which a draw takes the next ones. A draw
that rejects a word tries the next, so it may never end; it is therefore given a patience,
the number of tries after which it has no result. A result does not depend on how much
patience was left.
-/

namespace QuizCompiler.Random

/-- An endless sequence of 32-bit words. -/
abbrev Words := Nat → UInt32

/-- The given words, and then every number from `next` on, modulo 2^32: a stream that can be
written down, so that a run on it can be repeated. -/
def Words.listed (first : Array UInt32) (next : UInt32) : Words := fun i =>
  match first[i]? with
  | some word => word
  | none => next + UInt32.ofNat (i - first.size)

/-- A value that is drawn from a stream; the state is how many words were taken before. -/
abbrev Draw := StateT Nat Option

/-- Take `width` words at a time until those that were taken have a reading. What is read
is the place where they begin. -/
def drawUntil {α : Type} (width : Nat) (read? : Nat → Option α) : (patience : Nat) → Draw α
  | 0 => fun _ => none
  | patience + 1 => fun drawn =>
    match read? drawn with
    | some value => some (value, drawn + width)
    | none => drawUntil width read? patience (drawn + width)

/-! ## Indices -/

/-- By how many places a 32-bit number can be shifted before its first digit is a one. -/
def leadingZeros (n : Nat) : Nat := 32 - (if n = 0 then 0 else n.log2 + 1)

/-- The index below `n` that a word stands for, if it stands for one. The product of
the word and `n` has the index in its upper half. The words whose lower half
lies beyond the last full multiple of `n` are rejected. -/
def index? (n : Nat) (word : UInt32) : Option Nat :=
  let product := word.toNat * n
  let zone := (n <<< leadingZeros n) - 1
  if product % UInt32.size ≤ zone then some (product / UInt32.size) else none

/-- An index below `n`. -/
def drawIndex (words : Words) (patience n : Nat) : Draw Nat :=
  drawUntil 1 (fun i => index? n (words i)) patience

/-! ## Shuffling -/

/-- One index at most `i` for each `i` from `n` down to one. -/
def drawSwaps (words : Words) (patience : Nat) : (n : Nat) → Draw (List Nat)
  | 0 => return []
  | n + 1 => do
    let index ← drawIndex words patience (n + 2)
    let others ← drawSwaps words patience n
    return index :: others

/-- Exchange each place, from the last down to the second, with the place that the
list of indices has for it. -/
def arrange {α : Type} : List Nat → Array α → Array α
  | [], items => items
  | index :: others, items => arrange others (items.swapIfInBounds (others.length + 1) index)

/-- The items in a random order. -/
def shuffle {α : Type} (words : Words) (patience : Nat) (items : List α) : Draw (List α) := do
  let swaps ← drawSwaps words patience (items.length - 1)
  return (arrange swaps items.toArray).toList

end QuizCompiler.Random
