import QuizCompiler.Random.Draw

/-! # The stream of a seed

A seed of 64 bits is stretched to a key of eight words, and the key gives the stream:
ChaCha with twelve rounds, a block counter of 64 bits and no nonce.
-/

namespace QuizCompiler.Random

/-! ## From the seed to the key -/

/-- The next state of the linear generator that stretches a seed. -/
def stretchStep (state : UInt64) : UInt64 :=
  state * 6364136223846793005 + 11634580027462260723

/-- A word turned right by `n` places. -/
def rotateRight (word : UInt32) (n : UInt32) : UInt32 :=
  if n % 32 = 0 then word else (word >>> (n % 32)) ||| (word <<< (32 - n % 32))

/-- The word that a state gives: some of its upper bits, turned by the uppermost. -/
def stretchWord (state : UInt64) : UInt32 :=
  rotateRight (((state >>> 18) ^^^ state) >>> 27).toUInt32 (state >>> 59).toUInt32

/-- The first `n` words that a state is stretched to. -/
def stretch : (n : Nat) → UInt64 → List UInt32
  | 0, _ => []
  | n + 1, state => stretchWord (stretchStep state) :: stretch n (stretchStep state)

/-! ## From the key to the stream -/

/-- The sixteen words that a block is mixed from. -/
abbrev Block := Vector UInt32 16

/-- A word turned left by `n` places. -/
def rotateLeft (word : UInt32) (n : UInt32) : UInt32 := (word <<< n) ||| (word >>> (32 - n))

/-- Mix four words of a block. -/
def quarterRound (a b c d : Fin 16) (block : Block) : Block :=
  let step (x y z : Fin 16) (n : UInt32) (block : Block) : Block :=
    let block := block.set x (block[x] + block[y])
    block.set z (rotateLeft (block[z] ^^^ block[x]) n)
  step c d b 7 (step a b d 8 (step c d b 12 (step a b d 16 block)))

/-- Mix the columns of a block and then its diagonals. -/
def doubleRound (block : Block) : Block :=
  let block := quarterRound 3 7 11 15 (quarterRound 2 6 10 14
    (quarterRound 1 5 9 13 (quarterRound 0 4 8 12 block)))
  quarterRound 3 4 9 14 (quarterRound 2 7 8 13
    (quarterRound 1 6 11 12 (quarterRound 0 5 10 15 block)))

/-- The block that is mixed for a counter: four fixed words, the key, the counter. -/
def blockStart (key : List UInt32) (counter : Nat) : Block :=
  let head : List UInt32 := [0x61707865, 0x3320646e, 0x79622d32, 0x6b206574]
  let words := (head ++ key ++ [UInt32.ofNat counter, UInt32.ofNat (counter / UInt32.size)]).toArray
  Vector.ofFn fun i => words.getD i 0

/-- Apply a mixing step `n` times. -/
def repeatedly {α : Type} (step : α → α) : Nat → α → α
  | 0, x => x
  | n + 1, x => repeatedly step n (step x)

/-- The words of the stream that belong to a counter. -/
def keyBlock (key : List UInt32) (counter : Nat) : Block :=
  let block := blockStart key counter
  Vector.zipWith (· + ·) (repeatedly doubleRound 6 block) block

def Words.ofKey (key : List UInt32) : Words := fun i =>
  (keyBlock key (i / 16)).get ⟨i % 16, Nat.mod_lt _ (by decide)⟩

def Words.seeded (seed : UInt64) : Words := Words.ofKey (stretch 8 seed)

end QuizCompiler.Random
