import Mathlib.Algebra.Order.Floor.Div
import Mathlib.Data.Set.Card
import Mathlib.Order.Interval.Finset.Nat
import QuizCompiler.Random.Draw

/-! # Indices are equally likely

An index stands for the words in one interval. All indices below a number have intervals of one
length, so that none of them is drawn more often than another.
-/

namespace QuizCompiler.Random

/-- A shift by the leading zeros fills a word, but not more. -/
theorem shiftLeft_leadingZeros {n : Nat} (hpos : 0 < n) (hsize : n < UInt32.size) :
    n <<< leadingZeros n = n * 2 ^ leadingZeros n ∧ n * 2 ^ leadingZeros n ≤ UInt32.size := by
  refine ⟨Nat.shiftLeft_eq _ _, ?_⟩
  have hlog : n.log2 < 32 := (Nat.log2_lt (Nat.ne_of_gt hpos)).mpr hsize
  have hzeros : n.log2 + 1 + leadingZeros n = 32 := by
    rw [leadingZeros, if_neg (Nat.ne_of_gt hpos)]
    omega
  calc
    n * 2 ^ leadingZeros n ≤ 2 ^ (n.log2 + 1) * 2 ^ leadingZeros n :=
      Nat.mul_le_mul_right _ (Nat.le_of_lt Nat.lt_log2_self)
    _ = UInt32.size := by rw [← Nat.pow_add, hzeros]

/-- A word stands for an index if its product with `n` lies in an interval that begins with the
index in its upper half. -/
theorem index?_eq_some_iff {n k : Nat} {word : UInt32} (hpos : 0 < n) (hsize : n < UInt32.size) :
    index? n word = some k ↔
      k * UInt32.size ≤ word.toNat * n ∧
        word.toNat * n < k * UInt32.size + 2 ^ leadingZeros n * n := by
  obtain ⟨hshift, hle⟩ := shiftLeft_leadingZeros hpos hsize
  have hzone : 0 < n * 2 ^ leadingZeros n := Nat.mul_pos hpos (Nat.two_pow_pos _)
  rw [Nat.mul_comm n] at hshift hle hzone
  unfold index?
  rw [hshift]
  generalize 2 ^ leadingZeros n * n = zone at hle hzone ⊢
  generalize word.toNat * n = product
  simp only [UInt32.size] at hle ⊢
  split_ifs with hlow
  · rw [Option.some.injEq]
    omega
  · simp only [false_iff]
    omega

theorem index?_lt {n k : Nat} {word : UInt32} (hpos : 0 < n) (hindex : index? n word = some k) :
    k < n := by
  unfold index? at hindex
  dsimp only at hindex
  split_ifs at hindex
  obtain rfl := Option.some.inj hindex
  rw [Nat.div_lt_iff_lt_mul (by decide), Nat.mul_comm n]
  exact Nat.mul_lt_mul_of_pos_right word.toNat_lt hpos

/-- The first word that stands for an index. -/
def firstWord (n k : Nat) : Nat := k * UInt32.size ⌈/⌉ n

/-- The words for an index are those of an interval. -/
theorem index?_eq_some_iff_mem {n k : Nat} {word : UInt32} (hpos : 0 < n)
    (hsize : n < UInt32.size) :
    index? n word = some k ↔
      word.toNat ∈ Finset.Ico (firstWord n k) (firstWord n k + 2 ^ leadingZeros n) := by
  have hfirst (v : Nat) : firstWord n k ≤ v ↔ k * UInt32.size ≤ v * n := by
    rw [firstWord, ceilDiv_le_iff_le_mul hpos, Nat.mul_comm n]
  rw [index?_eq_some_iff hpos hsize, Finset.mem_Ico, hfirst]
  refine and_congr_right fun _ => ?_
  generalize word.toNat = v
  -- what lies before the end of the interval is moved to its beginning
  rcases Nat.lt_or_ge v (2 ^ leadingZeros n) with hlt | hge
  · refine iff_of_true ?_ (Nat.lt_add_left _ hlt)
    exact Nat.lt_add_left _ (Nat.mul_lt_mul_of_pos_right hlt hpos)
  · obtain ⟨u, rfl⟩ := Nat.exists_eq_add_of_le hge
    rw [Nat.add_mul, Nat.add_comm, Nat.add_lt_add_iff_right, Nat.add_comm (2 ^ _) u,
      Nat.add_lt_add_iff_right, ← Nat.not_le, ← hfirst, Nat.not_le]

/-- The words that stand for an index are among all words. -/
theorem firstWord_add_le {n k : Nat} (hsize : n < UInt32.size) (hk : k < n) :
    firstWord n k + 2 ^ leadingZeros n ≤ UInt32.size := by
  have hpos : 0 < n := Nat.zero_lt_of_lt hk
  obtain ⟨-, hle⟩ := shiftLeft_leadingZeros hpos hsize
  have hbound : firstWord n k ≤ UInt32.size - 2 ^ leadingZeros n := by
    have hnext : (k + 1) * UInt32.size ≤ n * UInt32.size := Nat.mul_le_mul_right _ hk
    rw [Nat.succ_mul] at hnext
    rw [firstWord, ceilDiv_le_iff_le_mul hpos, Nat.mul_sub]
    exact Nat.le_sub_of_add_le ((Nat.add_le_add_left hle _).trans hnext)
  have hzeros : 2 ^ leadingZeros n ≤ UInt32.size :=
    Nat.pow_le_pow_right (by decide) (Nat.sub_le 32 _)
  omega

/-- Every index below `n` has as many words that stand for it. -/
theorem ncard_index? {n k : Nat} (hsize : n < UInt32.size) (hk : k < n) :
    {word : UInt32 | index? n word = some k}.ncard = 2 ^ leadingZeros n := by
  have hpos : 0 < n := Nat.zero_lt_of_lt hk
  have himage : UInt32.toNat '' {word | index? n word = some k} =
      Finset.Ico (firstWord n k) (firstWord n k + 2 ^ leadingZeros n) := by
    ext v
    constructor
    · rintro ⟨word, hword, rfl⟩
      exact (index?_eq_some_iff_mem hpos hsize).mp hword
    · intro hv
      have hend := firstWord_add_le hsize hk
      have hlt := (Finset.mem_Ico.mp hv).2
      have htoNat : (UInt32.ofNat v).toNat = v := by
        rw [UInt32.toNat_ofNat']
        exact Nat.mod_eq_of_lt (Nat.lt_of_lt_of_le hlt hend)
      exact ⟨UInt32.ofNat v, (index?_eq_some_iff_mem hpos hsize).mpr (by rwa [htoNat]), htoNat⟩
  have hinjective : Function.Injective UInt32.toNat := fun _ _ => UInt32.toNat_inj.mp
  rw [← Set.ncard_image_of_injective _ hinjective, himage, Set.ncard_coe_finset, Nat.card_Ico,
    Nat.add_sub_cancel_left]

theorem exists_index?_eq_some {n k : Nat} (hsize : n < UInt32.size) (hk : k < n) :
    ∃ word, index? n word = some k := by
  have hcount : {word : UInt32 | index? n word = some k}.ncard ≠ 0 := by
    rw [ncard_index? hsize hk]
    exact Nat.ne_of_gt (Nat.two_pow_pos _)
  exact Set.nonempty_of_ncard_ne_zero hcount

end QuizCompiler.Random
