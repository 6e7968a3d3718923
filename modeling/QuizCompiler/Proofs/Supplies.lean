import Mathlib.Data.Finset.Card
import Mathlib.Data.Nat.ModEq
import QuizCompiler.Proofs.Drawing

/-! # Streams that supply

What a stream supplies depends on no initial part of it. A stream that counts in base 256
supplies every index, and more identifiers than any source has elements.
-/

namespace QuizCompiler.Random

open QuizCompiler.Text

/-! ## Identifiers differ as their bytes do -/

namespace Uuid

theorem hexPair_inj {a b : UInt8} (heq : hexPair a = hexPair b) : a = b := by
  have ha := a.toNat_lt
  have hb := b.toNat_lt
  simp only [hexPair, List.cons.injEq, and_true] at heq
  have hupper := lowerHexDigit_inj (by omega) (by omega) heq.1
  have hlower := lowerHexDigit_inj (by omega) (by omega) heq.2
  apply UInt8.toNat_inj.mp
  omega

/-- Bytes have two digits each, so that their digits can be read back in sequence. -/
theorem flatMap_hexPair_inj {first second : List UInt8}
    (heq : first.flatMap hexPair = second.flatMap hexPair) : first = second := by
  induction first generalizing second with
  | nil =>
      cases second with
      | nil => rfl
      | cons b second => cases heq
  | cons a first ih =>
      cases second with
      | nil => cases heq
      | cons b second =>
          rw [List.flatMap_cons, List.flatMap_cons] at heq
          obtain ⟨hpair, hrest⟩ := List.append_inj heq rfl
          rw [hexPair_inj hpair, ih hrest]

/-- The digits can be read again between the hyphens. -/
theorem filter_hyphenate {digits : List Char} (hdigits : '-' ∉ digits) (sizes : List Nat) :
    (hyphenate sizes digits).filter (· != '-') = digits := by
  have hall {part : List Char} (hpart : '-' ∉ part) : part.filter (· != '-') = part := by
    rw [List.filter_eq_self]
    intro c hc
    exact bne_iff_ne.mpr fun heq => hpart (heq ▸ hc)
  induction sizes, digits using hyphenate.induct with
  | case1 digits => exact hall hdigits
  | case2 size digits => exact hall hdigits
  | case3 size sizes digits hsizes ih =>
      have hrest := ih fun hmem => hdigits (List.mem_of_mem_drop hmem)
      rw [hyphenate, List.filter_append, hall fun hmem => hdigits (List.mem_of_mem_take hmem)]
      · rw [List.filter_cons_of_neg (by simp), hrest, List.take_append_drop]
      · exact hsizes

/-- Identifiers with the same text are the same: its hyphens can be left out, and its digits read
back. -/
theorem text_injective : Function.Injective text := by
  intro a b heq
  have hdigits (id : Uuid) : '-' ∉ id.bytes.toList.flatMap hexPair := by
    have hall : ∀ n < 16, '-' ≠ lowerHexDigit n := by decide
    intro hmem
    obtain ⟨byte, -, hbyte⟩ := List.mem_flatMap.mp hmem
    have hlt := byte.toNat_lt
    simp only [hexPair, List.mem_cons, List.not_mem_nil, or_false] at hbyte
    rcases hbyte with hbyte | hbyte
    · exact hall _ (by omega) hbyte
    · exact hall _ (by omega) hbyte
  have hbytes := congrArg (fun written => written.toList.filter (· != '-')) heq
  simp only [text, String.toList_ofList] at hbytes
  rw [filter_hyphenate (hdigits a), filter_hyphenate (hdigits b)] at hbytes
  have hsame := Vector.toList_inj.mp (flatMap_hexPair_inj hbytes)
  cases a
  cases b
  exact congrArg Uuid.mk hsame

/-- All bytes of an identifier but two are those of the words. -/
theorem byte_eq_of_ofWords_eq {words : Words} {i j : Nat}
    (heq : ofWords words i = ofWords words j) {place : Nat} (hplace : place < 16)
    (hversion : place ≠ 6) (hvariant : place ≠ 8) :
    (words (i + place)).toUInt8 = (words (j + place)).toUInt8 := by
  have hbyte (first : Nat) :
      (ofWords words first).bytes[place] = (words (first + place)).toUInt8 := by
    simp only [ofWords, ofRandom]
    rw [Vector.getElem_set_ne _ _ hvariant.symm, Vector.getElem_set_ne _ _ hversion.symm,
      Vector.getElem_ofFn]
  rw [← hbyte, ← hbyte, heq]

end Uuid

/-! ## Initial parts -/

/-- Finitely many words at the beginning do not matter for what a stream supplies. -/
theorem Words.Supply.of_eq_from {words others : Words} {places names : Nat}
    (hsupply : words.Supply places names) (n : Nat) (heq : ∀ i, n ≤ i → others i = words i) :
    others.Supply places names := by
  refine ⟨?_, ?_⟩
  · intro count start htwo hcount
    obtain ⟨k, hk⟩ := hsupply.index count (start + n) htwo hcount
    refine ⟨n + k, ?_⟩
    rwa [heq _ (by omega), ← Nat.add_assoc]
  · intro seen start hseen
    obtain ⟨k, hk⟩ := hsupply.fresh seen (start + n * 16) hseen
    refine ⟨n + k, ?_⟩
    have hwords : Uuid.ofWords others (start + (n + k) * 16) =
        Uuid.ofWords words (start + n * 16 + k * 16) := by
      unfold Uuid.ofWords
      rw [Nat.add_mul, ← Nat.add_assoc]
      congr 2
      funext place
      rw [heq _ (by omega)]
    rwa [hwords]

/-! ## A stream that counts -/

/-- Blocks of sixteen words that give the number of the block twice, byte by byte from the
lowest on. -/
def countingWords : Words := fun i => UInt32.ofNat (i / 16 / 256 ^ (i % 8))

theorem toNat_toUInt8_ofNat (n : Nat) : (UInt32.ofNat n).toUInt8.toNat = n % 256 := by
  rw [UInt32.toNat_toUInt8, UInt32.toNat_ofNat']
  exact Nat.mod_mod_of_dvd n (by decide)

/-- Any byte of the number can be seen in sixteen words, also without the two that give way to the
version and the variant. -/
theorem exists_place (start : Nat) {r : Nat} (hr : r < 8) :
    ∃ place < 16, place ≠ 6 ∧ place ≠ 8 ∧ (start + place) % 8 = r := by
  by_cases hversion : (r + 8 - start % 8) % 8 = 6
  · exact ⟨14, by omega, by omega, by omega, by omega⟩
  · exact ⟨(r + 8 - start % 8) % 8, by omega, hversion, by omega, by omega⟩

/-- Numbers that agree in their lower digits and in the next one agree in one digit more. -/
theorem modEq_pow_succ {base r m n : Nat} (hlower : m ≡ n [MOD base ^ r])
    (hdigit : m / base ^ r ≡ n / base ^ r [MOD base]) : m ≡ n [MOD base ^ (r + 1)] := by
  unfold Nat.ModEq at *
  rw [Nat.mod_pow_succ, Nat.mod_pow_succ, hlower, hdigit]

/-- Identifiers that are made of the stream at the same distance from the beginning of a block
are equal only if the numbers of the blocks agree in their eight bytes. -/
theorem modEq_of_ofWords_countingWords {start k l : Nat}
    (heq : Uuid.ofWords countingWords (start + k * 16) =
      Uuid.ofWords countingWords (start + l * 16)) {r : Nat} (hr : r ≤ 8) :
    k ≡ l [MOD 256 ^ r] := by
  induction r with
  | zero => exact Nat.modEq_one
  | succ r ih =>
      obtain ⟨place, hplace, hversion, hvariant, hmod⟩ := exists_place start hr
      have hword (block : Nat) :
          (countingWords (start + block * 16 + place)).toUInt8.toNat =
            (block + (start + place) / 16) / 256 ^ r % 256 := by
        have hblock : (start + block * 16 + place) / 16 = block + (start + place) / 16 := by omega
        have hdigit : (start + block * 16 + place) % 8 = r := by omega
        rw [countingWords, toNat_toUInt8_ofNat, hblock, hdigit]
      have hbyte := congrArg UInt8.toNat (Uuid.byte_eq_of_ofWords_eq heq hplace hversion hvariant)
      rw [hword, hword] at hbyte
      have hlower := (ih (Nat.le_of_succ_le hr)).add_right ((start + place) / 16)
      exact (modEq_pow_succ hlower hbyte).add_right_cancel' _

/-- In the stream that counts, no identifier repeats early. -/
theorem countingWords_supply (places : Nat) {names : Nat} (hnames : names ≤ 256 ^ 8) :
    countingWords.Supply places names := by
  refine ⟨?_, ?_⟩
  · -- a block whose number ends in four empty bytes begins with the word zero
    intro n start _ _
    refine ⟨UInt32.size * start * 16 - start, ?_⟩
    have hle : start ≤ UInt32.size * start * 16 := by
      rw [UInt32.size]
      omega
    have hzero : countingWords (UInt32.size * start * 16) = 0 := by
      have hdigit : UInt32.size * start * 16 % 8 = 0 := by omega
      rw [countingWords, hdigit, Nat.mul_div_cancel _ (by decide), Nat.pow_zero, Nat.div_one]
      apply UInt32.toNat_inj.mp
      rw [UInt32.toNat_ofNat']
      exact Nat.mul_mod_right _ _
    rw [Nat.add_sub_cancel' hle, hzero, index?_zero]
    rfl
  · intro seen start hseen
    by_contra hall
    push Not at hall
    -- among more blocks than there are texts, two have the same identifier
    obtain ⟨k, hk, l, hl, hne, heq⟩ := Finset.exists_ne_map_eq_of_card_lt_of_maps_to
      (s := Finset.range (seen.length + 1)) (t := seen.toFinset)
      (f := fun k => (Uuid.ofWords countingWords (start + k * 16)).text)
      (by rw [Finset.card_range]; exact Nat.lt_succ_of_le (List.toFinset_card_le seen))
      (fun k _ => List.mem_toFinset.mpr (hall k))
    have hmod := modEq_of_ofWords_countingWords (Uuid.text_injective heq) (Nat.le_refl 8)
    rw [Finset.mem_range] at hk hl
    exact hne (hmod.eq_of_lt_of_lt (by omega) (by omega))

end QuizCompiler.Random
