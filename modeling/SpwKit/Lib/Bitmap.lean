import Mathlib.Data.Nat.Bitwise
import Mathlib.Tactic.Common

/-!
# Bitmaps kept in 64-bit words

A bitmap is a sequence of 64-bit words, bit `p` of the map being bit `p % 64` of
word `p / 64`. Programs touch it in two ways: one bit at a time through `1 << b`,
and a run of bits inside one word through a mask of `count` ones shifted by `b`.
The lemmas here give the bits of the word after each of these, so that a proof
about the program speaks of positions (`Bitmap.bit`) and not of words.
-/

namespace Bitmap

/-- The bit of a bitmap at a position. -/
def bit (words : Nat → UInt64) (pos : Nat) : Bool :=
  (words (pos / 64)).toNat.testBit (pos % 64)

/-- The word with one bit set. -/
def single (b : Nat) : UInt64 := 1 <<< UInt64.ofNat b

/-- The lowest `count` bits, as programs write them: a full word cannot be had
by shifting, so it is a case of its own. -/
def lowBits (count : Nat) : UInt64 :=
  if count = 64 then 0xffffffffffffffff else single count - 1

/-- A run of `count` ones shifted by `b`. -/
def mask (b count : Nat) : UInt64 := lowBits count <<< UInt64.ofNat b

/-- The bitmap with one word changed by an `or`. -/
def orWord (words : Nat → UInt64) (i : Nat) (m : UInt64) : Nat → UInt64 :=
  fun j => if j = i then words j ||| m else words j

/-! ## Bits of words -/

variable {b : Nat}

/-- Two words with the same 64 bits are equal. -/
theorem word_ext {v w : UInt64} (h : ∀ i < 64, v.toNat.testBit i = w.toNat.testBit i) : v = w := by
  apply UInt64.toNat_inj.mp
  apply Nat.eq_of_testBit_eq
  intro i
  by_cases hi : i < 64
  · exact h i hi
  · have hpow : 2 ^ 64 ≤ 2 ^ i := Nat.pow_le_pow_right (by decide) (by omega)
    rw [Nat.testBit_lt_two_pow (lt_of_lt_of_le v.toNat_lt hpow),
      Nat.testBit_lt_two_pow (lt_of_lt_of_le w.toNat_lt hpow)]

theorem word_eq_zero_iff (w : UInt64) : w = 0 ↔ ∀ i < 64, w.toNat.testBit i = false := by
  constructor
  · rintro rfl i -
    simp
  · intro h
    exact word_ext (fun i hi => by simp [h i hi])

theorem ofNat_toNat_mod (hb : b < 64) : (UInt64.ofNat b).toNat % 64 = b := by
  rw [UInt64.toNat_ofNat']
  omega

theorem single_toNat (hb : b < 64) : (single b).toNat = 2 ^ b := by
  have hpow : 2 ^ b < 2 ^ 64 := Nat.pow_lt_pow_right (by decide) hb
  rw [single, UInt64.toNat_shiftLeft, ofNat_toNat_mod hb, Nat.shiftLeft_eq]
  simpa using Nat.mod_eq_of_lt hpow

theorem testBit_single (hb : b < 64) (i : Nat) : (single b).toNat.testBit i = decide (b = i) := by
  rw [single_toNat hb, Nat.testBit_two_pow]

theorem lowBits_toNat {count : Nat} (hc : count ≤ 64) : (lowBits count).toNat = 2 ^ count - 1 := by
  unfold lowBits
  by_cases hfull : count = 64
  · subst hfull
    rfl
  · have htoNat : (single count).toNat = 2 ^ count := single_toNat (by omega)
    have hone : (1 : UInt64) ≤ single count := by
      rw [UInt64.le_iff_toNat_le, htoNat]
      exact Nat.one_le_two_pow
    rw [if_neg hfull, UInt64.toNat_sub_of_le _ _ hone, htoNat]
    rfl

/-- The mask of a run inside one word has exactly the bits of the run. -/
theorem testBit_mask {count i : Nat} (hrun : b + count ≤ 64) (hb : b < 64) (hi : i < 64) :
    (mask b count).toNat.testBit i = decide (b ≤ i ∧ i < b + count) := by
  rw [mask, UInt64.toNat_shiftLeft, lowBits_toNat (by omega), ofNat_toNat_mod hb,
    Nat.testBit_mod_two_pow, Nat.testBit_shiftLeft, Nat.testBit_two_pow_sub_one]
  simp only [hi, decide_true, Bool.true_and, ← Bool.decide_and]
  exact decide_eq_decide.mpr (by omega)

/-- Testing one bit of a word with `1 << b`. -/
theorem and_single_ne_zero_iff (w : UInt64) (hb : b < 64) :
    w &&& single b ≠ 0 ↔ w.toNat.testBit b = true := by
  rw [Ne, word_eq_zero_iff]
  simp only [UInt64.toNat_and, Nat.testBit_and, testBit_single hb]
  constructor
  · intro h
    by_contra hw
    refine h (fun i _ => ?_)
    by_cases hbi : b = i
    · subst hbi
      simp [Bool.not_eq_true _ ▸ hw]
    · simp [hbi]
  · intro hw h
    simpa [hw] using h b hb

/-- A word has no bit in a run exactly when its `and` with the mask is zero. -/
theorem and_mask_eq_zero_iff (w : UInt64) {count : Nat} (hrun : b + count ≤ 64) (hb : b < 64) :
    w &&& mask b count = 0 ↔ ∀ i, b ≤ i → i < b + count → w.toNat.testBit i = false := by
  rw [word_eq_zero_iff]
  simp only [UInt64.toNat_and, Nat.testBit_and]
  constructor
  · intro h i h₁ h₂
    have := h i (by omega)
    rw [testBit_mask hrun hb (by omega)] at this
    simpa [h₁, h₂] using this
  · intro h i hi
    rw [testBit_mask hrun hb hi]
    by_cases hin : b ≤ i ∧ i < b + count
    · simp [h i hin.1 hin.2]
    · simp [hin]

/-! ## Bits of bitmaps -/

theorem bit_orWord_single (words : Nat → UInt64) (p q : Nat) :
    bit (orWord words (p / 64) (single (p % 64))) q = (bit words q || decide (p = q)) := by
  unfold bit orWord
  by_cases hw : q / 64 = p / 64
  · rw [if_pos hw, UInt64.toNat_or, Nat.testBit_or, testBit_single (by omega)]
    exact congrArg _ (decide_eq_decide.mpr (by omega))
  · rw [if_neg hw]
    have : p ≠ q := by
      rintro rfl
      exact hw rfl
    simp [this]

theorem bit_orWord_mask (words : Nat → UInt64) {p count : Nat} (q : Nat)
    (hrun : p % 64 + count ≤ 64) :
    bit (orWord words (p / 64) (mask (p % 64) count)) q
      = (bit words q || decide (p ≤ q ∧ q < p + count)) := by
  unfold bit orWord
  by_cases hw : q / 64 = p / 64
  · rw [if_pos hw, UInt64.toNat_or, Nat.testBit_or,
      testBit_mask hrun (by omega) (by omega)]
    exact congrArg _ (decide_eq_decide.mpr (by omega))
  · rw [if_neg hw]
    have : ¬ (p ≤ q ∧ q < p + count) := by omega
    simp [this]

/-- Bitmaps with the same bits are the same words. -/
theorem bitmap_ext {v w : Nat → UInt64} (h : ∀ p, bit v p = bit w p) : v = w := by
  funext k
  refine word_ext (fun i hi => ?_)
  have := h (64 * k + i)
  unfold bit at this
  rwa [show (64 * k + i) / 64 = k by omega, show (64 * k + i) % 64 = i by omega] at this

end Bitmap
