import Mathlib.Data.Nat.Bitwise
import Mathlib.Tactic.Common

/-!
# Big-endian words in a string of bytes

The `write` functions give the bytes of a word, most significant first; the
`read` functions take a word back at an offset of a byte string, a byte beyond
the end counting as zero. Reading at the place a word was written gives the
word (`readU16_writeU16` and its wider forms).
Writing the word that was read gives its bytes (`writeU16_readU16` and its
wider forms), so the two are inverse to each other on strings long enough.

The shifted bytes of a word do not overlap, so a word that was read is a sum
(`readU32_toNat`), and the rest is division by powers of two.
-/

/-- A string of bytes. -/
abbrev Bytes := List UInt8

namespace BigEndian

variable (src : Bytes)

/-- The byte of a string at an offset, zero beyond the end. -/
def byteAt (i : Nat) : UInt8 := src.getD i 0

/-- The two bytes of a 16-bit word. -/
def writeU16 (value : UInt16) : Bytes :=
  [((value >>> 8) &&& 0xff).toUInt8, (value &&& 0xff).toUInt8]

/-- The four bytes of a 32-bit word. -/
def writeU32 (value : UInt32) : Bytes :=
  [((value >>> 24) &&& 0xff).toUInt8, ((value >>> 16) &&& 0xff).toUInt8,
    ((value >>> 8) &&& 0xff).toUInt8, (value &&& 0xff).toUInt8]

/-- The eight bytes of a 64-bit word, written as two halves. -/
def writeU64 (value : UInt64) : Bytes :=
  writeU32 (value >>> 32).toUInt32 ++ writeU32 (value &&& 0xffffffff).toUInt32

/-- The 16-bit word at an offset. -/
def readU16 (i : Nat) : UInt16 :=
  ((byteAt src i).toUInt16 <<< 8) ||| (byteAt src (i + 1)).toUInt16

/-- The 32-bit word at an offset. -/
def readU32 (i : Nat) : UInt32 :=
  ((byteAt src i).toUInt32 <<< 24) ||| ((byteAt src (i + 1)).toUInt32 <<< 16) |||
    ((byteAt src (i + 2)).toUInt32 <<< 8) ||| (byteAt src (i + 3)).toUInt32

/-- The 64-bit word at an offset, read as two halves. -/
def readU64 (i : Nat) : UInt64 :=
  ((readU32 src i).toUInt64 <<< 32) ||| (readU32 src (i + 4)).toUInt64

variable {i : Nat} {src : Bytes}

@[simp] theorem writeU16_length (v : UInt16) : (writeU16 v).length = 2 := rfl

@[simp] theorem writeU32_length (v : UInt32) : (writeU32 v).length = 4 := rfl

@[simp] theorem writeU64_length (v : UInt64) : (writeU64 v).length = 8 := rfl

/-- Reading at an offset reads what is left after dropping that much. -/
theorem byteAt_add (src : Bytes) (i j : Nat) : byteAt src (i + j) = byteAt (src.drop i) j := by
  simp [byteAt, List.getD_eq_getElem?_getD]

theorem readU32_eq_drop (src : Bytes) (i : Nat) : readU32 src i = readU32 (src.drop i) 0 := by
  have h0 : byteAt src i = byteAt (src.drop i) 0 := byteAt_add src i 0
  simp only [readU32, h0, byteAt_add src i 1, byteAt_add src i 2, byteAt_add src i 3,
    Nat.zero_add]

@[simp] theorem byteAt_drop (src : Bytes) (i j : Nat) :
    byteAt (src.drop i) j = byteAt src (i + j) :=
  (byteAt_add src i j).symm

@[simp] theorem readU16_drop (src : Bytes) (i j : Nat) :
    readU16 (src.drop i) j = readU16 src (i + j) := by
  simp only [readU16, byteAt_drop, Nat.add_assoc]

@[simp] theorem readU32_drop (src : Bytes) (i j : Nat) :
    readU32 (src.drop i) j = readU32 src (i + j) := by
  simp only [readU32, byteAt_drop, Nat.add_assoc]

@[simp] theorem readU64_drop (src : Bytes) (i j : Nat) :
    readU64 (src.drop i) j = readU64 src (i + j) := by
  simp only [readU64, readU32_drop, Nat.add_assoc]

/-! ## A word read is a sum of its bytes -/

theorem mul_two_pow_or {a b : Nat} (hb : b < 2 ^ i) : a * 2 ^ i ||| b = a * 2 ^ i + b := by
  rw [← Nat.shiftLeft_eq, Nat.shiftLeft_add_eq_or_of_lt hb]

theorem readU16_toNat (src : Bytes) (i : Nat) :
    (readU16 src i).toNat = (byteAt src i).toNat * 2 ^ 8 + (byteAt src (i + 1)).toNat := by
  have h0 := (byteAt src i).toNat_lt
  have h1 := (byteAt src (i + 1)).toNat_lt
  have e8 : ((byteAt src i).toUInt16 <<< 8).toNat = (byteAt src i).toNat * 2 ^ 8 := by
    simp [Nat.shiftLeft_eq]
    omega
  simp only [readU16, UInt16.toNat_or, e8, UInt8.toNat_toUInt16]
  exact mul_two_pow_or h1

theorem readU32_toNat (src : Bytes) (i : Nat) :
    (readU32 src i).toNat
      = (byteAt src i).toNat * 2 ^ 24 + (byteAt src (i + 1)).toNat * 2 ^ 16
        + (byteAt src (i + 2)).toNat * 2 ^ 8 + (byteAt src (i + 3)).toNat := by
  have h0 := (byteAt src i).toNat_lt
  have h1 := (byteAt src (i + 1)).toNat_lt
  have h2 := (byteAt src (i + 2)).toNat_lt
  have h3 := (byteAt src (i + 3)).toNat_lt
  have e24 : ((byteAt src i).toUInt32 <<< 24).toNat = (byteAt src i).toNat * 2 ^ 24 := by
    simp [Nat.shiftLeft_eq]
    omega
  have e16 : ((byteAt src (i + 1)).toUInt32 <<< 16).toNat
      = (byteAt src (i + 1)).toNat * 2 ^ 16 := by
    simp [Nat.shiftLeft_eq]
    omega
  have e8 : ((byteAt src (i + 2)).toUInt32 <<< 8).toNat
      = (byteAt src (i + 2)).toNat * 2 ^ 8 := by
    simp [Nat.shiftLeft_eq]
    omega
  simp only [readU32, UInt32.toNat_or, e24, e16, e8, UInt8.toNat_toUInt32, Nat.or_assoc]
  -- from the lowest byte upwards, so that each bound is already a sum
  rw [mul_two_pow_or h3]
  rw [mul_two_pow_or (i := 16) (by omega)]
  rw [mul_two_pow_or (i := 24) (by omega)]
  omega

theorem readU64_toNat (src : Bytes) (i : Nat) :
    (readU64 src i).toNat
      = (readU32 src i).toNat * 2 ^ 32 + (readU32 src (i + 4)).toNat := by
  have h0 := (readU32 src i).toNat_lt
  have h1 := (readU32 src (i + 4)).toNat_lt
  have e32 : ((readU32 src i).toUInt64 <<< 32).toNat = (readU32 src i).toNat * 2 ^ 32 := by
    simp [Nat.shiftLeft_eq]
    omega
  simp only [readU64, UInt64.toNat_or, e32, UInt32.toNat_toUInt64]
  exact mul_two_pow_or h1

/-! ## The words come back -/

theorem readU16_writeU16 (v : UInt16) (rest : Bytes) : readU16 (writeU16 v ++ rest) 0 = v := by
  apply UInt16.toNat_inj.mp
  rw [readU16_toNat]
  have hv := v.toNat_lt
  simp [writeU16, byteAt, Nat.shiftRight_eq_div_pow, Nat.and_two_pow_sub_one_eq_mod _ 8]
  omega

theorem readU32_writeU32 (v : UInt32) (rest : Bytes) : readU32 (writeU32 v ++ rest) 0 = v := by
  apply UInt32.toNat_inj.mp
  rw [readU32_toNat]
  have hv := v.toNat_lt
  simp [writeU32, byteAt, Nat.shiftRight_eq_div_pow, Nat.and_two_pow_sub_one_eq_mod _ 8]
  omega

theorem readU64_writeU64 (v : UInt64) (rest : Bytes) : readU64 (writeU64 v ++ rest) 0 = v := by
  have hlow : readU32 (writeU64 v ++ rest) (0 + 4) = (v &&& 0xffffffff).toUInt32 := by
    rw [writeU64, List.append_assoc, readU32_eq_drop]
    exact readU32_writeU32 _ _
  have hhigh : readU32 (writeU64 v ++ rest) 0 = (v >>> 32).toUInt32 := by
    rw [writeU64, List.append_assoc]
    exact readU32_writeU32 _ _
  apply UInt64.toNat_inj.mp
  rw [readU64_toNat, hlow, hhigh]
  have hv := v.toNat_lt
  simp [Nat.shiftRight_eq_div_pow, Nat.and_two_pow_sub_one_eq_mod _ 32]
  omega

/-! ## The bytes come back -/

/-- The bytes in front of a string, one after the other. -/
theorem take_drop_succ {n : Nat} (h : i + (n + 1) ≤ src.length) :
    (src.drop i).take (n + 1) = byteAt src i :: (src.drop (i + 1)).take n := by
  rw [List.drop_eq_getElem_cons (by omega), List.take_succ_cons]
  simp [byteAt, List.getElem?_eq_getElem (show i < src.length by omega)]

theorem writeU16_readU16 (h : i + 2 ≤ src.length) :
    writeU16 (readU16 src i) = (src.drop i).take 2 := by
  have h0 := (byteAt src i).toNat_lt
  have h1 := (byteAt src (i + 1)).toNat_lt
  rw [take_drop_succ h, take_drop_succ (by omega), List.take_zero]
  simp only [writeU16, List.cons.injEq, ← UInt8.toNat_inj, and_true]
  constructor
  · simp [readU16_toNat, Nat.shiftRight_eq_div_pow, Nat.and_two_pow_sub_one_eq_mod _ 8]
    omega
  · simp [readU16_toNat, Nat.and_two_pow_sub_one_eq_mod _ 8]

theorem writeU32_readU32 (h : i + 4 ≤ src.length) :
    writeU32 (readU32 src i) = (src.drop i).take 4 := by
  have h0 := (byteAt src i).toNat_lt
  have h1 := (byteAt src (i + 1)).toNat_lt
  have h2 := (byteAt src (i + 2)).toNat_lt
  have h3 := (byteAt src (i + 3)).toNat_lt
  rw [take_drop_succ h, take_drop_succ (by omega), take_drop_succ (by omega),
    take_drop_succ (by omega), List.take_zero]
  simp only [writeU32, List.cons.injEq, ← UInt8.toNat_inj, and_true, Nat.add_assoc]
  refine ⟨?_, ?_, ?_, ?_⟩
  all_goals
    simp [readU32_toNat, Nat.shiftRight_eq_div_pow, Nat.and_two_pow_sub_one_eq_mod _ 8]
    omega

theorem writeU64_readU64 (h : i + 8 ≤ src.length) :
    writeU64 (readU64 src i) = (src.drop i).take 8 := by
  have hhigh : (readU64 src i >>> 32).toUInt32 = readU32 src i := by
    apply UInt32.toNat_inj.mp
    have h0 := (readU32 src i).toNat_lt
    have h1 := (readU32 src (i + 4)).toNat_lt
    simp [readU64_toNat, Nat.shiftRight_eq_div_pow]
    omega
  have hlow : (readU64 src i &&& 0xffffffff).toUInt32 = readU32 src (i + 4) := by
    apply UInt32.toNat_inj.mp
    have h1 := (readU32 src (i + 4)).toNat_lt
    simp [readU64_toNat, Nat.and_two_pow_sub_one_eq_mod _ 32]
  rw [writeU64, hhigh, hlow, writeU32_readU32 (by omega), writeU32_readU32 (by omega),
    ← List.drop_drop, ← List.take_add]

end BigEndian
