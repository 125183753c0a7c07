import SpwKit.Lib.BigEndian
import Mathlib.Logic.Equiv.Defs

/-!
# Records of fixed size

A record on the wire is a number of fields one after the other, each of a size
that does not depend on its value. A `FixedCodec` writes such a value and reads
one from the front of a string, and carries the two laws that make it a codec:
what was written is read, whatever follows, and what was read is written as it
stood there. Fields put side by side (`both`) and a record seen as the tuple of
its fields (`via`) keep the laws, so that those of a whole record follow from
its layout.

A decoder that does not trust what it reads is a row of checks that names the
first one to fail; `Except.ite_error_eq_ok` takes such a row apart.
-/

/-- A check that names its failure lets a value through exactly when it passes. -/
theorem Except.ite_error_eq_ok {ε α : Type} {c : Prop} [Decidable c] {e : ε} {x : Except ε α}
    {value : α} : (if c then Except.error e else x) = .ok value ↔ ¬ c ∧ x = .ok value := by
  by_cases h : c <;> simp [h]

/-- A codec of values that all take the same number of bytes. -/
structure FixedCodec (α : Type) where
  /-- How many bytes a value takes. -/
  size : Nat
  write : α → Bytes
  read : Bytes → α
  length_write : ∀ value, (write value).length = size
  read_write : ∀ value rest, read (write value ++ rest) = value
  write_read : ∀ bytes, size ≤ bytes.length → write (read bytes) = bytes.take size

namespace FixedCodec

open BigEndian

variable {α β : Type}

/-- One byte. -/
def byte : FixedCodec UInt8 where
  size := 1
  write value := [value]
  read bytes := byteAt bytes 0
  length_write _ := rfl
  read_write _ _ := rfl
  write_read bytes h := by
    have hfront : bytes.take 1 = byteAt bytes 0 :: (bytes.drop 1).take 0 :=
      take_drop_succ (show 0 + (0 + 1) ≤ bytes.length from h)
    rw [hfront, List.take_zero]

/-- A word of 16 bits. -/
def u16 : FixedCodec UInt16 where
  size := 2
  write := writeU16
  read bytes := readU16 bytes 0
  length_write := writeU16_length
  read_write := readU16_writeU16
  write_read _ h := writeU16_readU16 (by omega)

/-- A word of 32 bits. -/
def u32 : FixedCodec UInt32 where
  size := 4
  write := writeU32
  read bytes := readU32 bytes 0
  length_write := writeU32_length
  read_write := readU32_writeU32
  write_read _ h := writeU32_readU32 (by omega)

/-- A word of 64 bits. -/
def u64 : FixedCodec UInt64 where
  size := 8
  write := writeU64
  read bytes := readU64 bytes 0
  length_write := writeU64_length
  read_write := readU64_writeU64
  write_read _ h := writeU64_readU64 (by omega)

/-- Two fields, one after the other. -/
def both (first : FixedCodec α) (second : FixedCodec β) : FixedCodec (α × β) where
  size := first.size + second.size
  write value := first.write value.1 ++ second.write value.2
  read bytes := (first.read bytes, second.read (bytes.drop first.size))
  length_write value := by
    rw [List.length_append, first.length_write, second.length_write]
  read_write value rest := by
    rw [List.append_assoc, first.read_write, List.drop_left' (first.length_write _),
      second.read_write]
  write_read bytes h := by
    have hrest : second.size ≤ (bytes.drop first.size).length := by
      rw [List.length_drop]
      omega
    rw [first.write_read _ (by omega), second.write_read _ hrest, ← List.take_add]

/-- The same bytes for values that correspond one to one. -/
def via (codec : FixedCodec α) (e : α ≃ β) : FixedCodec β where
  size := codec.size
  write value := codec.write (e.symm value)
  read bytes := e (codec.read bytes)
  length_write _ := codec.length_write _
  read_write value rest := by rw [codec.read_write, e.apply_symm_apply]
  write_read bytes h := by rw [e.symm_apply_apply, codec.write_read bytes h]

/-- A word of 32 bits that stands for a signed number. -/
def i32 : FixedCodec Int32 :=
  u32.via
    { toFun := UInt32.toInt32
      invFun := Int32.toUInt32
      left_inv := fun _ => rfl
      right_inv := fun _ => rfl }

/-- What was written alone is read. -/
theorem read_write_self (codec : FixedCodec α) (value : α) :
    codec.read (codec.write value) = value := by
  simpa using codec.read_write value []

/-- A string of the right length is written as it was read. -/
theorem write_read_self (codec : FixedCodec α) {bytes : Bytes}
    (h : bytes.length = codec.size) : codec.write (codec.read bytes) = bytes := by
  rw [codec.write_read bytes (le_of_eq h.symm), List.take_of_length_le (le_of_eq h)]

end FixedCodec
