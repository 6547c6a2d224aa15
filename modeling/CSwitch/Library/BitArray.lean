import Mathlib

/-! Bit arrays in byte memory. Bit `i` of the array at an address is one bit of
the memory, at the position `8 * address + i`, so that arrays at different places
do not interfere as long as their positions differ. -/

set_option autoImplicit false

namespace CSwitch.Library

/-- The memory, as the byte at every address. -/
structure Bytes where
  byte : Nat → BitVec 8

instance : CoeFun Bytes fun _ => Nat → BitVec 8 := ⟨Bytes.byte⟩

namespace Bytes

variable (bytes : Bytes)

def write (address : Nat) (value : BitVec 8) : Bytes := ⟨Function.update bytes.byte address value⟩

/-- The mask of a bit in its byte. -/
def bitMask (bit : Nat) : BitVec 8 := 1#8 <<< (bit % 8)

def isSet (array bit : Nat) : Bool := bytes (array + bit >>> 3) &&& bitMask bit == bitMask bit

def setBit (array bit : Nat) : Bytes :=
  bytes.write (array + bit >>> 3) (bytes (array + bit >>> 3) ||| bitMask bit)

def clearBit (array bit : Nat) : Bytes :=
  bytes.write (array + bit >>> 3) (bytes (array + bit >>> 3) &&& ~~~bitMask bit)

/-- `count` bytes are overwritten by zero. -/
def zero (start count : Nat) : Bytes :=
  ⟨fun address => if start ≤ address ∧ address < start + count then 0#8 else bytes address⟩

def position (array bit : Nat) : Nat := 8 * array + bit

/-- The bit of the memory at a position. -/
def bitAt (position : Nat) : Bool := (bytes (position / 8)).getLsbD (position % 8)

variable {bytes}

@[simp] theorem write_self (address : Nat) (value : BitVec 8) :
    bytes.write address value address = value :=
  Function.update_self _ _ _

theorem write_of_ne {address other : Nat} {value : BitVec 8} (apart : other ≠ address) :
    bytes.write address value other = bytes other :=
  Function.update_of_ne apart _ _

theorem bitMask_eq (bit : Nat) : bitMask bit = BitVec.twoPow 8 (bit % 8) := by
  unfold bitMask
  rw [BitVec.twoPow_eq]

theorem position_div (array bit : Nat) : position array bit / 8 = array + bit >>> 3 := by
  unfold position
  rw [Nat.shiftRight_eq_div_pow]
  omega

theorem position_mod (array bit : Nat) : position array bit % 8 = bit % 8 := by
  unfold position
  omega

theorem isSet_eq (array bit : Nat) : bytes.isSet array bit = bytes.bitAt (position array bit) := by
  have small : bit % 8 < 8 := Nat.mod_lt _ (by decide)
  unfold isSet bitAt
  rw [position_div, position_mod, bitMask_eq, BitVec.and_twoPow]
  split
  next held => rw [held, beq_self_eq_true]
  next clear =>
    rw [Bool.eq_false_of_not_eq_true clear, beq_eq_false_iff_ne]
    intro same
    have bitValue := congrArg (fun value => value.getLsbD (bit % 8)) same
    simp [small] at bitValue

theorem bitAt_setBit (array bit other : Nat) :
    (bytes.setBit array bit).bitAt other =
      if other = position array bit then true else bytes.bitAt other := by
  have small : other % 8 < 8 := Nat.mod_lt _ (by decide)
  unfold bitAt setBit
  rw [← position_div, bitMask_eq, ← position_mod array bit]
  by_cases byte : other / 8 = position array bit / 8
  · rw [byte, write_self, BitVec.getLsbD_or, BitVec.getLsbD_twoPow]
    by_cases same : other = position array bit
    · simp [same, Nat.mod_lt]
    · have apart : position array bit % 8 ≠ other % 8 := by omega
      simp [same, apart]
  · rw [write_of_ne byte, if_neg]
    rintro rfl
    exact byte rfl

theorem bitAt_clearBit (array bit other : Nat) :
    (bytes.clearBit array bit).bitAt other =
      if other = position array bit then false else bytes.bitAt other := by
  have small : other % 8 < 8 := Nat.mod_lt _ (by decide)
  unfold bitAt clearBit
  rw [← position_div, bitMask_eq, ← position_mod array bit]
  by_cases byte : other / 8 = position array bit / 8
  · rw [byte, write_self, BitVec.getLsbD_and, BitVec.getLsbD_not, BitVec.getLsbD_twoPow]
    by_cases same : other = position array bit
    · simp [same, Nat.mod_lt]
    · have apart : position array bit % 8 ≠ other % 8 := by omega
      simp [same, apart, small]
  · rw [write_of_ne byte, if_neg]
    rintro rfl
    exact byte rfl

/-- A store changes the byte of its bit only. -/
theorem setBit_of_ne {array bit address : Nat} (apart : address ≠ array + bit >>> 3) :
    bytes.setBit array bit address = bytes address :=
  write_of_ne apart

theorem clearBit_of_ne {array bit address : Nat} (apart : address ≠ array + bit >>> 3) :
    bytes.clearBit array bit address = bytes address :=
  write_of_ne apart

theorem bitAt_of_zero {other : Nat} (zero : bytes (other / 8) = 0#8) : bytes.bitAt other = false := by
  unfold bitAt
  rw [zero, BitVec.getLsbD_zero]

end Bytes

end CSwitch.Library
