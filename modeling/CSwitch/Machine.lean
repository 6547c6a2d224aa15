import Mathlib

/-! Machine integers of the scheduler. Unsigned values are natural numbers and
every operation that the source clamps or wraps is written out here; plain
saturating subtraction is truncated subtraction on `Nat`. -/

set_option autoImplicit false

namespace CSwitch

def u32Max : Nat := 4294967295

def u64Max : Nat := 18446744073709551615

/-- `u32::saturating_add`. -/
def satAdd32 (left right : Nat) : Nat := min (left + right) u32Max

/-- `u64::saturating_add`. -/
def satAdd64 (left right : Nat) : Nat := min (left + right) u64Max

/-- `u32::saturating_mul`. -/
def satMul32 (left right : Nat) : Nat := min (left * right) u32Max

/-- `u64::saturating_mul`. -/
def satMul64 (left right : Nat) : Nat := min (left * right) u64Max

/-- `u32` multiplication of a release build, which wraps. -/
def wrapMul32 (left right : Nat) : Nat := left * right % (u32Max + 1)

/-- `u32` addition of a release build, which wraps. -/
def wrapAdd32 (left right : Nat) : Nat := (left + right) % (u32Max + 1)

/-- `u64` multiplication of a release build, which wraps. -/
def wrapMul64 (left right : Nat) : Nat := left * right % (u64Max + 1)

/-- `u64` addition of a release build, which wraps. -/
def wrapAdd64 (left right : Nat) : Nat := (left + right) % (u64Max + 1)

/-- `div_ceil` for a positive divisor. -/
def divCeil (value divisor : Nat) : Nat := (value + divisor - 1) / divisor

/-- `value as u32` for an `i32`. -/
def asU32 (value : Int) : Nat := (value % 4294967296).toNat

/-- `u32::try_from(value).ok()` for an `i32`. -/
def tryU32 (value : Int) : Option Nat := if 0 ≤ value then some value.toNat else none

/-- `i32::try_from(value).ok()` for a `u32`. -/
def tryI32 (value : Nat) : Option Int := if value < 2147483648 then some value else none

/-- `slice.get(index).copied().flatten()` for a vector of optional values. -/
def getFlat {α : Type} (values : List (Option α)) (index : Nat) : Option α :=
  values[index]?.join

theorem satAdd32_of_le {left right : Nat} (fits : left + right ≤ u32Max) :
    satAdd32 left right = left + right :=
  Nat.min_eq_left fits

/-- Additions that saturate one after another saturate the sum. -/
theorem foldl_saturating (bound : Nat) (values : List Nat) {start : Nat} (fits : start ≤ bound) :
    values.foldl (fun total value => min (total + value) bound) start =
      min (start + values.sum) bound := by
  induction values generalizing start with
  | nil => exact (Nat.min_eq_left fits).symm
  | cons value rest ih =>
      rw [List.foldl_cons, ih (Nat.min_le_right _ _), List.sum_cons]
      omega

theorem foldl_satAdd32 (values : List Nat) {start : Nat} (fits : start ≤ u32Max) :
    values.foldl satAdd32 start = min (start + values.sum) u32Max :=
  foldl_saturating u32Max values fits

theorem foldl_satAdd64 (values : List Nat) {start : Nat} (fits : start ≤ u64Max) :
    values.foldl satAdd64 start = min (start + values.sum) u64Max :=
  foldl_saturating u64Max values fits

theorem wrapMul32_of_le {left right : Nat} (fits : left * right ≤ u32Max) :
    wrapMul32 left right = left * right :=
  Nat.mod_eq_of_lt (Nat.lt_succ_of_le fits)

theorem wrapAdd32_of_le {left right : Nat} (fits : left + right ≤ u32Max) :
    wrapAdd32 left right = left + right :=
  Nat.mod_eq_of_lt (Nat.lt_succ_of_le fits)

theorem wrapAdd64_of_lt {left right : Nat} (fits : left + right < u64Max + 1) :
    wrapAdd64 left right = left + right :=
  Nat.mod_eq_of_lt fits

@[simp] theorem getFlat_eq_some {α : Type} {values : List (Option α)} {index : Nat} {value : α} :
    getFlat values index = some value ↔ values[index]? = some (some value) := by
  unfold getFlat
  cases values[index]? with
  | none => simp
  | some entry => simp

end CSwitch
