import Mathlib

/-! Arithmetic in a type of numbers up to a bound: an operation that checks its
result, one that wraps and one that saturates, all from the exact value. -/

set_option autoImplicit false

namespace CSwitch.Library

/-- The exact value, unless it is out of range. -/
def checkedIn (bound exact : Nat) : Option Nat := if exact ≤ bound then some exact else none

def wrapIn (bound exact : Nat) : Nat := exact % (bound + 1)

def clampIn (bound exact : Nat) : Nat := min exact bound

variable {bound exact value left right : Nat}

theorem checkedIn_of_le (fits : exact ≤ bound) : checkedIn bound exact = some exact := if_pos fits

theorem checkedIn_eq_some : checkedIn bound exact = some value ↔ exact ≤ bound ∧ exact = value := by
  unfold checkedIn
  split
  next fits => simp [fits]
  next out => simp [out]

theorem isSome_checkedIn : (checkedIn bound exact).isSome = true ↔ exact ≤ bound := by
  unfold checkedIn
  split
  next fits => simp [fits]
  next out => simp [out]

theorem wrapIn_of_le (fits : exact ≤ bound) : wrapIn bound exact = exact :=
  Nat.mod_eq_of_lt (Nat.lt_succ_of_le fits)

theorem clampIn_of_le (fits : exact ≤ bound) : clampIn bound exact = exact := Nat.min_eq_left fits

/-- Wrapping and saturating agree in range, and out of range only at the bound. -/
theorem wrapIn_eq_clampIn_iff :
    wrapIn bound exact = clampIn bound exact ↔ exact ≤ bound ∨ wrapIn bound exact = bound := by
  rcases Nat.lt_or_ge bound exact with out | fits
  · have clamped : clampIn bound exact = bound := Nat.min_eq_right out.le
    rw [clamped, or_iff_right (Nat.not_le.mpr out)]
  · rw [wrapIn_of_le fits, clampIn_of_le fits]
    exact iff_of_true rfl (.inl fits)

/-- A sum of two values of the type never wraps to the bound. -/
theorem wrapIn_add_eq_clampIn_iff (leftFits : left ≤ bound) (rightFits : right ≤ bound) :
    wrapIn bound (left + right) = clampIn bound (left + right) ↔ left + right ≤ bound := by
  rw [wrapIn_eq_clampIn_iff, or_iff_left_iff_imp]
  intro wrapped
  by_contra out
  have once : wrapIn bound (left + right) = left + right - (bound + 1) := by
    unfold wrapIn
    rw [Nat.mod_eq_sub_mod (by omega), Nat.mod_eq_of_lt (by omega)]
  omega

/-- An even product never wraps to the bound of a type of even size. -/
theorem wrapIn_mul_eq_clampIn_iff (even : 2 ∣ right) (size : 2 ∣ bound + 1) :
    wrapIn bound (left * right) = clampIn bound (left * right) ↔ left * right ≤ bound := by
  rw [wrapIn_eq_clampIn_iff, or_iff_left_iff_imp]
  intro wrapped
  have parity : bound % 2 = 0 := by
    rw [← wrapped, wrapIn, Nat.mod_mod_of_dvd _ size]
    exact Nat.mod_eq_zero_of_dvd (even.mul_left left)
  omega

end CSwitch.Library
