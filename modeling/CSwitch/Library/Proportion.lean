import CSwitch.Library.MovingAverage

/-! Handing out an amount in proportion to weights, in floor arithmetic. All parts
but the last get their share rounded down, and the last one gets what is left. -/

set_option autoImplicit false

namespace CSwitch.Library

/-- The share of a weight in an amount, rounded down. -/
def floorShare (amount total weight : Nat) : Nat := weight * amount / total

/-- What the floor shares of some weights leave of an amount. -/
def leftOver (amount total : Nat) (weights : List Nat) : Nat :=
  amount - (weights.map (floorShare amount total)).sum

section Shares

variable (amount : Nat) {total : Nat} {weights : List Nat} {last : Nat}

theorem floorShare_mono (total : Nat) {less more : Nat} (order : less ≤ more) :
    floorShare amount total less ≤ floorShare amount total more :=
  Nat.div_le_div_right (Nat.mul_le_mul_right amount order)

variable {amount} in
/-- A share of less than the whole is less than the weight. -/
theorem floorShare_lt {weight : Nat} (less : amount < total) (weighs : 0 < weight) :
    floorShare amount total weight < weight := by
  unfold floorShare
  rw [Nat.div_lt_iff_lt_mul (Nat.zero_lt_of_lt less)]
  exact Nat.mul_lt_mul_of_pos_left less weighs

theorem sum_floorShare_le (positive : 0 < total) (within : weights.sum ≤ total) :
    (weights.map (floorShare amount total)).sum ≤ amount := by
  have bounds := (sum_shares_bounds amount total positive weights).1
  have room : weights.sum * amount ≤ amount * total := by
    rw [Nat.mul_comm amount]
    exact Nat.mul_le_mul_right amount within
  exact Nat.le_of_mul_le_mul_right (bounds.trans room) positive

theorem sum_floorShare_add_leftOver (positive : 0 < total) (within : weights.sum ≤ total) :
    (weights.map (floorShare amount total)).sum + leftOver amount total weights = amount :=
  Nat.add_sub_cancel' (sum_floorShare_le amount positive within)

/-- What is left is at least the exact share of the weight that is left. -/
theorem mul_le_leftOver_mul (positive : 0 < total) (whole : weights.sum + last ≤ total) :
    last * amount ≤ leftOver amount total weights * total := by
  have bounds := (sum_shares_bounds amount total positive weights).1
  have room : weights.sum * amount + last * amount ≤ amount * total := by
    rw [← Nat.add_mul, Nat.mul_comm amount]
    exact Nat.mul_le_mul_right amount whole
  unfold leftOver
  rw [Nat.sub_mul]
  unfold floorShare
  omega

/-- What is left exceeds the exact share of the weight that is left by less than one
for each of the others. -/
theorem leftOver_mul_le (positive : 0 < total) (whole : total ≤ weights.sum + last) :
    leftOver amount total weights * total ≤
      last * amount + weights.length * (total - 1) := by
  have bounds := (sum_shares_bounds amount total positive weights).2
  have room : amount * total ≤ weights.sum * amount + last * amount := by
    rw [← Nat.add_mul, Nat.mul_comm amount]
    exact Nat.mul_le_mul_right amount whole
  unfold leftOver
  rw [Nat.sub_mul]
  unfold floorShare
  omega

theorem floorShare_le_leftOver (positive : 0 < total) (whole : weights.sum + last ≤ total) :
    floorShare amount total last ≤ leftOver amount total weights := by
  apply Nat.div_le_of_le_mul
  rw [Nat.mul_comm total]
  exact mul_le_leftOver_mul amount positive whole

theorem leftOver_le (positive : 0 < total) (whole : total ≤ weights.sum + last) :
    leftOver amount total weights ≤ floorShare amount total last + weights.length := by
  have upper := leftOver_mul_le amount positive whole
  have split := Nat.div_add_mod (last * amount) total
  have rest := Nat.mod_lt (last * amount) positive
  have fewer : weights.length * (total - 1) ≤ weights.length * total :=
    Nat.mul_le_mul_left _ (Nat.sub_le total 1)
  have less : leftOver amount total weights * total <
      (floorShare amount total last + weights.length + 1) * total := by
    unfold floorShare
    rw [Nat.add_mul, Nat.add_mul, Nat.one_mul, Nat.mul_comm (last * amount / total)]
    omega
  exact Nat.lt_succ_iff.mp (Nat.lt_of_mul_lt_mul_right less)

end Shares

end CSwitch.Library
