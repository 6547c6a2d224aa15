import Mathlib

/-! Choosing a number of candidates: evenly spaced along their list, or the
largest ones by a weight. -/

set_option autoImplicit false

namespace CSwitch.Library

/-! ## Evenly spaced -/

section Even

variable {count length : Nat}

theorem evenIndex_lt (fits : count ≤ length) (positive : 0 < count) {left right : Nat}
    (less : left < right) : left * length / count < right * length / count := by
  have room : left * length + count ≤ right * length :=
    calc left * length + count ≤ left * length + length := Nat.add_le_add_left fits _
      _ = (left + 1) * length := (Nat.succ_mul left length).symm
      _ ≤ right * length := Nat.mul_le_mul_right length less
  calc left * length / count < left * length / count + 1 := Nat.lt_succ_self _
    _ = (left * length + count) / count := (Nat.add_div_right _ positive).symm
    _ ≤ right * length / count := Nat.div_le_div_right room

theorem evenIndex_bound (fits : count ≤ length) {index : Nat} (within : index < count) :
    index * length / count < length := by
  apply Nat.div_lt_of_lt_mul
  exact Nat.mul_lt_mul_of_pos_right within (by omega)

end Even

/-! ## Largest first -/

section Largest

variable {α β : Type} {le : α → α → Prop} {weightLe : β → β → Prop} {weight : α → β}
  [DecidableRel le] [DecidableRel weightLe] [Std.Total le] [IsTrans α le] [Std.Total weightLe]
  [IsTrans β weightLe] [Std.Antisymm weightLe]

/-- Sorting by an order that refines the order of the weights sorts the weights. -/
theorem map_insertionSort_weight (refines : ∀ left right, le left right →
      weightLe (weight left) (weight right)) (elements : List α) :
    (elements.insertionSort le).map weight = (elements.map weight).insertionSort weightLe := by
  apply List.Perm.eq_of_pairwise' (r := weightLe)
  · rw [List.pairwise_map]
    exact (List.pairwise_insertionSort le elements).imp fun ordered => refines _ _ ordered
  · exact List.pairwise_insertionSort weightLe _
  · exact ((List.perm_insertionSort le elements).map weight).trans
      (List.perm_insertionSort weightLe (elements.map weight)).symm

end Largest

theorem sum_take_le {weights : List Nat} {fewer more : Nat} (less : fewer ≤ more) :
    (weights.take fewer).sum ≤ (weights.take more).sum := by
  have pieces : (weights.take more).take fewer ++ (weights.take more).drop fewer =
      weights.take more := List.take_append_drop fewer _
  rw [← pieces, List.sum_append, List.take_take, Nat.min_eq_left less]
  exact Nat.le_add_right _ _

end CSwitch.Library
