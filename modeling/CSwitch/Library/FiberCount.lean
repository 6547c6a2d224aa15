import Mathlib

/-! Counting the fibres of a map on a finite set. A point update moves one
element from the fibre of its old value to that of its new one. -/

set_option autoImplicit false

namespace FiberCount

variable {α β : Type} [DecidableEq β]

/-- The number of elements of a finite set that a map sends to a value. -/
def fiberCount (domain : Finset α) (map : α → β) (value : β) : Nat :=
  (domain.filter fun element => map element = value).card

variable [DecidableEq α]

/-- Moving one element of the set from its old fibre to a new one. -/
theorem fiberCount_update {domain : Finset α} {element : α} (member : element ∈ domain)
    (map : α → β) (next value : β) :
    fiberCount domain (Function.update map element next) value +
        (if map element = value then 1 else 0) =
      fiberCount domain map value + (if next = value then 1 else 0) := by
  have others : ∑ other ∈ domain.erase element,
      (if Function.update map element next other = value then 1 else 0) =
      ∑ other ∈ domain.erase element, if map other = value then 1 else 0 := by
    refine Finset.sum_congr rfl ?_
    intro other kept
    rw [Function.update_of_ne (Finset.ne_of_mem_erase kept)]
  simp only [fiberCount, Finset.card_filter]
  rw [← Finset.add_sum_erase domain _ member, ← Finset.add_sum_erase domain
    (fun other => if map other = value then 1 else 0) member, others, Function.update_self]
  omega

theorem fiberCount_union {left right : Finset α} (disjoint : Disjoint left right) (map : α → β)
    (value : β) : fiberCount (left ∪ right) map value =
      fiberCount left map value + fiberCount right map value := by
  unfold fiberCount
  rw [Finset.filter_union, Finset.card_union_of_disjoint
    (Finset.disjoint_filter_filter disjoint)]

/-- The fibre over a duplicate-free list of elements counts list entries. -/
theorem fiberCount_toFinset {elements : List α} (unique : elements.Nodup) (map : α → β)
    (value : β) :
    fiberCount elements.toFinset map value =
      elements.countP fun element => decide (map element = value) := by
  have filtered : (elements.toFinset.filter fun element => map element = value) =
      (elements.filter fun element => decide (map element = value)).toFinset := by
    ext element
    simp
  rw [fiberCount, filtered, List.toFinset_card_of_nodup (unique.filter _),
    List.countP_eq_length_filter]

end FiberCount
