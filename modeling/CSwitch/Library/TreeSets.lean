import Mathlib

/-! Sets of numbers as ordered trees: unions built by folding, and the list of
their elements. -/

set_option autoImplicit false

namespace CSwitch.Library

open Std (TreeSet)

theorem nodup_toList (set : TreeSet Nat) : set.toList.Nodup :=
  TreeSet.distinct_toList.imp (by simp)

theorem one_lt_size_iff {set : TreeSet Nat} :
    1 < set.size ↔ ∃ left ∈ set, ∃ right ∈ set, left ≠ right := by
  rw [← TreeSet.length_toList, ← List.toFinset_card_of_nodup (nodup_toList set), Finset.one_lt_card]
  simp only [List.mem_toFinset, TreeSet.mem_toList]

/-- A fold whose every step adds the values of its item. -/
theorem mem_foldl_iff {α : Type} {step : TreeSet Nat → α → TreeSet Nat} (adds : α → Nat → Prop)
    (each : ∀ set item value, value ∈ step set item ↔ value ∈ set ∨ adds item value)
    {items : List α} {start : TreeSet Nat} {value : Nat} :
    value ∈ items.foldl step start ↔ value ∈ start ∨ ∃ item ∈ items, adds item value := by
  induction items generalizing start with
  | nil => simp
  | cons item rest ih =>
      rw [List.foldl_cons, ih, each, List.exists_mem_cons_iff, or_assoc]

theorem mem_foldl_insert {elements : List Nat} {set : TreeSet Nat} {value : Nat} :
    value ∈ elements.foldl TreeSet.insert set ↔ value ∈ elements ∨ value ∈ set := by
  have adds : ∀ (set : TreeSet Nat) (element value : Nat),
      value ∈ set.insert element ↔ value ∈ set ∨ value = element := by
    intro set element value
    rw [TreeSet.mem_insert, compare_eq_iff_eq, or_comm, @eq_comm _ element]
  rw [mem_foldl_iff (fun element value => value = element) adds, exists_eq_right', or_comm]

/-- The union of the sets of some items. -/
theorem mem_foldl_union {α : Type} {items : List α} {setOf : α → TreeSet Nat} {value : Nat} :
    value ∈ items.foldl (fun (union : TreeSet Nat) item => (setOf item).foldl .insert union) ∅ ↔
      ∃ item ∈ items, value ∈ setOf item := by
  have adds : ∀ (union : TreeSet Nat) (item : α) (value : Nat),
      value ∈ (setOf item).foldl .insert union ↔ value ∈ union ∨ value ∈ setOf item := by
    intro union item value
    rw [TreeSet.foldl_eq_foldl_toList, mem_foldl_insert, TreeSet.mem_toList, or_comm]
  rw [mem_foldl_iff (fun item value => value ∈ setOf item) adds]
  simp

/-- The values that the sets of all items share. -/
theorem mem_foldl_inter {α : Type} {items : List α} {setOf : α → TreeSet Nat}
    {start : TreeSet Nat} {value : Nat} :
    value ∈ items.foldl (fun common item => common ∩ setOf item) start ↔
      value ∈ start ∧ ∀ item ∈ items, value ∈ setOf item := by
  induction items generalizing start with
  | nil => simp
  | cons item rest ih => rw [List.foldl_cons, ih, TreeSet.mem_inter_iff, List.forall_mem_cons, and_assoc]

end CSwitch.Library
