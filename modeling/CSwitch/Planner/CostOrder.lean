import CSwitch.Planner.Cost
import CSwitch.Policy.CandidateOrder

/-! The placement order of plan costs is a total preorder: every comparison of
`cost.rs` is a lexicographic order of keys. -/

set_option autoImplicit false

namespace CSwitch

open Std (TransOrd TransCmp OrientedCmp ReflCmp)

namespace Planner

namespace PlannerHardConstraints

theorem cmp_eq_lex : cmp =
    compareLex (compareOn slotOverCapacity) (compareLex (compareOn secondaryViolationCount)
      (compareLex (compareOn migrationBudgetViolations) (compareOn syncSplitViolations))) :=
  rfl

instance : Ord PlannerHardConstraints := ⟨cmp⟩

instance : TransOrd PlannerHardConstraints :=
  show TransCmp cmp by
    rw [cmp_eq_lex]
    infer_instance

theorem isGE_then {first second : Ordering} (left : first.isGE = true)
    (right : second.isGE = true) : (first.then second).isGE = true := by
  cases first with
  | lt => cases left
  | eq => exact right
  | gt => rfl

/-- Nothing is below a plan without hard violations. -/
theorem cmp_none_isGE (hard : PlannerHardConstraints) : (hard.cmp {}).isGE = true := by
  have slots : (hard.slotOverCapacity.cmp .withinCapacity).isGE = true := by
    cases hard.slotOverCapacity <;> rfl
  exact isGE_then slots (isGE_then (Nat.isGE_compare.mpr (Nat.zero_le _))
    (isGE_then (Nat.isGE_compare.mpr (Nat.zero_le _)) (Nat.isGE_compare.mpr (Nat.zero_le _))))

theorem cmp_isLE_trans {first second third : PlannerHardConstraints}
    (left : (first.cmp second).isLE = true) (right : (second.cmp third).isLE = true) :
    (first.cmp third).isLE = true := by
  change (compare first third).isLE = true
  exact TransCmp.isLE_trans left right

end PlannerHardConstraints

namespace PlannerCostBreakdown

instance : TransCmp cmpForPlacement :=
  inferInstanceAs (TransCmp (compareLex (compareOn hardConstraints) (compareOn softCost)))

variable {first second third : PlannerCostBreakdown}

theorem isBetterThan_iff : first.isBetterThan second = true ↔ first.cmpForPlacement second = .lt := by
  unfold isBetterThan
  cases first.cmpForPlacement second <;> simp

theorem not_isBetterThan_self (cost : PlannerCostBreakdown) : cost.isBetterThan cost = false := by
  have same : cost.cmpForPlacement cost = .eq := ReflCmp.compare_self
  rw [isBetterThan, same]
  rfl

theorem isBetterThan_trans (left : first.isBetterThan second = true)
    (right : second.isBetterThan third = true) : first.isBetterThan third = true := by
  rw [isBetterThan_iff] at left right ⊢
  exact TransCmp.lt_trans left right

/-- A placement that is no worse has no worse hard constraints. -/
theorem hardConstraints_le_of_le (ordered : (first.cmpForPlacement second).isLE = true) :
    (first.hardConstraints.cmp second.hardConstraints).isLE = true := by
  unfold cmpForPlacement at ordered
  cases order : first.hardConstraints.cmp second.hardConstraints with
  | lt => rfl
  | eq => rfl
  | gt =>
      rw [order] at ordered
      cases ordered

end PlannerCostBreakdown

end Planner

end CSwitch
