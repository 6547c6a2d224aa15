import CSwitch.Policy.Candidate

/-! Cost of a whole assignment: hard constraints first, soft pressure second. -/

set_option autoImplicit false

namespace CSwitch.Planner

open Policy (SlotCapacityConstraint)

def plannerHardConstraintDiagnosticCost : Nat := 4000000000000

structure ConstraintViolations where
  migrationBudgetDomains : List Nat := []
  syncGroupSplits : List Nat := []
  residualPairSplits : List (Nat × Nat) := []

structure PlannerHardConstraints where
  slotOverCapacity : SlotCapacityConstraint := .withinCapacity
  migrationBudgetViolations : Nat := 0
  syncSplitViolations : Nat := 0
  deriving DecidableEq

namespace PlannerHardConstraints

def diagnosticCost (hard : PlannerHardConstraints) : Nat :=
  satAdd64 (satAdd64 hard.slotOverCapacity.diagnosticCost
    (satMul64 plannerHardConstraintDiagnosticCost hard.migrationBudgetViolations))
    (satMul64 plannerHardConstraintDiagnosticCost hard.syncSplitViolations)

def addSaturating (hard other : PlannerHardConstraints) : PlannerHardConstraints where
  slotOverCapacity := hard.slotOverCapacity.combine other.slotOverCapacity
  migrationBudgetViolations :=
    satAdd32 hard.migrationBudgetViolations other.migrationBudgetViolations
  syncSplitViolations := satAdd32 hard.syncSplitViolations other.syncSplitViolations

def secondaryViolationCount (hard : PlannerHardConstraints) : Nat :=
  satAdd32 hard.migrationBudgetViolations hard.syncSplitViolations

def cmp (hard other : PlannerHardConstraints) : Ordering :=
  (hard.slotOverCapacity.cmp other.slotOverCapacity).then
    ((compare hard.secondaryViolationCount other.secondaryViolationCount).then
      ((compare hard.migrationBudgetViolations other.migrationBudgetViolations).then
        (compare hard.syncSplitViolations other.syncSplitViolations)))

end PlannerHardConstraints

structure PlannerCostBreakdown where
  dfOverloadCost : Nat := 0
  llcPressureCost : Nat := 0
  signatureBalanceCost : Nat := 0
  hardConstraints : PlannerHardConstraints := {}
  deriving DecidableEq

namespace PlannerCostBreakdown

def softCost (cost : PlannerCostBreakdown) : Nat :=
  satAdd64 (satAdd64 cost.dfOverloadCost cost.llcPressureCost) cost.signatureBalanceCost

def totalCost (cost : PlannerCostBreakdown) : Nat :=
  satAdd64 cost.softCost cost.hardConstraints.diagnosticCost

/-- `PlannerCostKey::cmp`. -/
def cmpForPlacement (cost other : PlannerCostBreakdown) : Ordering :=
  (cost.hardConstraints.cmp other.hardConstraints).then (compare cost.softCost other.softCost)

def isBetterThan (cost other : PlannerCostBreakdown) : Bool := (cost.cmpForPlacement other).isLT

def clearsMarginAgainst (cost baseline : PlannerCostBreakdown) (marginX100 : Nat) : Bool :=
  if !cost.isBetterThan baseline then false
  else if (cost.hardConstraints.cmp baseline.hardConstraints).isLT then true
  else if marginX100 = 0 then true
  else if cost.softCost ≥ baseline.softCost then false
  else decide (cost.softCost <
    baseline.softCost - satMul64 baseline.softCost marginX100 / 10000)

def addSaturating (cost other : PlannerCostBreakdown) : PlannerCostBreakdown where
  dfOverloadCost := satAdd64 cost.dfOverloadCost other.dfOverloadCost
  llcPressureCost := satAdd64 cost.llcPressureCost other.llcPressureCost
  signatureBalanceCost := satAdd64 cost.signatureBalanceCost other.signatureBalanceCost
  hardConstraints := cost.hardConstraints.addSaturating other.hardConstraints

end PlannerCostBreakdown

structure DomainScore where
  predictedDfX100 : Nat := 0
  predictedLlcX100 : Nat := 0
  predictedActiveTaskCount : Nat := 0
  predictedCpuCapacity : Nat := 0
  overloadX100 : Nat := 0
  cost : PlannerCostBreakdown := {}
  migrationsIn : Nat := 0
  migrationsOut : Nat := 0
  migrationBudget : Nat := 0
  migrationPenalty : Bool := false

structure PlanEvaluation where
  cost : PlannerCostBreakdown
  domains : List DomainScore
  violations : ConstraintViolations

structure AssignmentTotals where
  assignedDfX100 : List Nat
  assignedLlcX100 : List Nat
  assignedActiveTaskCount : List Nat
  predictedCpuCapacity : List Nat
  affinitySlotConstraint : List SlotCapacityConstraint
  migrationsIn : List Nat
  migrationsOut : List Nat

end CSwitch.Planner
