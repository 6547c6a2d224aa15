import CSwitch.Types

/-! Placement costs: the hard slot constraint, the soft cost, and the order in
which candidate domains are compared. -/

set_option autoImplicit false

namespace CSwitch.Policy

def pressureCostUnit : Nat := 4000000000000
def nonIdleCpuSelectionSoftCost : Nat := pressureCostUnit
def slotOverCapacityBaseDiagnosticCost : Nat := pressureCostUnit * 2500
def slotOverCapacityPerExtraTaskDiagnosticCost : Nat := pressureCostUnit * 25000

inductive SlotCapacityConstraint where
  | withinCapacity
  | overCapacity (extraTasks domainCount : Nat)
  deriving DecidableEq

namespace SlotCapacityConstraint

def fromTaskCount (taskCount cpuCapacity : Nat) : SlotCapacityConstraint :=
  let extraTasks := if cpuCapacity = 0 then taskCount else taskCount - cpuCapacity
  if extraTasks = 0 then .withinCapacity else .overCapacity extraTasks 1

def combine : SlotCapacityConstraint → SlotCapacityConstraint → SlotCapacityConstraint
  | .withinCapacity, constraint => constraint
  | constraint, .withinCapacity => constraint
  | .overCapacity leftExtra leftCount, .overCapacity rightExtra rightCount =>
      .overCapacity (satAdd32 leftExtra rightExtra) (satAdd32 leftCount rightCount)

def extraTasks : SlotCapacityConstraint → Nat
  | .withinCapacity => 0
  | .overCapacity extraTasks _ => extraTasks

def diagnosticCost : SlotCapacityConstraint → Nat
  | .withinCapacity => 0
  | .overCapacity extraTasks domainCount =>
      satAdd64 (satMul64 slotOverCapacityBaseDiagnosticCost domainCount)
        (satMul64 slotOverCapacityPerExtraTaskDiagnosticCost extraTasks)

def cmp : SlotCapacityConstraint → SlotCapacityConstraint → Ordering
  | .withinCapacity, .withinCapacity => .eq
  | .withinCapacity, .overCapacity _ _ => .lt
  | .overCapacity _ _, .withinCapacity => .gt
  | .overCapacity leftExtra leftCount, .overCapacity rightExtra rightCount =>
      (compare leftExtra rightExtra).then (compare leftCount rightCount)

/-- `Ord::max`, which keeps the second of two equal values. -/
def maxOf (left right : SlotCapacityConstraint) : SlotCapacityConstraint :=
  if (left.cmp right).isGT then left else right

end SlotCapacityConstraint

structure CostBreakdown where
  totalOverloadX100 : Nat
  maxOverloadX100 : Nat
  pairPenalty : Nat
  pressureCost : Nat
  slotConstraint : SlotCapacityConstraint
  cpuSelectionCost : Nat

namespace CostBreakdown

def hardConstraint (cost : CostBreakdown) : SlotCapacityConstraint := cost.slotConstraint

def softCost (cost : CostBreakdown) : Nat := satAdd64 cost.pressureCost cost.cpuSelectionCost

def totalCost (cost : CostBreakdown) : Nat :=
  satAdd64 cost.slotConstraint.diagnosticCost cost.softCost

/-- `CostKey::cmp`: the hard constraint first, then the soft cost. -/
def cmpForPlacement (cost other : CostBreakdown) : Ordering :=
  (cost.hardConstraint.cmp other.hardConstraint).then (compare cost.softCost other.softCost)

def isBetterThan (cost other : CostBreakdown) : Bool := (cost.cmpForPlacement other).isLT

def clearsMarginAgainst (cost baseline : CostBreakdown) (marginX100 : Nat) : Bool :=
  if !cost.isBetterThan baseline then false
  else if (cost.hardConstraint.cmp baseline.hardConstraint).isLT then true
  else if marginX100 = 0 then true
  else if cost.softCost ≥ baseline.softCost then false
  else decide (cost.softCost ≤
    baseline.softCost - satMul64 baseline.softCost marginX100 / 10000)

end CostBreakdown

structure CandidateEval where
  domain : Nat
  cpu : Nat
  destinationDfBeforeX100 : Nat
  destinationLlcBeforeX100 : Nat
  destinationDfDeltaX100 : Nat
  destinationLlcDeltaX100 : Nat
  cost : CostBreakdown

/-- `CandidateTieBreakKey`, compared field by field. -/
def CandidateEval.tieBreakCmp (candidate other : CandidateEval) : Ordering :=
  ((compare candidate.cost.totalOverloadX100 other.cost.totalOverloadX100).then
    (compare candidate.cost.maxOverloadX100 other.cost.maxOverloadX100)).then
    ((compare candidate.cost.pairPenalty other.cost.pairPenalty).then
      (compare candidate.cpu other.cpu))

def CandidateEval.isBetterThan (candidate other : CandidateEval) : Bool :=
  match candidate.cost.cmpForPlacement other.cost with
  | .lt => true
  | .gt => false
  | .eq => (candidate.tieBreakCmp other).isLT

structure CandidateScanStats where
  blockedByBudget : Bool := false
  blockedByPhase : Bool := false
  blockedByReverse : Bool := false
  blockedByDestination : Bool := false
  blockedBySoftOnlyStay : Bool := false

structure CandidateScan where
  best : Option CandidateEval := none
  stats : CandidateScanStats := {}

def CandidateScan.noteCandidate (scan : CandidateScan) (candidate : CandidateEval) :
    CandidateScan :=
  if (scan.best.map candidate.isBetterThan).getD true then
    { scan with best := some candidate }
  else scan

theorem CandidateScan.noteCandidate_best (scan : CandidateScan) (candidate : CandidateEval) :
    (scan.noteCandidate candidate).best = scan.best ∨
      (scan.noteCandidate candidate).best = some candidate := by
  unfold noteCandidate
  split
  · exact .inr rfl
  · exact .inl rfl

end CSwitch.Policy
