import CSwitch.Policy.Candidate

/-! The order in which the fallback policy compares candidates is a total
preorder: a lexicographic order of keys. -/

set_option autoImplicit false

namespace CSwitch.Policy

open Std (TransOrd TransCmp)

namespace SlotCapacityConstraint

def rank : SlotCapacityConstraint → Nat
  | .withinCapacity => 0
  | .overCapacity _ _ => 1

def domainCount : SlotCapacityConstraint → Nat
  | .withinCapacity => 0
  | .overCapacity _ domainCount => domainCount

theorem cmp_eq_lex : cmp =
    compareLex (compareOn rank) (compareLex (compareOn extraTasks) (compareOn domainCount)) := by
  funext left right
  cases left with
  | withinCapacity =>
      cases right with
      | withinCapacity => rfl
      | overCapacity => rfl
  | overCapacity =>
      cases right with
      | withinCapacity => rfl
      | overCapacity => rfl

instance : Ord SlotCapacityConstraint := ⟨cmp⟩

instance : TransOrd SlotCapacityConstraint :=
  show TransCmp cmp by
    rw [cmp_eq_lex]
    infer_instance

end SlotCapacityConstraint

namespace CostBreakdown

instance : Ord CostBreakdown := ⟨cmpForPlacement⟩

instance : TransOrd CostBreakdown :=
  inferInstanceAs (TransCmp (compareLex (compareOn hardConstraint) (compareOn softCost)))

end CostBreakdown

namespace CandidateEval

/-- The cost first, then the figures that break a tie. -/
def cmp (candidate other : CandidateEval) : Ordering :=
  (candidate.cost.cmpForPlacement other.cost).then (candidate.tieBreakCmp other)

theorem tieBreakCmp_eq_lex : tieBreakCmp =
    compareLex
      (compareLex (compareOn (·.cost.totalOverloadX100)) (compareOn (·.cost.maxOverloadX100)))
      (compareLex (compareOn (·.cost.pairPenalty)) (compareOn (·.cpu))) :=
  rfl

instance : TransCmp tieBreakCmp := by
  rw [tieBreakCmp_eq_lex]
  infer_instance

theorem cmp_eq_lex : cmp = compareLex (compareOn (·.cost)) tieBreakCmp := rfl

instance : TransCmp cmp := by
  rw [cmp_eq_lex]
  infer_instance

theorem isBetterThan_eq (candidate other : CandidateEval) :
    candidate.isBetterThan other = (candidate.cmp other).isLT := by
  unfold isBetterThan cmp
  cases candidate.cost.cmpForPlacement other.cost with
  | lt => rfl
  | eq => rfl
  | gt => rfl

end CandidateEval

end CSwitch.Policy
