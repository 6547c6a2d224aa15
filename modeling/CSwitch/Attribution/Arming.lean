import CSwitch.Planner.Input

/-! Attribution of link bandwidth to a plan: arming. A new plan records the
bandwidths of its active threads and of every link with a fresh sample; the
key of the plan tells whether it was armed before. -/

set_option autoImplicit false

namespace CSwitch.Attribution

open Std (TreeMap)
open Planner

structure PlanCsLinkBaseline where
  bwX100 : Nat
  sampleTsNs : Nat

structure PlanCsCandidateBaseline where
  fillBwMibSX100 : Vector Nat memSourceCount
  l2BwMibSX100 : Nat

structure PendingPlanCsAttribution where
  plannerEpoch : Nat
  planRevision : Nat
  armedAtNs : Nat
  linkCount : Nat
  linkBaselines : Vector (Option PlanCsLinkBaseline) maxDomains
  appliedLinks : Vector Bool maxDomains
  candidates : TreeMap Nat PlanCsCandidateBaseline

structure PlanCsAttributionState where
  pending : Option PendingPlanCsAttribution := none
  lastArmedPlan : Option (Nat × Nat) := none

/-- `(plan.built_from_sweep_epoch, plan.plan_revision)`. -/
def planKey (plan : PlacementPlan) : Nat × Nat := (plan.builtFromSweepEpoch, plan.planRevision)

def planCsStaleMs (policy : PolicyConfig) (linkCount : Nat) : Nat :=
  satMul64 (max policy.dfStaleMs 1) (max linkCount 1)

def csLinkBwX100 (state : CcmDfStateValue) : Nat := state.bwX100

/-- The baseline of one link, none without a fresh sample. -/
def planCsLinkBaseline (dfCsStates : List (Option CcmDfStateValue)) (nowNs staleMs linkId : Nat) :
    Option PlanCsLinkBaseline :=
  ((getFlat dfCsStates linkId).filter fun state =>
    state.valid ≠ 0 && !isStale state.sampleTsNs nowNs staleMs).map fun state =>
      { bwX100 := csLinkBwX100 state, sampleTsNs := state.sampleTsNs }

structure PlanCsLinkBaselines where
  baselines : Vector (Option PlanCsLinkBaseline) maxDomains
  linkCount : Nat
  validLinks : Nat

def capturePlanCsLinkBaselines (dfCsStates : List (Option CcmDfStateValue)) (nowNs : Nat)
    (policy : PolicyConfig) : PlanCsLinkBaselines :=
  let linkCount := min dfCsStates.length maxDomains
  let staleMs := planCsStaleMs policy linkCount
  let baselines := Vector.ofFn fun link : Fin maxDomains =>
    planCsLinkBaseline dfCsStates nowNs staleMs link
  { baselines, linkCount, validLinks := baselines.toList.countP (·.isSome) }

def collectPlanCsCandidates (plan : PlacementPlan) (threads : ThreadMap) (activeCutoffNs : Nat) :
    TreeMap Nat PlanCsCandidateBaseline :=
  plan.entries.filterMap fun tid _ =>
    (threads[tid]?.filter fun thread => activeCutoffNs ≤ thread.lastSeenNs).map fun thread =>
      { fillBwMibSX100 := thread.lastFillBwMibSX100, l2BwMibSX100 := thread.lastL2BwMibSX100 }

/-- The record that arming a plan leaves, none when the plan was armed already
or there is nothing to compare. -/
def planCsArming (state : PlanCsAttributionState) (plan : PlacementPlan) (threads : ThreadMap)
    (dfCsStates : List (Option CcmDfStateValue)) (nowNs : Nat) (policy : PolicyConfig) :
    Option PendingPlanCsAttribution :=
  if state.lastArmedPlan = some (planKey plan) then none
  else
    let activeCutoffNs := nowNs - satMul64 (planCsStaleMs policy dfCsStates.length) 1000000
    let candidates := collectPlanCsCandidates plan threads activeCutoffNs
    if candidates.isEmpty then none
    else
      let links := capturePlanCsLinkBaselines dfCsStates nowNs policy
      if links.validLinks = 0 then none
      else
        some
          { plannerEpoch := plan.builtFromSweepEpoch
            planRevision := plan.planRevision
            armedAtNs := nowNs
            linkCount := links.linkCount
            linkBaselines := links.baselines
            appliedLinks := Vector.replicate maxDomains false
            candidates }

def armPlanCsAttribution (state : PlanCsAttributionState) (plan : PlacementPlan)
    (threads : ThreadMap) (dfCsStates : List (Option CcmDfStateValue)) (nowNs : Nat)
    (policy : PolicyConfig) : PlanCsAttributionState :=
  match planCsArming state plan threads dfCsStates nowNs policy with
  | none => state
  | some pending => { pending := some pending, lastArmedPlan := some (planKey plan) }

end CSwitch.Attribution
