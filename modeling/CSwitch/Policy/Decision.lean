import CSwitch.Types

/-! The record a placement decision fills in, whether it comes from a plan or
from the fallback policy. -/

set_option autoImplicit false

namespace CSwitch

/-- Why a plan entry was not executed; the source returns the text of `asStr`. -/
inductive PlanRejection where
  | stalePlan
  | noPlan
  | illegalDomain
  | settleWindow
  | reverseProtect
  | sourceMigrationBudget
  | destinationMigrationBudget
  | noCpu
  deriving DecidableEq

def PlanRejection.asStr : PlanRejection → String
  | .stalePlan => "stale_plan"
  | .noPlan => "no_plan"
  | .illegalDomain => "illegal_domain"
  | .settleWindow => "settle_window"
  | .reverseProtect => "reverse_protect"
  | .sourceMigrationBudget => "source_migration_budget"
  | .destinationMigrationBudget => "destination_migration_budget"
  | .noCpu => "no_cpu"

namespace Policy

structure PlacementDebugInfo where
  liveSourceDfX100 : Nat := 0
  observedCandidateDomain : Option Nat := none
  observedCandidateCpu : Option Nat := none
  observedDestinationLiveDfX100 : Nat := 0
  baselineTotalOverloadX100 : Nat := 0
  candidateTotalOverloadX100 : Nat := 0
  baselineMaxOverloadX100 : Nat := 0
  candidateMaxOverloadX100 : Nat := 0
  baselinePairPenalty : Nat := 0
  candidatePairPenalty : Nat := 0
  baselineCombinedCost : Nat := 0
  candidateCombinedCost : Nat := 0
  consideredCandidates : Nat := 0
  skippedMissingDf : Nat := 0
  skippedMissingLlc : Nat := 0
  skippedNoCpu : Nat := 0
  skippedSameDomain : Nat := 0
  skippedBudget : Nat := 0
  blockedDestination : Nat := 0
  blockedPhase : Nat := 0
  blockedReverse : Nat := 0
  deriving DecidableEq

/-- A placement decision. An empty `fallback_reason` is `none`. -/
structure PlacementDecision where
  threadClass : ThreadClass
  selectedDomain : Option Nat
  selectedCpu : Option Nat
  reason : DecisionReason
  trigger : QueueTrigger
  tickDecision : TickDecision
  signatureValid : Bool
  villainScore : Nat
  deferDispatch : Bool
  scoreGain : Nat
  sliceNs : Nat
  currentSourceDfX100 : Nat
  predictedSourceDfX100 : Nat
  currentSourceLlcX100 : Nat
  predictedSourceLlcX100 : Nat
  currentDestinationDfX100 : Nat
  predictedDestinationDfX100 : Nat
  currentDestinationLlcX100 : Nat
  predictedDestinationLlcX100 : Nat
  signatureSampleCount : Nat
  signatureConfidenceX100 : Nat
  signatureStable : Bool
  plannerEpoch : Nat
  planRevision : Nat
  planUsed : Bool
  fallbackReason : Option PlanRejection
  plannedDomain : Option Nat
  plannedCpu : Option Nat
  syncGroupId : Option Nat
  syncAnchorDomain : Option Nat
  syncOverride : Bool
  debug : PlacementDebugInfo
  deriving DecidableEq

structure SourceFigures where
  currentDfX100 : Nat
  predictedDfX100 : Nat
  currentLlcX100 : Nat
  predictedLlcX100 : Nat

structure DestinationFigures where
  currentDfX100 : Nat
  currentLlcX100 : Nat
  dfEffectX100 : Nat := 0
  llcEffectX100 : Nat := 0

/-- `placement_decision`, which runs the `DecisionBuilder` chain; the builder's
`target` also fills the planned domain and CPU. The policy never defers and
reports no villain score. -/
def placementDecision (threadClass : ThreadClass) (selectedDomain selectedCpu : Option Nat)
    (reason : DecisionReason) (trigger : QueueTrigger) (tickDecision : TickDecision)
    (signatureValid : Bool) (scoreGain sliceNs : Nat) (source : SourceFigures)
    (destination : DestinationFigures) (debug : PlacementDebugInfo)
    (thread : Option ManagedThreadState) : PlacementDecision where
  threadClass
  selectedDomain
  selectedCpu
  reason
  trigger
  tickDecision
  signatureValid
  villainScore := 0
  deferDispatch := false
  scoreGain
  sliceNs
  currentSourceDfX100 := source.currentDfX100
  predictedSourceDfX100 := source.predictedDfX100
  currentSourceLlcX100 := source.currentLlcX100
  predictedSourceLlcX100 := source.predictedLlcX100
  currentDestinationDfX100 := destination.currentDfX100
  predictedDestinationDfX100 := satAdd32 destination.currentDfX100 destination.dfEffectX100
  currentDestinationLlcX100 := destination.currentLlcX100
  predictedDestinationLlcX100 := satAdd32 destination.currentLlcX100 destination.llcEffectX100
  signatureSampleCount := (thread.map (·.signature.sampleCount)).getD 0
  signatureConfidenceX100 := (thread.map (·.signature.confidenceX100)).getD 0
  signatureStable := (thread.map (·.signature.stable)).getD false
  plannerEpoch := 0
  planRevision := 0
  planUsed := false
  fallbackReason := none
  plannedDomain := selectedDomain
  plannedCpu := selectedCpu
  syncGroupId := none
  syncAnchorDomain := none
  syncOverride := false
  debug

def tickDecisionFor (trigger : QueueTrigger) (moved : Bool) : TickDecision :=
  if !trigger.isTick then .none else if moved then .move else .stay

end CSwitch.Policy
