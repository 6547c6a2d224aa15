import CSwitch.Policy.Candidate
import CSwitch.Policy.CpuSelect
import CSwitch.Policy.Decision
import CSwitch.Policy.Signature

/-! The fallback placement policy, `choose_placement_with_planned_cpus`. The
thirteen arguments are one context record and every local of the source is a
function of it, under the source's name. -/

set_option autoImplicit false

namespace CSwitch.Policy

open Std (TreeSet)

/-! ## Cost arithmetic -/

def usableLlc (state : Option LlcStateValue) (nowNs staleMs : Nat) : Option LlcStateValue :=
  state.filter fun value => value.valid != 0 && !isStale value.sampleTsNs nowNs staleMs

def usableDf (state : Option CcmDfStateValue) (nowNs staleMs : Nat) : Option CcmDfStateValue :=
  state.filter fun value => value.valid != 0 && !isStale value.sampleTsNs nowNs staleMs

def classifyTask (task : QueuedTask) (llcState : Option LlcStateValue) (nowNs : Nat)
    (cfg : PolicyConfig) : ThreadClass :=
  if task.ewmaL2BwMibSX100 < cfg.l2NeedMibSX100 then .cold
  else
    match usableLlc llcState nowNs cfg.llcStaleMs with
    | none => .linkNeed
    | some llcState => if llcState.state = HotCoolState.hot.code then .congested else .linkNeed

def signatureBalanceDeadbandMibSX100 : Nat := 250000

def overloadX100WithCapacity (dfX100 capacityMibSX100 : Nat) : Nat := dfX100 - capacityMibSX100

def tickRateControlFallback (trigger : QueueTrigger)
    (liveSourceDfX100 sourceCapacityMibSX100 : Nat) : Option (TickDecision × Nat) :=
  if trigger = .villainReslice ∧
      overloadX100WithCapacity liveSourceDfX100 sourceCapacityMibSX100 > 0 then
    some (.reslice, villainResliceSliceNs)
  else none

def liveBalanceWeightX100 (currentSourceLiveDfX100 capacityMibSX100 : Nat) : Nat :=
  let capacity := max capacityMibSX100 1
  min (min currentSourceLiveDfX100 capacity * 10000 / capacity) u32Max

def domainSignaturePenaltyX100 (signatureSumX100 : Nat) : Nat :=
  signatureSumX100 - signatureBalanceDeadbandMibSX100

def domainSignatureBalancePenalty (signatureSumX100 : Nat) : Nat :=
  satMul64 (domainSignaturePenaltyX100 signatureSumX100)
    (domainSignaturePenaltyX100 signatureSumX100)

def cpuSelectionSoftCost (selectedCpuIsIdle : Bool) : Nat :=
  if selectedCpuIsIdle then 0 else nonIdleCpuSelectionSoftCost

def pairSignatureBalancePenalty (sourceSignatureSumX100 destinationSignatureSumX100 : Nat) : Nat :=
  satAdd64 (domainSignatureBalancePenalty sourceSignatureSumX100)
    (domainSignatureBalancePenalty destinationSignatureSumX100)

def taskSlotConstraint (taskCount cpuCapacity : Nat) : SlotCapacityConstraint :=
  .fromTaskCount taskCount cpuCapacity

def domainAllowedCpuCapacity (topo : TopologyLayout) (domainId : Nat)
    (allowedCpus : TreeSet Nat) : Nat :=
  (domainCpusIn topo domainId allowedCpus).length

def domainTaskSlotConstraintWithAllowedCpus (topo : TopologyLayout) (domainId taskCount : Nat)
    (allowedCpus : TreeSet Nat) : SlotCapacityConstraint :=
  taskSlotConstraint taskCount (domainAllowedCpuCapacity topo domainId allowedCpus)

def overloadCost (totalOverloadX100 maxOverloadX100 : Nat) : Nat :=
  satAdd64 (satMul64 totalOverloadX100 totalOverloadX100) (satMul64 maxOverloadX100 maxOverloadX100)

def movePressureCost (totalOverloadX100 maxOverloadX100 pairPenalty currentSourceLiveDfX100
    sourceCapacityMibSX100 : Nat) : Nat :=
  let balanceWeightX100 := liveBalanceWeightX100 currentSourceLiveDfX100 sourceCapacityMibSX100
  satAdd64 (overloadCost totalOverloadX100 maxOverloadX100)
    (satMul64 pairPenalty balanceWeightX100 / 10000)

/-! ## Guards on a candidate -/

def underSubscribedSoftOnlyMoveBlocked (baselineCost candidateCost : CostBreakdown)
    (baselineTotalOverloadX100 candidateTotalOverloadX100 : Nat)
    (cpuImprovementRequiresCrossDomainMove : Bool) : Bool :=
  let cpuSelectionImproves := decide (candidateCost.cpuSelectionCost < baselineCost.cpuSelectionCost)
  baselineTotalOverloadX100 == 0 && candidateTotalOverloadX100 == 0 &&
    (candidateCost.hardConstraint.cmp baselineCost.hardConstraint).isGE &&
    (!cpuSelectionImproves || !cpuImprovementRequiresCrossDomainMove)

def overloadedCpuOnlyCrossDomainMoveBlocked (baselineCost candidateCost : CostBreakdown) : Bool :=
  let overloaded := decide (baselineCost.totalOverloadX100 > 0) ||
    decide (candidateCost.totalOverloadX100 > 0)
  let cpuSelectionImproves := decide (candidateCost.cpuSelectionCost < baselineCost.cpuSelectionCost)
  let hardConstraintImproves :=
    (candidateCost.hardConstraint.cmp baselineCost.hardConstraint).isLT
  let pressureImproves :=
    decide (candidateCost.totalOverloadX100 < baselineCost.totalOverloadX100) ||
    decide (candidateCost.maxOverloadX100 < baselineCost.maxOverloadX100) ||
    decide (candidateCost.pairPenalty < baselineCost.pairPenalty) ||
    decide (candidateCost.pressureCost < baselineCost.pressureCost)
  overloaded && cpuSelectionImproves && !hardConstraintImproves && !pressureImproves

def reverseHysteresisCanYield (currentSourceLiveDfX100 predictedSourceLiveDfX100
    baselineTotalOverloadX100 predictedTotalOverloadX100 sourceCapacityMibSX100 : Nat) : Bool :=
  if currentSourceLiveDfX100 ≤ sourceCapacityMibSX100 then false
  else if predictedSourceLiveDfX100 ≤ sourceCapacityMibSX100 then true
  else decide (predictedTotalOverloadX100 < baselineTotalOverloadX100)

def reverseMoveBlocked (thread : Option ManagedThreadState) (currentDomain : Option Nat)
    (candidateDomain nowNs : Nat) : Bool :=
  match thread with
  | none => false
  | some thread =>
      if nowNs ≥ thread.reverseProtectUntilNs then false
      else decide (currentDomain = thread.lastMigrationToDomain) &&
        decide (some candidateDomain = thread.lastMigrationFromDomain)

def tickMovePhaseAllows (task : QueuedTask) (currentDomain : Option Nat) (candidateDomain
    currentSourceLiveDfX100 sourceCapacityMibSX100 : Nat) (cfg : PolicyConfig) : Bool :=
  if overloadX100WithCapacity currentSourceLiveDfX100 sourceCapacityMibSX100 > 0 then true
  else if cfg.tickMovePhaseMod ≤ 1 then true
  else if !(QueueTrigger.fromU32 task.trigger).isTick then true
  else
    let sourceDomain := currentDomain.getD 0
    let phase := (task.tickSeq + task.key + sourceDomain * 3 + candidateDomain * 5) % (u32Max + 1)
    phase % cfg.tickMovePhaseMod == 0

def effectiveMigrateMarginX100 (currentSourceLiveDfX100 marginX100 sourceCapacityMibSX100 : Nat) :
    Nat :=
  if marginX100 = 0 then 0
  else
    let capacity := max sourceCapacityMibSX100 1
    let remaining := capacity - min currentSourceLiveDfX100 capacity
    min (marginX100 * remaining / capacity) u32Max

def initialSpreadEnqLimit : Nat := 4

def youngTaskNeedsIdleSpread (task : QueuedTask) (thread : Option ManagedThreadState) : Bool :=
  if (QueueTrigger.fromU32 task.trigger).isTick then false
  else if task.enqCnt > initialSpreadEnqLimit then false
  else (thread.map fun record =>
    decide (record.signature.sampleCount < signatureStableSamples)).getD true

def intersectionWithEligible (allowedCpus : TreeSet Nat) (mapping : MappingInfo) : TreeSet Nat :=
  allowedCpus.filter fun cpu => mapping.eligibleCpus.contains cpu

def cpusInDomain (topo : TopologyLayout) (cpus : TreeSet Nat) (domain : Nat) : TreeSet Nat :=
  cpus.filter fun cpu => topo.domainOfCpu cpu == some domain

/-! ## The context and the source side -/

structure PlacementContext where
  task : QueuedTask
  thread : Option ManagedThreadState
  topo : TopologyLayout
  mapping : MappingInfo
  plannedStates : List PlannedDomainState
  llcStates : List (Option LlcStateValue)
  dfStates : List (Option CcmDfStateValue)
  cpuStates : List CpuStateValue
  cpuUtilsX100 : List Nat
  plannedCpuStates : List PlannedCpuState
  allowedCpus : TreeSet Nat
  nowNs : Nat
  cfg : PolicyConfig

namespace PlacementContext

variable (ctx : PlacementContext)

def taskTid : Nat := ctx.task.key

def allowedEligible : TreeSet Nat := intersectionWithEligible ctx.allowedCpus ctx.mapping

def currentDomain : Option Nat := taskCurrentDomain ctx.task

def currentLlc : Option LlcStateValue := ctx.currentDomain.bind (getFlat ctx.llcStates)

def currentDf : Option CcmDfStateValue := ctx.currentDomain.bind (getFlat ctx.dfStates)

def threadClass : ThreadClass := classifyTask ctx.task ctx.currentLlc ctx.nowNs ctx.cfg

/-- An unknown current domain counts as excluded. -/
def currentExcluded : Bool :=
  (ctx.currentDomain.map fun domain => ctx.mapping.excludedDomains.contains domain).getD true

def sourceDfCapacityMibSX100 : Nat :=
  (ctx.currentDomain.map ctx.mapping.dfCapacityMibSX100).getD ctx.mapping.maxDfCapacityMibSX100

def trigger : QueueTrigger := QueueTrigger.fromU32 ctx.task.trigger

def sourceEffect : TaskSignatureEffect :=
  taskSignatureEffect ctx.task ctx.thread ctx.sourceDfCapacityMibSX100

def signatureValid : Bool := ctx.sourceEffect.signatureValid

def liveSourceDfX100 : Nat :=
  ((usableDf ctx.currentDf ctx.nowNs ctx.cfg.dfStaleMs).map (·.bwX100)).getD 0

def liveSourceLlcX100 : Nat :=
  ((usableLlc ctx.currentLlc ctx.nowNs ctx.cfg.llcStaleMs).map (·.ewmaPressurePctX100)).getD 0

def currentPlan : Option PlannedDomainState :=
  ctx.currentDomain.bind fun domain => ctx.plannedStates[domain]?

def currentSourceSignatureDfX100 : Nat :=
  (((ctx.currentPlan.filter (·.contributorCount > 0)).map (·.dfPressureX100)).or
    (if ctx.signatureValid then some ctx.sourceEffect.dfX100 else none)).getD 0

def currentSourceLlcX100 : Nat :=
  if (ctx.currentPlan.map fun state => decide (state.contributorCount > 0)).getD false then
    (ctx.currentPlan.map (·.llcPressureX100)).getD 0
  else ctx.liveSourceLlcX100

def sourceTaskCount : Nat := (ctx.currentPlan.map (·.taskCount)).getD 0

def sourceBudgetExhausted : Bool :=
  !ctx.currentExcluded && (ctx.currentPlan.map fun state =>
    decide (state.outgoingMigrations ≥ state.migrationBudget)).getD false

def estimatedSourceDfEffectX100 : Nat := ctx.sourceEffect.dfX100

def estimatedSourceLlcEffectX100 : Nat :=
  if ctx.currentExcluded ∨ ctx.sourceTaskCount = 0 then ctx.sourceEffect.llcX100
  else min ctx.sourceEffect.llcX100 (divCeil ctx.currentSourceLlcX100 ctx.sourceTaskCount)

def stayTickDecision : TickDecision := if ctx.trigger.isTick then .stay else .none

def moveTickDecision : TickDecision := if ctx.trigger.isTick then .move else .none

/-! ## The stay CPU -/

def chooseIn (domain : Nat) (cpus : TreeSet Nat) : Option Nat :=
  chooseCpuInDomain domain ctx.topo ctx.cpuStates ctx.cpuUtilsX100 ctx.plannedCpuStates cpus
    ctx.cfg.cpuHighUtilX100 ctx.taskTid

def chooseIdleIn (domain : Nat) (cpus : TreeSet Nat) : Option Nat :=
  chooseIdleCpuInDomain domain ctx.topo ctx.cpuStates ctx.cpuUtilsX100 ctx.plannedCpuStates cpus
    ctx.cfg.cpuHighUtilX100

def idleCpu (cpu : Nat) : Bool :=
  effectivelyIdleCpu cpu ctx.cpuStates ctx.cpuUtilsX100 ctx.cfg.cpuHighUtilX100

def currentAvailable (domain : Nat) (cpus : TreeSet Nat) (cpu : Nat) : Bool :=
  currentCpuAvailableForTask ctx.plannedCpuStates cpu ctx.taskTid (cpusInDomain ctx.topo cpus domain)
    ctx.cpuStates ctx.cpuUtilsX100 ctx.cfg.cpuHighUtilX100

def currentIdleIn (domain : Nat) (cpus : TreeSet Nat) : Option Nat :=
  (currentIdleCpuInDomain ctx.task.currentCpu domain ctx.topo ctx.cpuStates ctx.cpuUtilsX100 cpus
    ctx.cfg.cpuHighUtilX100).filter (ctx.currentAvailable domain cpus)

def currentAcceptableIn (domain : Nat) (cpus : TreeSet Nat) : Option Nat :=
  (currentAcceptableCpuInDomain ctx.task.currentCpu domain ctx.topo ctx.cpuStates cpus
    ctx.taskTid).filter (ctx.currentAvailable domain cpus)

def tickCurrentCpu (domain : Nat) : Option Nat :=
  if !ctx.currentExcluded && ctx.trigger.isTick then
    (currentCpuInDomain ctx.task.currentCpu domain ctx.topo ctx.allowedEligible).or
      (currentCpuInDomain ctx.task.currentCpu domain ctx.topo ctx.allowedCpus)
  else none

def rebalanceIdleCpu (domain : Nat) : Option Nat :=
  ((ctx.chooseIdleIn domain ctx.allowedEligible).or (ctx.chooseIdleIn domain ctx.allowedCpus)).filter
    (shouldRebalanceToIdleSibling (taskCurrentCpu ctx.task) ctx.taskTid ctx.cpuStates)

def stayCpu : Option Nat :=
  ctx.currentDomain.bind fun domain =>
    (ctx.tickCurrentCpu domain).or <|
    (ctx.currentIdleIn domain ctx.allowedEligible).or <|
    (ctx.currentIdleIn domain ctx.allowedCpus).or <|
    (ctx.rebalanceIdleCpu domain).or <|
    (ctx.currentAcceptableIn domain ctx.allowedEligible).or <|
    (ctx.currentAcceptableIn domain ctx.allowedCpus).or <|
    (ctx.chooseIn domain ctx.allowedEligible).or <|
    ctx.chooseIn domain ctx.allowedCpus

def staySelectedCpu : Option Nat := ctx.stayCpu.or (taskCurrentCpu ctx.task)

def staySelectedCpuIdle : Bool := (ctx.staySelectedCpu.map ctx.idleCpu).getD false

def staySelectedDomain : Option Nat := ctx.currentDomain.or (taskCurrentDomain ctx.task)

def currentDomainCpus : List Nat :=
  ((ctx.currentDomain.bind fun domain => ctx.topo.domains[domain]?).map (·.cpus)).getD []

def currentDomainHasIdleCpu : Bool :=
  ctx.currentDomainCpus.any fun cpu => ctx.allowedCpus.contains cpu && ctx.idleCpu cpu

def currentCpuUnavailableForTask : Bool :=
  (ctx.currentDomain.map fun domain =>
    (currentAcceptableCpuInDomain ctx.task.currentCpu domain ctx.topo ctx.cpuStates ctx.allowedCpus
      ctx.taskTid).isNone).getD false

def currentDomainHasPlannedCpuPressure : Bool :=
  ctx.currentDomainCpus.any fun cpu => ctx.allowedCpus.contains cpu &&
    (ctx.plannedCpuStates[cpu]?.map fun state => state.jobs.any (· != ctx.taskTid)).getD false

def cpuImprovementRequiresCrossDomainMove : Bool :=
  !ctx.currentDomainHasIdleCpu &&
    (ctx.currentCpuUnavailableForTask || ctx.currentDomainHasPlannedCpuPressure)

/-! ## Spreading young tasks -/

def bestIdleSpread (candidateCpus : TreeSet Nat) : Option (Nat × Nat) :=
  (ctx.mapping.eligibleDomains.toList.filterMap fun domain =>
      ((ctx.chooseIn domain candidateCpus).filter ctx.idleCpu).map fun cpu => (domain, cpu)).argmin
    fun target =>
      toLex (((ctx.plannedStates[target.1]?).map (·.taskCount)).getD 0,
        toLex (plannedJobsLen ctx.plannedCpuStates target.2,
        toLex (cpuUtilAt ctx.cpuUtilsX100 target.2,
        toLex ((cpuStateAt ctx.cpuStates target.2).cpuDsqDepth,
        toLex (target.1, toLex (taskCurrentCpu ctx.task == some target.2, target.2))))))

def chooseIdleSpreadTarget : Option (Nat × Nat) :=
  let best := if ctx.allowedEligible.isEmpty then ctx.bestIdleSpread ctx.allowedCpus
    else (ctx.bestIdleSpread ctx.allowedEligible).or (ctx.bestIdleSpread ctx.allowedCpus)
  best.filter fun target =>
    !(ctx.currentDomain == some target.1 && taskCurrentCpu ctx.task == some target.2)

/-- The target of the idle-spread exit, when the policy takes it. -/
def idleSpread : Option (Nat × Nat) :=
  if youngTaskNeedsIdleSpread ctx.task ctx.thread then ctx.chooseIdleSpreadTarget else none

/-! ## The candidate scan -/

def predictedSourceDfX100 : Nat :=
  ctx.currentSourceSignatureDfX100 - ctx.estimatedSourceDfEffectX100

def predictedSourceLiveDfX100 : Nat := ctx.liveSourceDfX100 - ctx.estimatedSourceDfEffectX100

def predictedSourceLlcX100 : Nat := ctx.currentSourceLlcX100 - ctx.estimatedSourceLlcEffectX100

def baselineSourcePenalty : Nat :=
  if ctx.currentExcluded then 0
  else domainSignatureBalancePenalty ctx.currentSourceSignatureDfX100

def migrateMarginX100 : Nat :=
  effectiveMigrateMarginX100 ctx.liveSourceDfX100 ctx.cfg.migrateMarginX100
    ctx.sourceDfCapacityMibSX100

/-- Slot constraint of the source domain holding `taskCount` tasks; none for an
unknown source. -/
def sourceSlotConstraint (taskCount : Nat) : SlotCapacityConstraint :=
  (ctx.currentDomain.map fun sourceDomain =>
    domainTaskSlotConstraintWithAllowedCpus ctx.topo sourceDomain taskCount
      ctx.allowedCpus).getD .withinCapacity

def destinationSlotConstraint (domain taskCount : Nat) : SlotCapacityConstraint :=
  domainTaskSlotConstraintWithAllowedCpus ctx.topo domain taskCount ctx.allowedCpus

structure CandidateView where
  candidate : CandidateEval
  baselineCost : CostBreakdown
  destinationLiveDfX100 : Nat

def evalCandidate (domain : Nat) (df : CcmDfStateValue) (llc : LlcStateValue) (cpu : Nat) :
    CandidateView :=
  let aggregate := ctx.plannedStates[domain]?
  let currentDestinationSignatureDfX100 := (aggregate.map (·.dfPressureX100)).getD 0
  let currentDestinationTaskCount := (aggregate.map (·.taskCount)).getD 0
  let destinationDfCapacityMibSX100 := ctx.mapping.dfCapacityMibSX100 domain
  let currentDestinationLiveDfX100 := df.bwX100
  let destinationDfEffectX100 :=
    (taskSignatureEffect ctx.task ctx.thread destinationDfCapacityMibSX100).dfX100
  let predictedDfX100 := satAdd32 currentDestinationSignatureDfX100 destinationDfEffectX100
  let predictedDestinationLiveDfX100 :=
    satAdd32 currentDestinationLiveDfX100 destinationDfEffectX100
  let currentDestinationLlcX100 :=
    if (aggregate.map fun state => decide (state.contributorCount > 0)).getD false then
      (aggregate.map (·.llcPressureX100)).getD 0
    else llc.ewmaPressurePctX100
  let baselinePairPenalty :=
    if ctx.currentExcluded then domainSignatureBalancePenalty currentDestinationSignatureDfX100
    else pairSignatureBalancePenalty ctx.currentSourceSignatureDfX100
      currentDestinationSignatureDfX100
  let candidatePairPenalty :=
    if ctx.currentExcluded then domainSignatureBalancePenalty predictedDfX100
    else pairSignatureBalancePenalty ctx.predictedSourceDfX100 predictedDfX100
  let baselineSourceOverloadX100 :=
    overloadX100WithCapacity ctx.liveSourceDfX100 ctx.sourceDfCapacityMibSX100
  let baselineDestinationOverloadX100 :=
    overloadX100WithCapacity currentDestinationLiveDfX100 destinationDfCapacityMibSX100
  let candidateSourceOverloadX100 :=
    overloadX100WithCapacity ctx.predictedSourceLiveDfX100 ctx.sourceDfCapacityMibSX100
  let candidateDestinationOverloadX100 :=
    overloadX100WithCapacity predictedDestinationLiveDfX100 destinationDfCapacityMibSX100
  let baselineTotalOverloadX100 :=
    satAdd32 baselineSourceOverloadX100 baselineDestinationOverloadX100
  let candidateTotalOverloadX100 :=
    satAdd32 candidateSourceOverloadX100 candidateDestinationOverloadX100
  let baselineMaxOverloadX100 := max baselineSourceOverloadX100 baselineDestinationOverloadX100
  let candidateMaxOverloadX100 := max candidateSourceOverloadX100 candidateDestinationOverloadX100
  let weightCapacity :=
    if ctx.currentExcluded then destinationDfCapacityMibSX100 else ctx.sourceDfCapacityMibSX100
  let baselineCost : CostBreakdown :=
    { totalOverloadX100 := baselineTotalOverloadX100
      maxOverloadX100 := baselineMaxOverloadX100
      pairPenalty := baselinePairPenalty
      pressureCost := movePressureCost baselineTotalOverloadX100 baselineMaxOverloadX100
        baselinePairPenalty ctx.liveSourceDfX100 weightCapacity
      slotConstraint := (ctx.sourceSlotConstraint ctx.sourceTaskCount).combine
        (ctx.destinationSlotConstraint domain currentDestinationTaskCount)
      cpuSelectionCost := cpuSelectionSoftCost ctx.staySelectedCpuIdle }
  let candidateCost : CostBreakdown :=
    { totalOverloadX100 := candidateTotalOverloadX100
      maxOverloadX100 := candidateMaxOverloadX100
      pairPenalty := candidatePairPenalty
      pressureCost := movePressureCost candidateTotalOverloadX100 candidateMaxOverloadX100
        candidatePairPenalty ctx.liveSourceDfX100 weightCapacity
      slotConstraint := (ctx.sourceSlotConstraint (ctx.sourceTaskCount - 1)).combine
        (ctx.destinationSlotConstraint domain (satAdd32 currentDestinationTaskCount 1))
      cpuSelectionCost := cpuSelectionSoftCost (ctx.idleCpu cpu) }
  { candidate :=
      { domain, cpu
        destinationDfBeforeX100 := currentDestinationSignatureDfX100
        destinationLlcBeforeX100 := currentDestinationLlcX100
        destinationDfDeltaX100 := destinationDfEffectX100
        destinationLlcDeltaX100 := ctx.estimatedSourceLlcEffectX100
        cost := candidateCost }
    baselineCost
    destinationLiveDfX100 := currentDestinationLiveDfX100 }

structure ScanState where
  scan : CandidateScan := {}
  observedCandidateCost : Option CostBreakdown := none
  debug : PlacementDebugInfo

/-- The debug figures follow the cheapest candidate seen, blocked or not. -/
def ScanState.observe (state : ScanState) (view : CandidateView) : ScanState :=
  let debug := { state.debug with
    consideredCandidates := satAdd32 state.debug.consideredCandidates 1 }
  let candidate := view.candidate
  if (state.observedCandidateCost.map candidate.cost.isBetterThan).getD true then
    { state with
      observedCandidateCost := some candidate.cost
      debug := { debug with
        observedCandidateDomain := some candidate.domain
        observedCandidateCpu := some candidate.cpu
        observedDestinationLiveDfX100 := view.destinationLiveDfX100
        baselineTotalOverloadX100 := view.baselineCost.totalOverloadX100
        candidateTotalOverloadX100 := candidate.cost.totalOverloadX100
        baselineMaxOverloadX100 := view.baselineCost.maxOverloadX100
        candidateMaxOverloadX100 := candidate.cost.maxOverloadX100
        baselinePairPenalty := view.baselineCost.pairPenalty
        candidatePairPenalty := candidate.cost.pairPenalty
        baselineCombinedCost := view.baselineCost.totalCost
        candidateCombinedCost := candidate.cost.totalCost } }
  else { state with debug }

inductive GuardVerdict where
  | reverse
  | softOnlyStay
  | destination
  | phase
  | admitted
  deriving DecidableEq

def reverseBlocks (view : CandidateView) : Bool :=
  reverseMoveBlocked ctx.thread ctx.currentDomain view.candidate.domain ctx.nowNs &&
    !reverseHysteresisCanYield ctx.liveSourceDfX100 ctx.predictedSourceLiveDfX100
      view.baselineCost.totalOverloadX100 view.candidate.cost.totalOverloadX100
      ctx.sourceDfCapacityMibSX100

def guardVerdict (view : CandidateView) : GuardVerdict :=
  let candidateCost := view.candidate.cost
  if ctx.currentExcluded then .admitted
  else if ctx.reverseBlocks view then .reverse
  else if underSubscribedSoftOnlyMoveBlocked view.baselineCost candidateCost
      view.baselineCost.totalOverloadX100 candidateCost.totalOverloadX100
      ctx.cpuImprovementRequiresCrossDomainMove then .softOnlyStay
  else if overloadedCpuOnlyCrossDomainMoveBlocked view.baselineCost candidateCost then .destination
  else if !candidateCost.isBetterThan view.baselineCost then .destination
  else if !tickMovePhaseAllows ctx.task ctx.currentDomain view.candidate.domain
      ctx.liveSourceDfX100 ctx.sourceDfCapacityMibSX100 ctx.cfg then .phase
  else .admitted

def ScanState.note (state : ScanState) (candidate : CandidateEval) : GuardVerdict → ScanState
  | .reverse => { state with
      scan := { state.scan with stats := { state.scan.stats with blockedByReverse := true } }
      debug := { state.debug with blockedReverse := satAdd32 state.debug.blockedReverse 1 } }
  | .softOnlyStay => { state with
      scan := { state.scan with stats := { state.scan.stats with blockedBySoftOnlyStay := true } }
      debug := { state.debug with blockedDestination := satAdd32 state.debug.blockedDestination 1 } }
  | .destination => { state with
      scan := { state.scan with stats := { state.scan.stats with blockedByDestination := true } }
      debug := { state.debug with blockedDestination := satAdd32 state.debug.blockedDestination 1 } }
  | .phase => { state with
      scan := { state.scan with stats := { state.scan.stats with blockedByPhase := true } }
      debug := { state.debug with blockedPhase := satAdd32 state.debug.blockedPhase 1 } }
  | .admitted => { state with scan := state.scan.noteCandidate candidate }

def destinationBudgetExhausted (domain : Nat) : Bool :=
  (ctx.plannedStates[domain]?.map fun state =>
    decide (state.incomingMigrations ≥ state.migrationBudget)).getD false

def freshDf (domain : Nat) : Option CcmDfStateValue :=
  usableDf (getFlat ctx.dfStates domain) ctx.nowNs ctx.cfg.dfStaleMs

def freshLlc (domain : Nat) : Option LlcStateValue :=
  usableLlc (getFlat ctx.llcStates domain) ctx.nowNs ctx.cfg.llcStaleMs

/-- One iteration of `for &domain in &mapping.eligible_domains`. -/
def scanDomain (state : ScanState) (domain : Nat) : ScanState :=
  match ctx.freshDf domain with
  | none => { state with debug := { state.debug with
      skippedMissingDf := satAdd32 state.debug.skippedMissingDf 1 } }
  | some df =>
    match ctx.freshLlc domain with
    | none => { state with debug := { state.debug with
        skippedMissingLlc := satAdd32 state.debug.skippedMissingLlc 1 } }
    | some llc =>
      match ctx.chooseIn domain ctx.allowedEligible with
      | none => { state with debug := { state.debug with
          skippedNoCpu := satAdd32 state.debug.skippedNoCpu 1 } }
      | some cpu =>
        if !ctx.currentExcluded && some domain == ctx.currentDomain then
          { state with debug := { state.debug with
            skippedSameDomain := satAdd32 state.debug.skippedSameDomain 1 } }
        else if !ctx.currentExcluded && ctx.destinationBudgetExhausted domain then
          { state with
            scan := { state.scan with stats := { state.scan.stats with blockedByBudget := true } }
            debug := { state.debug with skippedBudget := satAdd32 state.debug.skippedBudget 1 } }
        else
          let view := ctx.evalCandidate domain df llc cpu
          (state.observe view).note view.candidate (ctx.guardVerdict view)

def initialDebug : PlacementDebugInfo := { liveSourceDfX100 := ctx.liveSourceDfX100 }

def scanDomains : ScanState :=
  ctx.mapping.eligibleDomains.toList.foldl ctx.scanDomain { debug := ctx.initialDebug }

/-! ## Decisions -/

def stillFigures : SourceFigures where
  currentDfX100 := ctx.currentSourceSignatureDfX100
  predictedDfX100 := ctx.currentSourceSignatureDfX100
  currentLlcX100 := ctx.currentSourceLlcX100
  predictedLlcX100 := ctx.currentSourceLlcX100

def movedFigures : SourceFigures where
  currentDfX100 := ctx.currentSourceSignatureDfX100
  predictedDfX100 := ctx.predictedSourceDfX100
  currentLlcX100 := ctx.currentSourceLlcX100
  predictedLlcX100 := ctx.predictedSourceLlcX100

def sourceAsDestination : DestinationFigures where
  currentDfX100 := ctx.currentSourceSignatureDfX100
  currentLlcX100 := ctx.currentSourceLlcX100

def decide (selectedDomain selectedCpu : Option Nat) (reason : DecisionReason)
    (tickDecision : TickDecision) (scoreGain sliceNs : Nat) (source : SourceFigures)
    (destination : DestinationFigures) (debug : PlacementDebugInfo) : PlacementDecision :=
  placementDecision ctx.threadClass selectedDomain selectedCpu reason ctx.trigger tickDecision
    ctx.signatureValid scoreGain sliceNs source destination debug ctx.thread

def stay (reason : DecisionReason) (tickDecision : TickDecision) (sliceNs : Nat)
    (source : SourceFigures) (destination : DestinationFigures) (debug : PlacementDebugInfo) :
    PlacementDecision :=
  ctx.decide ctx.staySelectedDomain ctx.staySelectedCpu reason tickDecision 0 sliceNs source
    destination debug

def spreadDecision (spreadDomain spreadCpu : Nat) : PlacementDecision :=
  ctx.decide (some spreadDomain) (some spreadCpu) .idleSpread ctx.moveTickDecision 0 defaultSliceNs
    ctx.stillFigures ctx.sourceAsDestination ctx.initialDebug

/-- The stay of the three early exits: settle window, cold task, no signature. -/
def earlyStay : PlacementDecision :=
  ctx.stay .stayCurrentDomain ctx.stayTickDecision defaultSliceNs ctx.stillFigures
    ctx.sourceAsDestination ctx.initialDebug

def budgetStay : PlacementDecision :=
  ctx.stay .migrationBudget ctx.stayTickDecision defaultSliceNs ctx.movedFigures
    ctx.sourceAsDestination ctx.initialDebug

def noBestReason (stats : CandidateScanStats) : DecisionReason :=
  if stats.blockedBySoftOnlyStay then .stayCurrentDomain
  else if stats.blockedByPhase then .movePhaseGate
  else if stats.blockedByReverse then .reverseHysteresis
  else if stats.blockedByDestination then .destinationGuard
  else if stats.blockedByBudget then .migrationBudget
  else .noCandidate

def noBestStay (state : ScanState) : PlacementDecision :=
  let (tickDecision, sliceNs) :=
    (tickRateControlFallback ctx.trigger ctx.liveSourceDfX100 ctx.sourceDfCapacityMibSX100).getD
      (ctx.stayTickDecision, defaultSliceNs)
  ctx.stay (noBestReason state.scan.stats) tickDecision sliceNs ctx.stillFigures
    { currentDfX100 := 0, currentLlcX100 := 0 } state.debug

/-- The live bandwidth of the best destination as re-read after the scan. -/
def bestDestinationLiveDfX100 (best : CandidateEval) : Nat :=
  ((ctx.freshDf best.domain).map (·.bwX100)).getD 0

def rebaselineCost (best : CandidateEval) : CostBreakdown :=
  let baselineSourceOverloadX100 :=
    overloadX100WithCapacity ctx.liveSourceDfX100 ctx.sourceDfCapacityMibSX100
  let baselineDestinationOverloadX100 := overloadX100WithCapacity
    (ctx.bestDestinationLiveDfX100 best) (ctx.mapping.dfCapacityMibSX100 best.domain)
  let baselineTotalOverloadX100 :=
    satAdd32 baselineSourceOverloadX100 baselineDestinationOverloadX100
  let baselineMaxOverloadX100 := max baselineSourceOverloadX100 baselineDestinationOverloadX100
  let baselinePairPenalty := pairSignatureBalancePenalty ctx.currentSourceSignatureDfX100
    best.destinationDfBeforeX100
  { totalOverloadX100 := baselineTotalOverloadX100
    maxOverloadX100 := baselineMaxOverloadX100
    pairPenalty := baselinePairPenalty
    pressureCost := movePressureCost baselineTotalOverloadX100 baselineMaxOverloadX100
      baselinePairPenalty ctx.liveSourceDfX100 ctx.sourceDfCapacityMibSX100
    slotConstraint := (ctx.sourceSlotConstraint ctx.sourceTaskCount).combine
      (ctx.destinationSlotConstraint best.domain
        ((ctx.plannedStates[best.domain]?.map (·.taskCount)).getD 0))
    cpuSelectionCost := cpuSelectionSoftCost ctx.staySelectedCpuIdle }

def bestDebug (debug : PlacementDebugInfo) (best : CandidateEval) : PlacementDebugInfo :=
  let baselineCost := ctx.rebaselineCost best
  { debug with
    observedCandidateDomain := some best.domain
    observedCandidateCpu := some best.cpu
    observedDestinationLiveDfX100 := ctx.bestDestinationLiveDfX100 best
    baselineTotalOverloadX100 := baselineCost.totalOverloadX100
    candidateTotalOverloadX100 := best.cost.totalOverloadX100
    baselineMaxOverloadX100 := baselineCost.maxOverloadX100
    candidateMaxOverloadX100 := best.cost.maxOverloadX100
    baselinePairPenalty := baselineCost.pairPenalty
    candidatePairPenalty := best.cost.pairPenalty
    baselineCombinedCost := baselineCost.totalCost
    candidateCombinedCost := best.cost.totalCost }

def bestFigures (best : CandidateEval) (dfEffectX100 : Nat) : DestinationFigures where
  currentDfX100 := best.destinationDfBeforeX100
  currentLlcX100 := best.destinationLlcBeforeX100
  dfEffectX100
  llcEffectX100 := ctx.estimatedSourceLlcEffectX100

/-- The decision for a known, non-excluded source once a best candidate is found. -/
def moveOrStay (debug : PlacementDebugInfo) (best : CandidateEval) : PlacementDecision :=
  let baselineCost := ctx.rebaselineCost best
  let debug := ctx.bestDebug debug best
  let figures := ctx.bestFigures best (taskSignatureEffect ctx.task ctx.thread
    (ctx.mapping.dfCapacityMibSX100 best.domain)).dfX100
  if !best.cost.isBetterThan baselineCost then
    ctx.stay .stayCurrentDomain ctx.stayTickDecision defaultSliceNs ctx.movedFigures figures debug
  else if !best.cost.clearsMarginAgainst baselineCost ctx.migrateMarginX100 then
    ctx.stay .marginNotMet ctx.stayTickDecision defaultSliceNs ctx.movedFigures figures debug
  else
    ctx.decide (some best.domain) (some best.cpu) .moveCoolerDomain ctx.moveTickDecision
      (baselineCost.totalCost - best.cost.totalCost) defaultSliceNs ctx.movedFigures figures debug

def escapeDecision (debug : PlacementDebugInfo) (best : CandidateEval) : PlacementDecision :=
  ctx.decide (some best.domain) (some best.cpu) .excludedDomainEscape ctx.moveTickDecision
    (ctx.baselineSourcePenalty - best.cost.pairPenalty) defaultSliceNs ctx.movedFigures
    (ctx.bestFigures best ctx.sourceEffect.dfX100) debug

def scanDecision : PlacementDecision :=
  let state := ctx.scanDomains
  match state.scan.best with
  | none => ctx.noBestStay state
  | some best =>
      if !ctx.currentExcluded then ctx.moveOrStay state.debug best
      else ctx.escapeDecision state.debug best

/-- `now_ns < meta.map(|value| value.settle_until_ns).unwrap_or(0)`. -/
def inSettleWindow : Bool :=
  Decidable.decide (ctx.nowNs < (ctx.thread.map (·.settleUntilNs)).getD 0)

end PlacementContext

def choosePlacementWithPlannedCpus (ctx : PlacementContext) : PlacementDecision :=
  match ctx.idleSpread with
  | some (spreadDomain, spreadCpu) => ctx.spreadDecision spreadDomain spreadCpu
  | none =>
      if !ctx.currentExcluded && ctx.inSettleWindow then ctx.earlyStay
      else if !ctx.currentExcluded && ctx.threadClass == .cold then ctx.earlyStay
      else if !ctx.currentExcluded &&
          (!ctx.signatureValid || ctx.currentSourceSignatureDfX100 == 0) then ctx.earlyStay
      else if ctx.sourceBudgetExhausted then ctx.budgetStay
      else ctx.scanDecision

end CSwitch.Policy
