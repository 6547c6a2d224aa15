import CSwitch.Policy.Pipeline

/-! Placement of the ARCAS scheduler: the domain and CPU that the controller
chose for a thread come first, then the current domain, then the other active
domains in order. -/

set_option autoImplicit false

namespace CSwitch.Arcas

open Std (TreeSet)
open Policy

structure ArcasTargets where
  activeDomains : List Nat
  targetDomain : Option Nat
  targetCpu : Option Nat

def orderCandidateDomains (activeDomains : List Nat) (targetDomain currentDomain : Option Nat) :
    List Nat :=
  let append (ordered : List Nat) (domain : Nat) :=
    if ordered.contains domain then ordered else ordered ++ [domain]
  let target := (targetDomain.filter activeDomains.contains).toList
  let current := (currentDomain.filter activeDomains.contains).toList.foldl append target
  activeDomains.foldl append current

def activeDomainList (mapping : MappingInfo) (activeDomains : List Nat) : List Nat :=
  let eligible := activeDomains.filter fun domain => mapping.eligibleDomains.contains domain
  if !eligible.isEmpty then eligible else mapping.eligibleDomains.toList

/-- Unlike the default policy, all allowed CPUs count when none is eligible. -/
def allowedEligibleCpus (allowedCpus : TreeSet Nat) (mapping : MappingInfo) : TreeSet Nat :=
  let eligible := allowedCpus.filter fun cpu => mapping.eligibleCpus.contains cpu
  if eligible.isEmpty then allowedCpus else eligible

def firstAllowedCpuAndDomain (topo : TopologyLayout) (allowedCpus : TreeSet Nat) :
    Option (Nat × Nat) :=
  allowedCpus.toList.findSome? fun cpu => (topo.domainOfCpu cpu).map fun domain => (cpu, domain)

/-- The source side of a decision: pressure of the current domain and what the
task adds to it. -/
structure SourceMetrics where
  currentDfX100 : Nat
  currentLlcX100 : Nat
  dfEffectX100 : Nat
  llcEffectX100 : Nat
  signatureValid : Bool

/-- The default policy's context is used for its views; ARCAS reads no DF samples. -/
def sourceMetrics (ctx : PlacementContext) : SourceMetrics :=
  let effect := ctx.sourceEffect
  let counted := ctx.currentPlan.filter fun state => decide (state.contributorCount > 0)
  let currentLlcX100 := (counted.map (·.llcPressureX100)).getD effect.llcX100
  { currentDfX100 := ((counted.map (·.dfPressureX100)).or
      (if effect.signatureValid then some effect.dfX100 else none)).getD 0
    currentLlcX100
    dfEffectX100 := effect.dfX100
    llcEffectX100 :=
      if ctx.sourceTaskCount = 0 then effect.llcX100
      else min effect.llcX100 (divCeil currentLlcX100 ctx.sourceTaskCount)
    signatureValid := effect.signatureValid }

section Cpu

variable (ctx : PlacementContext) (domain : Nat) (allowedCpus : TreeSet Nat)

def chooseStayCpu : Option Nat :=
  let available := ctx.currentAvailable domain allowedCpus
  ((ctx.chooseIdleIn domain allowedCpus).filter
    (shouldRebalanceToIdleSibling (taskCurrentCpu ctx.task) ctx.taskTid ctx.cpuStates)).or <|
  ((currentCpuInDomain ctx.task.currentCpu domain ctx.topo allowedCpus).filter available).or <|
  ((preferredCpuInDomain ctx.task.currentCpu domain ctx.topo ctx.cpuStates ctx.cpuUtilsX100
    allowedCpus ctx.cfg.cpuHighUtilX100 ctx.taskTid).filter available).or <|
  ctx.chooseIn domain allowedCpus

def choosePreferredTargetCpu (preferredCpu : Option Nat) : Option Nat := do
  let cpu ← preferredCpuInDomain ((preferredCpu.bind tryI32).getD (-1)) domain ctx.topo ctx.cpuStates
    ctx.cpuUtilsX100 allowedCpus ctx.cfg.cpuHighUtilX100 ctx.taskTid
  if !ctx.idleCpu cpu then none
  else
    let plannedJobs := (ctx.plannedCpuStates[cpu]?.map (·.jobs)).getD []
    if plannedJobs.isEmpty || plannedJobs.all (· == ctx.taskTid) then some cpu else none

def chooseCpuForDomain (preferredCpu : Option Nat) : Option Nat :=
  (choosePreferredTargetCpu ctx domain allowedCpus preferredCpu).or
    (if some domain == ctx.currentDomain then chooseStayCpu ctx domain allowedCpus
    else ctx.chooseIn domain allowedCpus)

end Cpu

def candidateDecision (ctx : PlacementContext) (domain cpu : Nat) : PlacementDecision :=
  let metrics := sourceMetrics ctx
  let moved := some domain != ctx.currentDomain
  let effect := taskSignatureEffect ctx.task ctx.thread (ctx.mapping.dfCapacityMibSX100 domain)
  let destination := ctx.plannedStates[domain]?
  placementDecision ctx.threadClass (some domain) (some cpu)
    (if moved then .moveCoolerDomain else .stayCurrentDomain) ctx.trigger
    (tickDecisionFor ctx.trigger moved) metrics.signatureValid 0 defaultSliceNs
    { currentDfX100 := metrics.currentDfX100
      predictedDfX100 := metrics.currentDfX100 - metrics.dfEffectX100
      currentLlcX100 := metrics.currentLlcX100
      predictedLlcX100 := metrics.currentLlcX100 - metrics.llcEffectX100 }
    { currentDfX100 := (destination.map (·.dfPressureX100)).getD 0
      currentLlcX100 := (destination.map (·.llcPressureX100)).getD 0
      dfEffectX100 := effect.dfX100
      llcEffectX100 := effect.llcX100 } {} ctx.thread

def fallbackDecision (ctx : PlacementContext) (activeDomains : List Nat)
    (effectiveAllowedCpus : TreeSet Nat) : PlacementDecision :=
  let metrics := sourceMetrics ctx
  let fallback := firstAllowedCpuAndDomain ctx.topo effectiveAllowedCpus
  let stayDomain := ((ctx.currentDomain.filter activeDomains.contains).or
    (fallback.map (·.2))).getD 0
  let stayCpu := ((chooseStayCpu ctx stayDomain effectiveAllowedCpus).or <|
    ((taskCurrentCpu ctx.task).filter effectiveAllowedCpus.contains).or (fallback.map (·.1))).getD 0
  placementDecision ctx.threadClass (some stayDomain) (some stayCpu) .noCandidate ctx.trigger
    (tickDecisionFor ctx.trigger false) metrics.signatureValid 0 defaultSliceNs
    { currentDfX100 := metrics.currentDfX100
      predictedDfX100 := metrics.currentDfX100
      currentLlcX100 := metrics.currentLlcX100
      predictedLlcX100 := metrics.currentLlcX100 }
    { currentDfX100 := metrics.currentDfX100, currentLlcX100 := metrics.currentLlcX100 } {} ctx.thread

def choosePlacementWithTargets (ctx : PlacementContext) (targets : ArcasTargets) :
    PlacementDecision :=
  let activeDomains := activeDomainList ctx.mapping targets.activeDomains
  let effectiveAllowedCpus := allowedEligibleCpus ctx.allowedCpus ctx.mapping
  let candidates := orderCandidateDomains activeDomains targets.targetDomain ctx.currentDomain
  let placed := candidates.findSome? fun domain =>
    let preferredCpu := if some domain == targets.targetDomain then targets.targetCpu else none
    (chooseCpuForDomain ctx domain effectiveAllowedCpus preferredCpu).map (candidateDecision ctx domain)
  placed.getD (fallbackDecision ctx activeDomains effectiveAllowedCpus)

end CSwitch.Arcas
