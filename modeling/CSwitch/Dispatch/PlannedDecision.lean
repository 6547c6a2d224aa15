import CSwitch.Planner.PlanProperties

/-! Execution of a plan entry: the checks that may send a task back to the
fallback policy, the CPU inside the target domain, and the decision record. -/

set_option autoImplicit false

namespace CSwitch.Dispatch

open Std (TreeMap TreeSet)
open Policy Planner

def planIsCurrent (plan : PlacementPlan) (latestDfSweepEpoch : Nat) : Bool :=
  decide (latestDfSweepEpoch - plan.builtFromSweepEpoch ≤ 1)

def allowedDomainsFromCpus (cpus : TreeSet Nat) (topo : TopologyLayout) (mapping : MappingInfo) :
    TreeSet Nat :=
  TreeSet.ofList ((cpus.toList.filterMap topo.domainOfCpu).filter mapping.eligibleDomains.contains)

def allowedEligibleCpus (allowedCpus : TreeSet Nat) (mapping : MappingInfo) : TreeSet Nat :=
  allowedCpus.filter fun cpu => mapping.eligibleCpus.contains cpu

def candidateCpusForTargetDomain (allowedCpus : TreeSet Nat) (targetDomain : Nat)
    (topo : TopologyLayout) (mapping : MappingInfo) : TreeSet Nat :=
  let eligible := cpusInDomain topo (allowedEligibleCpus allowedCpus mapping) targetDomain
  if !eligible.isEmpty then eligible else cpusInDomain topo allowedCpus targetDomain

/-! ## A CPU in the target domain -/

structure CpuView where
  topo : TopologyLayout
  mapping : MappingInfo
  cpuStates : List CpuStateValue
  cpuUtilsX100 : List Nat
  plannedCpuStates : List PlannedCpuState
  allowedCpus : TreeSet Nat
  cfg : PolicyConfig

namespace CpuView

variable (view : CpuView)

def allowedEligible : TreeSet Nat := allowedEligibleCpus view.allowedCpus view.mapping

/-- `planned_cpu_available_for_task` against the CPUs of one set in one domain. -/
def available (cpus : TreeSet Nat) (domain taskTid cpu : Nat) : Bool :=
  plannedCpuAvailableForTask view.plannedCpuStates cpu taskTid (cpusInDomain view.topo cpus domain)
    view.cpuStates view.cpuUtilsX100 view.cfg.cpuHighUtilX100

def preferredIn (cpus : TreeSet Nat) (preferredCpu : Int) (domain taskTid : Nat) : Option Nat :=
  (preferredCpuInDomain preferredCpu domain view.topo view.cpuStates view.cpuUtilsX100 cpus
    view.cfg.cpuHighUtilX100 taskTid).filter (view.available cpus domain taskTid)

def currentIdleIn (cpus : TreeSet Nat) (task : QueuedTask) (domain : Nat) : Option Nat :=
  (currentIdleCpuInDomain task.currentCpu domain view.topo view.cpuStates view.cpuUtilsX100 cpus
    view.cfg.cpuHighUtilX100).filter (view.available cpus domain task.key)

def currentAcceptableIn (cpus : TreeSet Nat) (task : QueuedTask) (domain : Nat) : Option Nat :=
  (currentAcceptableCpuInDomain task.currentCpu domain view.topo view.cpuStates cpus
    task.key).filter (view.available cpus domain task.key)

def chooseIdleIn (cpus : TreeSet Nat) (domain : Nat) : Option Nat :=
  chooseIdleCpuInDomain domain view.topo view.cpuStates view.cpuUtilsX100 view.plannedCpuStates cpus
    view.cfg.cpuHighUtilX100

def chooseIn (cpus : TreeSet Nat) (task : QueuedTask) (domain : Nat) : Option Nat :=
  chooseCpuInDomain domain view.topo view.cpuStates view.cpuUtilsX100 view.plannedCpuStates cpus
    view.cfg.cpuHighUtilX100 task.key

end CpuView

def preferredReservedCpuForSelectedDomain (view : CpuView) (preferredCpu selectedDomain : Option Nat)
    (taskTid : Nat) : Option Nat := do
  let preferredCpu ← preferredCpu.bind tryI32
  let selectedDomain ← selectedDomain
  (view.preferredIn view.allowedEligible preferredCpu selectedDomain taskTid).or
    (view.preferredIn view.allowedCpus preferredCpu selectedDomain taskTid)

def chooseCpuForPlannedDomain (view : CpuView) (task : QueuedTask) (targetDomain : Nat) :
    Option Nat :=
  let currentDomain := taskCurrentDomain task
  let tickCurrentCpu :=
    if currentDomain == some targetDomain && !view.mapping.excludedDomains.contains targetDomain &&
        (QueueTrigger.fromU32 task.trigger).isTick then
      (currentCpuInDomain task.currentCpu targetDomain view.topo view.allowedEligible).or
        (currentCpuInDomain task.currentCpu targetDomain view.topo view.allowedCpus)
    else none
  let currentIdleCpu := (view.currentIdleIn view.allowedEligible task targetDomain).or
    (view.currentIdleIn view.allowedCpus task targetDomain)
  let bestIdleCpu := (view.chooseIdleIn view.allowedEligible targetDomain).or
    (view.chooseIdleIn view.allowedCpus targetDomain)
  let rebalanceIdleCpu := bestIdleCpu.filter
    (shouldRebalanceToIdleSibling (taskCurrentCpu task) task.key view.cpuStates)
  tickCurrentCpu.or <| currentIdleCpu.or <| rebalanceIdleCpu.or <|
    (view.currentAcceptableIn view.allowedEligible task targetDomain).or <|
    (view.currentAcceptableIn view.allowedCpus task targetDomain).or <|
    (view.chooseIn view.allowedEligible task targetDomain).or <|
    view.chooseIn view.allowedCpus task targetDomain

/-! ## The planned decision -/

def cpuViewOf (ctx : PlacementContext) : CpuView where
  topo := ctx.topo
  mapping := ctx.mapping
  cpuStates := ctx.cpuStates
  cpuUtilsX100 := ctx.cpuUtilsX100
  plannedCpuStates := ctx.plannedCpuStates
  allowedCpus := ctx.allowedCpus
  cfg := ctx.cfg

def timerRejection (thread : ManagedThreadState) (currentDomain : Option Nat)
    (targetDomain nowNs : Nat) : Option PlanRejection :=
  if nowNs < thread.settleUntilNs then some .settleWindow
  else if nowNs < thread.reverseProtectUntilNs ∧ thread.lastMigrationToDomain = currentDomain ∧
      thread.lastMigrationFromDomain = some targetDomain then some .reverseProtect
  else none

/-- The checks of `planned_decision` between the entry lookup and the CPU. -/
def planRejection (ctx : PlacementContext) (targetDomain : Nat) : Option PlanRejection :=
  let currentDomain := ctx.currentDomain
  let moves := currentDomain != some targetDomain
  let legalDomains := allowedDomainsFromCpus ctx.allowedCpus ctx.topo ctx.mapping
  if !legalDomains.contains targetDomain && moves then some .illegalDomain
  else
    let timers :=
      if !ctx.currentExcluded && moves then
        ctx.thread.bind fun thread => timerRejection thread currentDomain targetDomain ctx.nowNs
      else none
    match timers with
    | some rejection => some rejection
    | none =>
        if !ctx.currentExcluded && moves &&
            (ctx.currentPlan.map fun state =>
              decide (state.outgoingMigrations ≥ state.migrationBudget)).getD false then
          some .sourceMigrationBudget
        else if moves && ctx.destinationBudgetExhausted targetDomain then
          some .destinationMigrationBudget
        else none

def planCpu (ctx : PlacementContext) (entry : PlacementPlanEntry) : Option Nat :=
  (entry.targetCpu.filter (candidateCpusForTargetDomain ctx.allowedCpus entry.targetDomain ctx.topo
    ctx.mapping).contains).or
    (chooseCpuForPlannedDomain (cpuViewOf ctx) ctx.task entry.targetDomain)

def planReason (ctx : PlacementContext) (targetDomain : Nat) : DecisionReason :=
  if ctx.currentDomain = some targetDomain then .stayCurrentDomain
  else if ctx.currentExcluded then .excludedDomainEscape
  else .moveCoolerDomain

def planTickDecision (ctx : PlacementContext) (targetDomain : Nat) : TickDecision :=
  if ctx.trigger.isTick then
    if ctx.currentDomain = some targetDomain then .stay else .move
  else .none

/-- The decision record of an accepted entry. Unlike the policy, the reported
live bandwidth is not checked for staleness here. -/
def planDecision (ctx : PlacementContext) (entry : PlacementPlanEntry) (selectedCpu : Nat) :
    PlacementDecision :=
  let targetDomain := entry.targetDomain
  let currentSourceDfX100 := (ctx.currentPlan.map (·.dfPressureX100)).getD 0
  let currentSourceLlcX100 := (ctx.currentPlan.map (·.llcPressureX100)).getD 0
  let destination := ctx.plannedStates[targetDomain]?
  let currentDestinationDfX100 := (destination.map (·.dfPressureX100)).getD 0
  let currentDestinationLlcX100 := (destination.map (·.llcPressureX100)).getD 0
  let sourceEffect := taskSignatureEffect ctx.task ctx.thread ctx.sourceDfCapacityMibSX100
  let destinationEffect :=
    taskSignatureEffect ctx.task ctx.thread (ctx.mapping.dfCapacityMibSX100 targetDomain)
  { threadClass := ctx.threadClass
    selectedDomain := some targetDomain
    selectedCpu := some selectedCpu
    reason := planReason ctx targetDomain
    trigger := ctx.trigger
    tickDecision := planTickDecision ctx targetDomain
    signatureValid := (ctx.thread.map (·.signature.valid)).getD false
    villainScore := 0
    deferDispatch := false
    scoreGain := 0
    sliceNs := defaultSliceNs
    currentSourceDfX100
    predictedSourceDfX100 := currentSourceDfX100 - sourceEffect.dfX100
    currentSourceLlcX100
    predictedSourceLlcX100 := currentSourceLlcX100 - sourceEffect.llcX100
    currentDestinationDfX100
    predictedDestinationDfX100 := satAdd32 currentDestinationDfX100 destinationEffect.dfX100
    currentDestinationLlcX100
    predictedDestinationLlcX100 :=
      min (satAdd32 currentDestinationLlcX100 destinationEffect.llcX100) 10000
    signatureSampleCount := (ctx.thread.map (·.signature.sampleCount)).getD 0
    signatureConfidenceX100 := (ctx.thread.map (·.signature.confidenceX100)).getD 0
    signatureStable := (ctx.thread.map (·.signature.stable)).getD false
    plannerEpoch := entry.builtFromSweepEpoch
    planRevision := entry.planRevision
    planUsed := true
    fallbackReason := none
    plannedDomain := some targetDomain
    plannedCpu := entry.targetCpu
    syncGroupId := entry.syncGroupId
    syncAnchorDomain := entry.syncAnchorDomain
    syncOverride := entry.syncOverride
    debug := { liveSourceDfX100 := (ctx.currentDf.map (·.bwX100)).getD 0 } }

def plannedDecision (ctx : PlacementContext) (plan : PlacementPlan) (latestDfSweepEpoch : Nat) :
    Except PlanRejection PlacementDecision :=
  if !planIsCurrent plan latestDfSweepEpoch then .error .stalePlan
  else
    match plan.entries[ctx.task.key]? with
    | none => .error .noPlan
    | some entry =>
        match planRejection ctx entry.targetDomain with
        | some rejection => .error rejection
        | none =>
            match planCpu ctx entry with
            | none => .error .noCpu
            | some selectedCpu => .ok (planDecision ctx entry selectedCpu)

/-! ## What an accepted entry passed -/

/-- The guards behind an executed plan entry that leaves the current domain. -/
structure PlanMoves (ctx : PlacementContext) (targetDomain : Nat) : Prop where
  legal : targetDomain ∈ allowedDomainsFromCpus ctx.allowedCpus ctx.topo ctx.mapping
  timers : ctx.currentExcluded = false → ∀ thread, ctx.thread = some thread →
    timerRejection thread ctx.currentDomain targetDomain ctx.nowNs = none
  sourceBudget : ctx.currentExcluded = false → ∀ state, ctx.currentPlan = some state →
    state.outgoingMigrations < state.migrationBudget
  destinationBudget : ctx.destinationBudgetExhausted targetDomain = false

theorem planRejection_none {ctx : PlacementContext} {targetDomain : Nat}
    (accepted : planRejection ctx targetDomain = none)
    (moves : ctx.currentDomain ≠ some targetDomain) : PlanMoves ctx targetDomain := by
  unfold planRejection at accepted
  dsimp only at accepted
  have leaves : (ctx.currentDomain != some targetDomain) = true := bne_iff_ne.mpr moves
  simp only [leaves, Bool.and_true, Bool.true_and] at accepted
  split at accepted
  · simp at accepted
  next legal =>
    split at accepted
    · simp at accepted
    next timers =>
      split at accepted
      · simp at accepted
      next sourceBudget =>
        split at accepted
        · simp at accepted
        next destinationBudget =>
          refine ⟨by simpa using legal, ?_, ?_, by simpa using destinationBudget⟩
          · intro known thread found
            simpa [known, found] using timers
          · intro known state found
            simpa [known, found] using sourceBudget

theorem plannedDecision_ok {ctx : PlacementContext} {plan : PlacementPlan}
    {latestDfSweepEpoch : Nat} {decision : PlacementDecision}
    (accepted : plannedDecision ctx plan latestDfSweepEpoch = .ok decision) :
    planIsCurrent plan latestDfSweepEpoch = true ∧
      ∃ entry cpu, plan.entries[ctx.task.key]? = some entry ∧
        planRejection ctx entry.targetDomain = none ∧ decision = planDecision ctx entry cpu := by
  unfold plannedDecision at accepted
  split at accepted
  · simp at accepted
  next current =>
    split at accepted
    · simp at accepted
    next entry found =>
      split at accepted
      · simp at accepted
      next passed =>
        split at accepted
        · simp at accepted
        next cpu _ =>
          exact ⟨by simpa using current, entry, cpu, found, passed, (Except.ok.inj accepted).symm⟩

/-! ## Planner and executor agree -/

theorem mem_allowedDomainsFromCpus {cpus : TreeSet Nat} {topo : TopologyLayout}
    {mapping : MappingInfo} {domain : Nat} :
    domain ∈ allowedDomainsFromCpus cpus topo mapping ↔
      (∃ cpu ∈ cpus, topo.domainOfCpu cpu = some domain) ∧ domain ∈ mapping.eligibleDomains := by
  simp [allowedDomainsFromCpus, TreeSet.mem_ofList, List.mem_filterMap]

theorem chooseCpuForPlannedDomain_isSome {view : CpuView} {cpu targetDomain : Nat}
    (consistent : view.topo.Consistent) (allowed : cpu ∈ view.allowedCpus)
    (inDomain : view.topo.domainOfCpu cpu = some targetDomain) (task : QueuedTask) :
    (chooseCpuForPlannedDomain view task targetDomain).isSome := by
  obtain ⟨info, found, listed⟩ := (consistent cpu targetDomain).mp inDomain
  have last : (view.chooseIn view.allowedCpus task targetDomain).isSome :=
    chooseCpuInDomain_isSome found listed allowed _ _ _ _ _
  unfold chooseCpuForPlannedDomain
  simp only [Option.isSome_or, last, Bool.or_true]

/-- The only checks a legal move can still fail are the two budgets. -/
theorem planRejection_of_moveLegal {ctx : PlacementContext} {snapshot : PlannerInput}
    {targetDomain : Nat} {rejection : PlanRejection}
    (legal : MoveLegal snapshot ctx.task.key targetDomain)
    (thread : ctx.thread = snapshot.threads[ctx.task.key]?)
    (home : ctx.currentDomain = snapshot.home ctx.task.key)
    (now : ctx.nowNs = snapshot.nowNs) (mapping : ctx.mapping = snapshot.mapping)
    (domains : snapshot.allowedDomainsOf ctx.task.key =
      allowedDomainsFromCpus ctx.allowedCpus ctx.topo ctx.mapping)
    (rejected : planRejection ctx targetDomain = some rejection) :
    rejection = .sourceMigrationBudget ∨ rejection = .destinationMigrationBudget := by
  have allowed : (allowedDomainsFromCpus ctx.allowedCpus ctx.topo ctx.mapping).contains
      targetDomain = true := TreeSet.contains_iff_mem.mpr (domains ▸ legal.allowed)
  have timers : ∀ known, ctx.currentExcluded = false → ctx.currentDomain ≠ some targetDomain →
      ctx.thread = some known →
      timerRejection known ctx.currentDomain targetDomain ctx.nowNs = none := by
    intro known included moves found
    cases source : ctx.currentDomain with
    | none => simp [PlacementContext.currentExcluded, source] at included
    | some domain =>
        have counted : domain ∉ snapshot.mapping.excludedDomains := by
          simpa [PlacementContext.currentExcluded, source, mapping, ← Bool.not_eq_true] using included
        have distinct : domain ≠ targetDomain := fun same => moves (by rw [source, same])
        obtain ⟨stored, lookup, settled, forward⟩ :=
          legal.timers domain (home ▸ source) distinct counted
        obtain rfl := Option.some.inj (found.symm.trans (thread.trans lookup))
        simp only [timerRejection, now, Nat.not_lt.mpr settled, if_false, forward]
  unfold planRejection at rejected
  dsimp only at rejected
  simp only [allowed, Bool.not_true, Bool.false_and, Bool.false_eq_true, if_false] at rejected
  split at rejected
  next timer caught =>
    split at caught
    next leaves =>
      obtain ⟨known, found, caught⟩ := Option.bind_eq_some_iff.mp caught
      simp only [Bool.and_eq_true, Bool.not_eq_true', bne_iff_ne] at leaves
      simp [timers known leaves.1 leaves.2 found] at caught
    · simp at caught
  · split at rejected
    · exact .inl (Option.some.inj rejected).symm
    · split at rejected
      · exact .inr (Option.some.inj rejected).symm
      · simp at rejected

/-- Planner and executor agree: an entry of a globally computed plan that moves
its thread is executed, or refused for a migration budget and nothing else. -/
theorem plannedDecision_agrees (features : BuildFeatures) (config : PlannerConfig)
    (snapshot : PlannerInput) (triggers : List PlannerTrigger) (moveTrace planDebug : TraceLogger)
    (ctx : PlacementContext) (entry : PlacementPlanEntry)
    (global : (computePlanWithDebug features config snapshot triggers moveTrace
      planDebug).output.wasGlobal = true)
    (planned : (computePlanWithDebug features config snapshot triggers moveTrace
      planDebug).output.plan.entries[ctx.task.key]? = some entry)
    (moves : snapshot.home ctx.task.key ≠ some entry.targetDomain)
    (thread : ctx.thread = snapshot.threads[ctx.task.key]?)
    (home : taskCurrentDomain ctx.task = snapshot.home ctx.task.key)
    (now : ctx.nowNs = snapshot.nowNs) (topo : ctx.topo = snapshot.topo)
    (mapping : ctx.mapping = snapshot.mapping)
    (domains : snapshot.allowedDomains[ctx.task.key]? =
      some (allowedDomainsFromCpus ctx.allowedCpus snapshot.topo snapshot.mapping))
    (consistent : snapshot.topo.Consistent) :
    match plannedDecision ctx (computePlanWithDebug features config snapshot triggers moveTrace
      planDebug).output.plan snapshot.latestDfSweepEpoch with
    | .ok _ => True
    | .error rejection =>
        rejection = .sourceMigrationBudget ∨ rejection = .destinationMigrationBudget := by
  have legal : MoveLegal snapshot ctx.task.key entry.targetDomain := by
    cases (computePlan_entry planned).1 with
    | home same => exact absurd same moves
    | candidate legal => exact legal
    | previous incremental => exact absurd (incremental.symm.trans global) (by simp)
  have allowedDomains : snapshot.allowedDomainsOf ctx.task.key =
      allowedDomainsFromCpus ctx.allowedCpus ctx.topo ctx.mapping := by
    simp [PlannerInput.allowedDomainsOf, domains, topo, mapping]
  have fresh : planIsCurrent (computePlanWithDebug features config snapshot triggers moveTrace
      planDebug).output.plan snapshot.latestDfSweepEpoch = true := by
    simp [planIsCurrent, computePlanWithDebug]
  have executable : (planCpu ctx entry).isSome := by
    obtain ⟨⟨cpu, allowed, inDomain⟩, _⟩ :=
      mem_allowedDomainsFromCpus.mp (allowedDomains ▸ legal.allowed)
    have view : (cpuViewOf ctx).topo.Consistent := by rw [cpuViewOf, topo]; exact consistent
    unfold planCpu
    rw [Option.isSome_or, chooseCpuForPlannedDomain_isSome view allowed inDomain, Bool.or_true]
  unfold plannedDecision
  simp only [fresh, Bool.not_true, Bool.false_eq_true, if_false, planned]
  cases refused : planRejection ctx entry.targetDomain with
  | some rejection =>
      exact planRejection_of_moveLegal legal thread home now mapping allowedDomains refused
  | none =>
      obtain ⟨cpu, chosen⟩ := Option.isSome_iff_exists.mp executable
      simp only [chosen]

def strandedTask : QueuedTask := { tid := 7, tgid := 7, currentCpu := 0, currentDomain := 0 }

def strandedContext : PlacementContext where
  task := strandedTask
  thread := some strandedThread
  topo := sampleTopology
  mapping := sampleMapping
  plannedStates := [{ outgoingMigrations := 1, migrationBudget := 1 }, { migrationBudget := 1 }]
  llcStates := []
  dfStates := []
  cpuStates := []
  cpuUtilsX100 := []
  plannedCpuStates := []
  allowedCpus := .ofList [1]
  nowNs := 1000
  cfg := samplePolicy

theorem sampleTopology_consistent : sampleTopology.Consistent := by
  intro cpu domain
  match cpu, domain with
  | 0, 0 => decide
  | 0, 1 => decide
  | 1, 0 => decide
  | 1, 1 => decide
  | cpu + 2, 0 => simp [sampleTopology, TopologyLayout.domainOfCpu]
  | cpu + 2, 1 => simp [sampleTopology, TopologyLayout.domainOfCpu]
  | 0, domain + 2 => simp [sampleTopology, TopologyLayout.domainOfCpu]
  | 1, domain + 2 => simp [sampleTopology, TopologyLayout.domainOfCpu]
  | cpu + 2, domain + 2 => simp [sampleTopology, TopologyLayout.domainOfCpu]

theorem plannedDecision_agrees_stranded :
    plannedDecision strandedContext strandedRun.output.plan 1 = .error .sourceMigrationBudget ∧
      match plannedDecision strandedContext strandedRun.output.plan 1 with
      | .ok _ => True
      | .error rejection =>
          rejection = .sourceMigrationBudget ∨ rejection = .destinationMigrationBudget :=
  ⟨by decide +kernel, plannedDecision_agrees ⟨false⟩ sampleConfig strandedInput [] {} {}
    strandedContext strandedEntry (by decide +kernel) (by decide +kernel) (by decide +kernel) rfl
    (by decide +kernel) rfl rfl rfl rfl sampleTopology_consistent⟩

end CSwitch.Dispatch
