import CSwitch.Dispatch.Reservations
import CSwitch.Dispatch.Throttle
import CSwitch.Library.WorkRound

/-! The dispatch loop of the default scheduler: the decision taken for a task,
its hand-over to the kernel, and the records and reservations written after it. -/

set_option autoImplicit false

namespace CSwitch.Dispatch

open Std (TreeMap TreeSet)
open Policy Planner Library

/-- What a round of the loop reads and does not change. -/
structure DispatchRound where
  topo : TopologyLayout
  mapping : MappingInfo
  cfg : PolicyConfig
  llcStates : List (Option LlcStateValue)
  dfStates : List (Option CcmDfStateValue)
  cpuUtilsX100 : List Nat
  allowedCpusByTid : CpuSetMap
  activePlan : Option PlacementPlan
  targetCpus : TreeMap Nat Nat
  latestDfSweepEpoch : Nat
  effectiveLinkVillains : List (Option LinkContender)
  userschedPid : Nat

structure DispatchState where
  threads : ThreadMap
  reservations : DispatchBatchReservations
  cpuStates : List CpuStateValue

/-- The outside of one iteration: the clock and the answer of `bpf.dispatch_task`. -/
structure Attempt where
  nowNs : Nat
  accepted : Bool

/-- The record of a task handed to the kernel; a task of the scheduler itself
has no decision. -/
structure Handover where
  dispatched : DispatchedTask
  decision : Option PlacementDecision
  nowNs : Nat
  deriving DecidableEq

/-- `threads.entry(tid).or_default()`. -/
def threadEntry (threads : ThreadMap) (tid : Nat) : ManagedThreadState := threads[tid]?.getD {}

def isCrossDomainMove (task : QueuedTask) (decision : PlacementDecision) : Bool :=
  (decision.selectedDomain.map fun domain => some domain != taskCurrentDomain task).getD false &&
    (decision.reason == .moveCoolerDomain || decision.reason == .excludedDomainEscape) &&
    !decision.deferDispatch

/-- A task of the scheduler itself goes to any CPU with the default slice. -/
def userschedDispatch (task : QueuedTask) : DispatchedTask :=
  { DispatchedTask.new task with cpu := rlCpuAny, sliceNs := defaultSliceNs }

/-! ## Records written after a dispatch -/

def rawDfSnapshot (dfStates : List (Option CcmDfStateValue)) (nowNs staleMs : Nat) :
    Option (Vector Nat maxDomains × Nat) :=
  let validDomains := min dfStates.length maxDomains
  if validDomains = 0 then none
  else
    let snapshot := Vector.ofFn fun index : Fin maxDomains =>
      match getFlat dfStates index with
      | none => 0
      | some state =>
          if state.valid = 0 ∨ isStale state.sampleTsNs nowNs staleMs then 0 else state.bwX100
    some (snapshot, validDomains)

def captureDispatchSnapshot (dfStates : List (Option CcmDfStateValue)) (nowNs staleMs : Nat)
    (selectedDomain selectedCpu : Option Nat) : Option DispatchSnapshot :=
  (rawDfSnapshot dfStates nowNs staleMs).map fun snapshot =>
    { capturedAtNs := nowNs
      selectedDomain
      selectedCpu
      dfRawBwMibSX100 := snapshot.1
      validDomains := snapshot.2 }

def recordedDomain (task : QueuedTask) (decision : PlacementDecision) : Option Nat :=
  decision.selectedDomain.or (taskCurrentDomain task)

def recordedCpu (task : QueuedTask) (decision : PlacementDecision) : Option Nat :=
  decision.selectedCpu.or (taskCurrentCpu task)

/-- A dispatch from a known domain to another one, whatever its reason. -/
def crossesDomains (task : QueuedTask) (decision : PlacementDecision) : Bool :=
  (taskCurrentDomain task).isSome && decision.selectedDomain.isSome &&
    taskCurrentDomain task != decision.selectedDomain && !decision.deferDispatch

def reverseHysteresisMultiplier : Nat := 1

def recordMigration (entry : ManagedThreadState) (task : QueuedTask) (decision : PlacementDecision)
    (nowNs : Nat) (cfg : PolicyConfig) : ManagedThreadState :=
  if crossesDomains task decision then
    { entry with
      settleUntilNs := wrapAdd64 nowNs (satMul64 cfg.migrateSettleMs 1000000)
      lastMigrationFromDomain := taskCurrentDomain task
      lastMigrationToDomain := recordedDomain task decision
      lastMigrationAtNs := nowNs
      reverseProtectUntilNs := wrapAdd64 nowNs
        (satMul64 (satMul64 cfg.migrateSettleMs reverseHysteresisMultiplier) 1000000) }
  else entry

def recordDecision (entry : ManagedThreadState) (task : QueuedTask) (decision : PlacementDecision)
    (nowNs : Nat) (dfStates : List (Option CcmDfStateValue)) (cfg : PolicyConfig) :
    ManagedThreadState :=
  let seen := { entry with
    tid := task.key
    tgid := task.group
    comm := commToString task.comm
    lastSeenNs := nowNs
    lastClass := decision.threadClass
    lastSelectedDomain := recordedDomain task decision
    lastSelectedCpu := recordedCpu task decision
    lastObservedDomain := taskCurrentDomain task
    lastObservedCpu := taskCurrentCpu task }
  let moved := recordMigration seen task decision nowNs cfg
  if cfg.signatureSnapshots && !decision.deferDispatch then
    { moved with
      dispatchSnapshot := captureDispatchSnapshot dfStates nowNs cfg.dfStaleMs
        (recordedDomain task decision) (recordedCpu task decision) }
  else moved

def occupyCpu (states : List CpuStateValue) (cpu tid nowNs : Nat) : List CpuStateValue :=
  states.modify cpu fun state =>
    { state with
      idle := 0
      cpuDsqDepth := satAdd32 state.cpuDsqDepth 1
      currentTid := tid
      lastUpdateNs := nowNs }

/-! ## The decision for a task -/

def applyControl (task : QueuedTask) (decision : PlacementDecision)
    (control : VillainThrottleControl) : PlacementDecision :=
  let decision := { decision with trigger := .villainReslice, villainScore := control.score }
  match control.action with
  | .defer _ =>
      { decision with
        deferDispatch := true
        tickDecision := .defer
        selectedDomain := taskCurrentDomain task
        selectedCpu := taskCurrentCpu task }
  | .reslice sliceNs _ => { decision with tickDecision := .reslice, sliceNs }

/-- A move of the policy is asked for once more after the throttle has written
to the thread record. -/
def revalidate (ctx : PlacementContext) (decision : PlacementDecision) : PlacementDecision :=
  if !decision.planUsed && isCrossDomainMove ctx.task decision then
    let revalidated := choosePlacementWithPlannedCpus ctx
    if !isCrossDomainMove ctx.task revalidated ||
        revalidated.selectedDomain != decision.selectedDomain ||
        revalidated.selectedCpu != decision.selectedCpu then revalidated
    else decision
  else decision

structure SettledTask where
  decision : PlacementDecision
  entry : ManagedThreadState
  dispatched : DispatchedTask

namespace DispatchRound

variable (round : DispatchRound)

def context (state : DispatchState) (task : QueuedTask) (allowedCpus : TreeSet Nat) (nowNs : Nat) :
    PlacementContext where
  task
  thread := state.threads[task.key]?
  topo := round.topo
  mapping := round.mapping
  plannedStates := state.reservations.domainStates
  llcStates := round.llcStates
  dfStates := round.dfStates
  cpuStates := state.cpuStates
  cpuUtilsX100 := round.cpuUtilsX100
  plannedCpuStates := state.reservations.cpuStates
  allowedCpus
  nowNs
  cfg := round.cfg

/-- The policy's answer, marked with why no plan entry was executed. -/
def fallbackDecision (ctx : PlacementContext) (fallbackReason : PlanRejection) :
    PlacementDecision :=
  let decision := choosePlacementWithPlannedCpus ctx
  let decision := { decision with fallbackReason := some fallbackReason }
  match round.activePlan with
  | none => { decision with plannedDomain := none, plannedCpu := none }
  | some plan =>
      let decision := { decision with
        plannerEpoch := plan.builtFromSweepEpoch
        planRevision := plan.planRevision }
      match plan.entries[ctx.task.key]? with
      | none => { decision with plannedDomain := none, plannedCpu := none }
      | some entry =>
          { decision with
            plannedDomain := some entry.targetDomain
            plannedCpu := entry.targetCpu
            syncGroupId := entry.syncGroupId
            syncAnchorDomain := entry.syncAnchorDomain
            syncOverride := entry.syncOverride }

def firstDecision (ctx : PlacementContext) : PlacementDecision :=
  match round.activePlan with
  | none => round.fallbackDecision ctx .noPlan
  | some plan =>
      match plannedDecision ctx plan round.latestDfSweepEpoch with
      | .ok decision => decision
      | .error reason => round.fallbackDecision ctx reason

def currentVillain (tid : Nat) : Option (Nat × LinkContender) :=
  (round.effectiveLinkVillains.mapIdx fun linkId contender =>
    contender.map fun contender => (linkId, contender)).reduceOption.find? fun villain =>
      villain.2.tid == tid

def throttle (task : QueuedTask) (entry : ManagedThreadState) (nowNs : Nat) :
    ManagedThreadState × Option VillainThrottleControl :=
  maybeApplyVillainTokenThrottle entry (round.currentVillain task.key)
    (QueueTrigger.fromU32 task.trigger).isTick nowNs round.cfg

def targetCpuPrepass (tid : Nat) : Option Nat :=
  (round.activePlan.bind fun plan => plan.entries[tid]?.bind (·.targetCpu)).or
    round.targetCpus[tid]?

/-- The CPU reserved for the task replaces the chosen one when it is in the
selected domain and still free. -/
def overrideCpu (ctx : PlacementContext) (decision : PlacementDecision) : PlacementDecision :=
  if decision.deferDispatch then decision
  else
    match preferredReservedCpuForSelectedDomain (cpuViewOf ctx)
        (round.targetCpuPrepass ctx.task.key) decision.selectedDomain ctx.task.key with
    | none => decision
    | some reservedCpu => { decision with selectedCpu := some reservedCpu }

def settleTask (state : DispatchState) (task : QueuedTask) (allowedCpus : TreeSet Nat)
    (nowNs : Nat) : SettledTask :=
  let first := round.firstDecision (round.context state task allowedCpus nowNs)
  let (entry, control) := round.throttle task (threadEntry state.threads task.key) nowNs
  let throttled := (control.map (applyControl task first)).getD first
  let ctx := (round.context state task allowedCpus nowNs).withThread (some entry)
  let decision := round.overrideCpu ctx (revalidate ctx throttled)
  let (entry, tickHoldoff) := nextTickHoldoffTicks entry task decision
  { decision
    entry
    dispatched :=
      { DispatchedTask.new task with
        cpu := (decision.selectedCpu.bind tryI32).getD rlCpuAny
        sliceNs := decision.sliceNs
        tickHoldoff } }

/-! ## One iteration -/

def commitDecision (state : DispatchState) (task : QueuedTask) (decision : PlacementDecision)
    (nowNs : Nat) : DispatchState :=
  let reservations :=
    match (recordedDomain task decision).filter fun _ => isCrossDomainMove task decision with
    | none => state.reservations
    | some domain =>
        state.reservations.commitDomainDecision task state.threads[task.key]? round.mapping domain
  match recordedCpu task decision with
  | none => { state with reservations }
  | some cpu =>
      { state with
        reservations := reservations.commitCpuDecision task cpu
        cpuStates := occupyCpu state.cpuStates cpu task.key nowNs }

def dispatchManaged (state : DispatchState) (task : QueuedTask) (allowedCpus : TreeSet Nat)
    (attempt : Attempt) : DispatchState × Fate Handover :=
  let settled := round.settleTask state task allowedCpus attempt.nowNs
  let decision := settled.decision
  if !decision.deferDispatch && !attempt.accepted then
    ({ state with threads := state.threads.insert task.key settled.entry }, .failed)
  else
    let recorded := recordDecision settled.entry task decision attempt.nowNs round.dfStates round.cfg
    let state := { state with threads := state.threads.insert task.key recorded }
    if decision.deferDispatch then (state, .deferred)
    else (round.commitDecision state task decision attempt.nowNs,
      .sent ⟨settled.dispatched, some decision, attempt.nowNs⟩)

def dispatchTask (state : DispatchState) (task : QueuedTask) (attempt : Attempt) :
    DispatchState × Fate Handover :=
  if task.group = round.userschedPid then
    (state, if attempt.accepted then .sent ⟨userschedDispatch task, none, attempt.nowNs⟩ else .failed)
  else
    match round.allowedCpusByTid[task.key]? with
    | none => (state, .dropped)
    | some allowedCpus => round.dispatchManaged state task allowedCpus attempt

end DispatchRound

structure Burst where
  state : DispatchState
  flow : Flow QueuedTask Handover

/-- One iteration: the front task is popped and settled. -/
def dispatchNext (round : DispatchRound) (attempt : Attempt) (burst : Burst) : Burst :=
  if burst.flow.halted then burst
  else
    match burst.flow.pending with
    | [] => burst
    | task :: _ =>
        let (state, fate) := round.dispatchTask burst.state task attempt
        { state, flow := burst.flow.settle 0 fate }

/-- The whole loop; it needs at most one iteration for every pending task. -/
def dispatchLoop (round : DispatchRound) (attempts : Nat → Attempt) (burst : Burst) : Burst :=
  iterate (dispatchNext round) attempts burst burst.flow.pending.length

/-! ## The start of a round -/

def readableCpus (read : Option (TreeSet Nat)) : Option (TreeSet Nat) :=
  read.filter fun cpus => !cpus.isEmpty

/-- The affinity read of one queue index. A tid that has its set already is not
read again, and a read that yields nothing leaves the tid out. -/
def collectAllowedCpus (skips : QueuedTask → Bool) (allowedCpus : Nat → Option (TreeSet Nat))
    (collected : CpuSetMap) (entry : Nat × QueuedTask) : CpuSetMap :=
  if skips entry.2 || collected.contains entry.2.key then collected
  else
    match readableCpus (allowedCpus entry.1) with
    | none => collected
    | some cpus => collected.insert entry.2.key cpus

def collectAllowedCpusWith (skips : QueuedTask → Bool) (pending : List QueuedTask)
    (allowedCpus : Nat → Option (TreeSet Nat)) : CpuSetMap :=
  (pending.mapIdx fun index task => (index, task)).foldl (collectAllowedCpus skips allowedCpus) ∅

def collectAllowedCpusForPending (pending : List QueuedTask)
    (allowedCpus : Nat → Option (TreeSet Nat)) : CpuSetMap :=
  collectAllowedCpusWith (fun _ => false) pending allowedCpus

def initialDomainTargets (activePlan : Option PlacementPlan) (latestDfSweepEpoch : Nat) :
    TreeMap Nat Nat :=
  match activePlan.filter fun plan => planIsCurrent plan latestDfSweepEpoch with
  | none => ∅
  | some plan => plan.entries.map fun _ entry => entry.targetDomain

def initialCpuTargets (activePlan : Option PlacementPlan) (latestDfSweepEpoch : Nat) :
    TreeMap Nat Nat :=
  match activePlan.filter fun plan => planIsCurrent plan latestDfSweepEpoch with
  | none => ∅
  | some plan => plan.entries.filterMap fun _ entry => entry.targetCpu

/-- The burst's target CPUs written into a current plan. -/
def retargetPlan (activePlan : Option PlacementPlan) (latestDfSweepEpoch : Nat)
    (targetCpus : TreeMap Nat Nat) : Option PlacementPlan :=
  activePlan.map fun plan =>
    if planIsCurrent plan latestDfSweepEpoch then
      { plan with
        entries := plan.entries.map fun tid entry =>
          { entry with targetCpu := targetCpus[tid]?.or entry.targetCpu } }
    else plan

/-- Everything a round starts from; `allowedCpus` answers the affinity reads in
queue order. -/
structure RoundInput where
  topo : TopologyLayout
  mapping : MappingInfo
  cfg : PolicyConfig
  llcStates : List (Option LlcStateValue)
  dfStates : List (Option CcmDfStateValue)
  cpuStates : List CpuStateValue
  cpuUtilsX100 : List Nat
  threads : ThreadMap
  pending : List QueuedTask
  allowedCpus : Nat → Option (TreeSet Nat)
  activePlan : Option PlacementPlan
  latestDfSweepEpoch : Nat
  effectiveLinkVillains : List (Option LinkContender)
  userschedPid : Nat

namespace RoundInput

variable (input : RoundInput)

def allowedCpusByTid : CpuSetMap := collectAllowedCpusForPending input.pending input.allowedCpus

/-- The ledger before any decision, with the target CPUs of the burst. -/
def burstTargets : BurstTargets :=
  let cpuTargets := initialCpuTargets input.activePlan input.latestDfSweepEpoch
  (DispatchBatchReservations.fromSnapshot input.topo input.threads input.pending
    (initialDomainTargets input.activePlan input.latestDfSweepEpoch)
    cpuTargets).reserveBurstTargetCpus input.pending
      { topo := input.topo, mapping := input.mapping, cpuStates := input.cpuStates
        cpuUtilsX100 := input.cpuUtilsX100, allowedCpusByTid := input.allowedCpusByTid
        cfg := input.cfg } cpuTargets

def round : DispatchRound where
  topo := input.topo
  mapping := input.mapping
  cfg := input.cfg
  llcStates := input.llcStates
  dfStates := input.dfStates
  cpuUtilsX100 := input.cpuUtilsX100
  allowedCpusByTid := input.allowedCpusByTid
  activePlan :=
    retargetPlan input.activePlan input.latestDfSweepEpoch input.burstTargets.targetCpus
  targetCpus := input.burstTargets.targetCpus
  latestDfSweepEpoch := input.latestDfSweepEpoch
  effectiveLinkVillains := input.effectiveLinkVillains
  userschedPid := input.userschedPid

def burst : Burst where
  state :=
    { threads := input.threads
      reservations := input.burstTargets.reservations
      cpuStates := input.cpuStates }
  flow := { pending := input.pending }

end RoundInput

def strandedRound : RoundInput where
  topo := sampleTopology
  mapping := sampleMapping
  cfg := samplePolicy
  llcStates := []
  dfStates := []
  cpuStates := []
  cpuUtilsX100 := []
  threads := .ofList [(7, strandedThread)]
  pending := [strandedTask]
  allowedCpus := fun _ => some (.ofList [1])
  activePlan := some strandedRun.output.plan
  latestDfSweepEpoch := 1
  effectiveLinkVillains := []
  userschedPid := 1

end CSwitch.Dispatch
