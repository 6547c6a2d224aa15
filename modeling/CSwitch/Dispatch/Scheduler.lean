import CSwitch.Dispatch.Loop

/-! The main loop of the default scheduler. A round prunes exited threads,
refreshes the records of the pending tasks, raises planner triggers, and runs
the dispatch loop; threads and undispatched tasks carry over to the next round. -/

set_option autoImplicit false

namespace CSwitch.Dispatch

open Std (TreeMap TreeSet)
open Policy Planner Library

structure SchedulerConfig where
  topo : TopologyLayout
  mapping : MappingInfo
  cfg : PolicyConfig
  userschedPid : Nat
  disableAutoSyncHints : Bool := false
  syncTgidOverrides : TreeSet Nat := ∅

structure SchedulerState where
  threads : ThreadMap := ∅
  pending : List QueuedTask := []

/-- The outside of one round: exited threads, new tasks, samples, the plan that
is active when the dispatch loop starts, affinity reads, clock and kernel. The
two signature updates are left open; they write the named signature fields and
nothing else. -/
structure RoundWorld where
  exited : Nat → Bool
  dequeued : List QueuedTask
  sweepComplete : Option Nat
  domainStateFlips : TreeSet Nat
  victimLinks : TreeSet Nat
  prepassNowNs : Nat
  llcStates : List (Option LlcStateValue)
  dfStates : List (Option CcmDfStateValue)
  cpuStates : List CpuStateValue
  cpuUtilsX100 : List Nat
  updateSignature : ManagedThreadState → QueuedTask → ThreadSignature × Option DispatchSnapshot
  csEvidence : Nat → ManagedThreadState → ThreadSignature
  allowedCpus : Nat → Option (TreeSet Nat)
  activePlan : Option PlacementPlan
  latestDfSweepEpoch : Nat
  effectiveLinkVillains : List (Option LinkContender)
  attempts : Nat → Attempt

/-! ## Before the dispatch loop -/

def pruneDeadThreads (threads : ThreadMap) (exited : Nat → Bool) : ThreadMap :=
  threads.filter fun tid _ => !exited tid

def taskStallDeltaPctX100 (task : QueuedTask) : Nat :=
  task.lastStallPctX100 - task.ewmaStallPctX100

def refreshThreadFromTask (entry : ManagedThreadState) (task : QueuedTask) (nowNs : Nat) :
    ManagedThreadState :=
  { entry with
    tid := task.key
    tgid := task.group
    comm := commToString task.comm
    lastSeenNs := nowNs
    lastObservedDomain := taskCurrentDomain task
    lastObservedCpu := taskCurrentCpu task
    lastL2BwMibSX100 := task.lastL2BwMibSX100
    ewmaL2BwMibSX100 := task.ewmaL2BwMibSX100
    lastFillBwMibSX100 := task.lastFillBwMibSX100
    ewmaFillBwMibSX100 := task.ewmaFillBwMibSX100
    lastIpcX1000 := task.lastIpcX1000
    ewmaIpcX1000 := task.ewmaIpcX1000
    lastStallPctX100 := task.lastStallPctX100
    ewmaStallPctX100 := task.ewmaStallPctX100
    lastStallDeltaPctX100 := taskStallDeltaPctX100 task }

structure PrepassState where
  threads : ThreadMap
  triggers : List PlannerTrigger

namespace SchedulerConfig

variable (config : SchedulerConfig)

def prepassEntry (world : RoundWorld) (entry : ManagedThreadState) (task : QueuedTask) :
    ManagedThreadState :=
  let nowNs := world.prepassNowNs
  let refreshed := refreshThreadFromTask entry task nowNs
  let signed :=
    if config.cfg.signatureSnapshots then
      let (signature, dispatchSnapshot) := world.updateSignature refreshed task
      let signed := { refreshed with signature, dispatchSnapshot }
      if (QueueTrigger.fromU32 task.trigger).isTick then { signed with lastTickSeenNs := nowNs }
      else signed
    else refreshed
  let currentLlc := (taskCurrentDomain task).bind (getFlat world.llcStates)
  let classified := { signed with lastClass := classifyTask task currentLlc nowNs config.cfg }
  { classified with
    lastSyncQualified :=
      syncQualifiedForPlanner classified config.disableAutoSyncHints config.syncTgidOverrides }

def prepassTask (world : RoundWorld) (pass : PrepassState) (task : QueuedTask) : PrepassState :=
  if task.group = config.userschedPid then pass
  else
    let previous := threadEntry pass.threads task.key
    let activeCutoffNs :=
      world.prepassNowNs - satMul64 (max config.cfg.dfStaleMs config.cfg.llcStaleMs) 1000000
    let entry := config.prepassEntry world previous task
    let runnable :=
      if previous.lastSeenNs ≥ activeCutoffNs then [] else [PlannerTrigger.runnableDelta task.key]
    let changed :=
      if previous.lastClass ≠ entry.lastClass ∨ previous.lastSyncQualified ≠ entry.lastSyncQualified
      then [PlannerTrigger.signatureChange task.key] else []
    { threads := pass.threads.insert task.key entry
      triggers := pass.triggers ++ runnable ++ changed }

def prepass (world : RoundWorld) (threads : ThreadMap) (pending : List QueuedTask) : PrepassState :=
  let sampled := world.sweepComplete.toList.map PlannerTrigger.sweepComplete ++
    world.domainStateFlips.toList.map PlannerTrigger.domainStateFlip
  let pass := pending.foldl (config.prepassTask world) { threads, triggers := sampled }
  if world.victimLinks.isEmpty then pass
  else
    { pass with
      triggers := pass.triggers ++
        config.mapping.eligibleDomains.toList.map PlannerTrigger.tickPressure }

/-- `apply_plan_cs_attribution` and the decay of old evidence. -/
def applyCsEvidence (world : RoundWorld) (threads : ThreadMap) : ThreadMap :=
  if config.cfg.signatureSnapshots then
    threads.map fun tid thread => { thread with ioCsSignature := world.csEvidence tid thread }
  else threads

/-! ## Rounds -/

def preparedThreads (world : RoundWorld) (state : SchedulerState) : ThreadMap :=
  config.applyCsEvidence world (config.prepass world
    (pruneDeadThreads state.threads world.exited) (state.pending ++ world.dequeued)).threads

def roundInput (world : RoundWorld) (state : SchedulerState) : RoundInput where
  topo := config.topo
  mapping := config.mapping
  cfg := config.cfg
  llcStates := world.llcStates
  dfStates := world.dfStates
  cpuStates := world.cpuStates
  cpuUtilsX100 := world.cpuUtilsX100
  threads := config.preparedThreads world state
  pending := state.pending ++ world.dequeued
  allowedCpus := world.allowedCpus
  activePlan := world.activePlan
  latestDfSweepEpoch := world.latestDfSweepEpoch
  effectiveLinkVillains := world.effectiveLinkVillains
  userschedPid := config.userschedPid

def schedulerRound (world : RoundWorld) (state : SchedulerState) : SchedulerState :=
  let input := config.roundInput world state
  let burst := dispatchLoop input.round world.attempts input.burst
  { threads := burst.state.threads, pending := burst.flow.requeue }

section Run

variable (worlds : Nat → RoundWorld) (start : SchedulerState)

def schedulerRun : Nat → SchedulerState := iterate config.schedulerRound worlds start

def runInput (index : Nat) : RoundInput :=
  config.roundInput (worlds index) (config.schedulerRun worlds start index)

/-- A point of the run: a number of iterations into a round. -/
def runBurst (index count : Nat) : Burst :=
  iterate (dispatchNext (config.runInput worlds start index).round) (worlds index).attempts
    (config.runInput worlds start index).burst count

def runNow (worlds : Nat → RoundWorld) (index count : Nat) : Nat :=
  ((worlds index).attempts count).nowNs

/-- A dispatch of the run: an iteration hands the task over with the decision. -/
def SendsAt (index count : Nat) (task : QueuedTask) (decision : PlacementDecision) : Prop :=
  ∃ dispatched, (config.runBurst worlds start index (count + 1)).flow.sent =
    (config.runBurst worlds start index count).flow.sent ++
      [(task, ⟨dispatched, some decision, runNow worlds index count⟩)]

end Run

end SchedulerConfig

end CSwitch.Dispatch
