import CSwitch.Attribution.Arming
import CSwitch.Dispatch.Scheduler
import CSwitch.Library.History

/-! The main loop and the planner worker. They share two channels: one slot for
requests, which refuses a request while it is full, and an unbounded queue of
results. An action is what one of the two threads does between two uses of a
channel; a run is any order of actions, where an action that its thread cannot
take now changes nothing. The worker is alive throughout. -/

set_option autoImplicit false

namespace CSwitch.Dispatch

open Std (TreeMap TreeSet)
open Attribution Planner Library

/-- The outside of one iteration of the main loop: its round, the clock and the
affinity reads of the planner input, the link samples, and what attributing a
finished measurement leaves pending. -/
structure IterationWorld where
  round : RoundWorld
  plannerNowNs : Nat
  allowedCpus : Nat → Option (TreeSet Nat)
  dfCsStates : List (Option CcmDfStateValue)
  armNowNs : Nat
  attributed : Option PendingPlanCsAttribution → Option PendingPlanCsAttribution

inductive Phase where
  | sampling
  | receiving (world : IterationWorld)
  | requesting (world : IterationWorld)
  | collecting (world : IterationWorld)
  | dispatching (world : IterationWorld)

/-- `activePlan` is the plan as it was received, `burstTargets` what the bursts since
then wrote into it, each in the epoch of its round. -/
structure PlannerLink where
  scheduler : SchedulerState := {}
  latestDfSweepEpoch : Nat := 0
  activePlan : Option PlacementPlan := none
  burstTargets : List (Nat × TreeMap Nat Nat) := []
  planCsAttribution : PlanCsAttributionState := {}
  phase : Phase := .sampling
  requestSlot : Option PlannerRequest := none
  batch : Option PlannerRequest := none
  results : List PlannerOutput := []
  moveTrace : TraceLogger := {}
  planDebug : TraceLogger := {}

/-- The first four actions are the main loop's, the others the worker's. -/
inductive LinkAction where
  | sample (world : IterationWorld)
  | tryRecv
  | request
  | dispatch
  | recvFirst
  | recvNext
  | compute

structure LinkConfig where
  scheduler : SchedulerConfig
  planner : PlannerConfig
  features : BuildFeatures
  moveTrace : TraceLogger := {}
  planDebug : TraceLogger := {}

/-! ## The main loop -/

def buildPlannerInput (config : SchedulerConfig) (world : IterationWorld)
    (pending : List QueuedTask) (threads : ThreadMap) (latestDfSweepEpoch : Nat)
    (activePlan : Option PlacementPlan) : PlannerInput :=
  let allowedCpus := threads.map fun tid _ => (world.allowedCpus tid).getD ∅
  { topo := config.topo
    mapping := config.mapping
    policy := config.cfg
    nowNs := world.plannerNowNs
    latestDfSweepEpoch
    pendingTids := .ofList (pending.map QueuedTask.key)
    threads
    allowedCpus
    allowedDomains := allowedCpus.map fun _ cpus =>
      allowedDomainsFromCpus cpus config.topo config.mapping
    llcStates := world.round.llcStates
    dfStates := world.round.dfStates
    previousPlan := activePlan }

namespace PlannerLink

variable (config : LinkConfig) (link : PlannerLink)

/-- The active plan with the target CPUs that the bursts wrote into it. -/
def heldPlan : Option PlacementPlan :=
  link.burstTargets.foldl (fun plan burst => retargetPlan plan burst.1 burst.2) link.activePlan

/-- `planner_tx.try_send`: a request that finds the slot full is dropped. -/
def trySend (request : PlannerRequest) : PlannerLink :=
  match link.requestSlot with
  | none => { link with requestSlot := some request }
  | some _ => link

def sample (world : IterationWorld) : PlannerLink :=
  match link.phase with
  | .sampling =>
      { link with
        latestDfSweepEpoch := max link.latestDfSweepEpoch (world.round.sweepComplete.getD 0)
        phase := .receiving world }
  | _ => link

/-- One read of the result queue; an empty queue ends the reading. -/
def tryRecv : PlannerLink :=
  match link.phase, link.results with
  | .receiving world, [] => { link with phase := .requesting world }
  | .collecting world, [] => { link with phase := .dispatching world }
  | .receiving _, output :: rest | .collecting _, output :: rest =>
      { link with activePlan := some output.plan, burstTargets := [], results := rest }
  | _, _ => link

def plannerTriggers (world : IterationWorld) : List PlannerTrigger :=
  (config.scheduler.prepass world.round (pruneDeadThreads link.scheduler.threads world.round.exited)
    (link.scheduler.pending ++ world.round.dequeued)).triggers

def sendsRequest (world : IterationWorld) : Bool :=
  0 < link.latestDfSweepEpoch && !(link.plannerTriggers config world).isEmpty

def plannerRequest (world : IterationWorld) : PlannerRequest where
  snapshot := buildPlannerInput config.scheduler world
    (link.scheduler.pending ++ world.round.dequeued)
    (config.scheduler.preparedThreads world.round link.scheduler) link.latestDfSweepEpoch
    link.heldPlan
  triggers := link.plannerTriggers config world

def request : PlannerLink :=
  match link.phase with
  | .requesting world =>
      let sent :=
        if link.sendsRequest config world then link.trySend (link.plannerRequest config world)
        else link
      { sent with
        phase := .collecting world
        planCsAttribution :=
          if config.scheduler.cfg.signatureSnapshots then
            { link.planCsAttribution with
              pending := world.attributed link.planCsAttribution.pending }
          else link.planCsAttribution }
  | _ => link

/-- The arming reads no target CPU. -/
def planToArm : Option PlacementPlan :=
  if config.scheduler.cfg.signatureSnapshots then
    link.activePlan.filter fun plan => planIsCurrent plan link.latestDfSweepEpoch
  else none

def armed (world : IterationWorld) (plan : PlacementPlan) : PlanCsAttributionState :=
  armPlanCsAttribution link.planCsAttribution plan
    (config.scheduler.preparedThreads world.round link.scheduler) world.dfCsStates world.armNowNs
    config.scheduler.cfg

def dispatchWorld (world : IterationWorld) : RoundWorld :=
  { world.round with
    activePlan := link.heldPlan
    latestDfSweepEpoch := link.latestDfSweepEpoch }

def dispatch : PlannerLink :=
  match link.phase with
  | .dispatching world =>
      let input := config.scheduler.roundInput (link.dispatchWorld world) link.scheduler
      { link with
        planCsAttribution := ((link.planToArm config).map (link.armed config world)).getD
          link.planCsAttribution
        scheduler := config.scheduler.schedulerRound (link.dispatchWorld world) link.scheduler
        burstTargets :=
          link.burstTargets ++ [(link.latestDfSweepEpoch, input.burstTargets.targetCpus)]
        phase := .sampling }
  | _ => link

/-! ## The worker -/

def recvFirst : PlannerLink :=
  match link.batch, link.requestSlot with
  | none, some first => { link with batch := some first, requestSlot := none }
  | _, _ => link

/-- A request that arrives within the debounce time replaces the snapshot and
adds its triggers. -/
def recvNext : PlannerLink :=
  match link.batch, link.requestSlot with
  | some batch, some next =>
      { link with
        batch := some { snapshot := next.snapshot, triggers := batch.triggers ++ next.triggers }
        requestSlot := none }
  | _, _ => link

def computed (batch : PlannerRequest) : PlannerRun :=
  computePlanWithDebug config.features config.planner batch.snapshot batch.triggers link.moveTrace
    link.planDebug

def compute : PlannerLink :=
  match link.batch with
  | some batch =>
      let run := link.computed config batch
      { link with
        batch := none
        results := link.results ++ [run.output]
        moveTrace := run.moveTrace
        planDebug := run.planDebug }
  | none => link

end PlannerLink

/-! ## Runs -/

namespace LinkConfig

variable (config : LinkConfig)

def step (action : LinkAction) (link : PlannerLink) : PlannerLink :=
  match action with
  | .sample world => link.sample world
  | .tryRecv => link.tryRecv
  | .request => link.request config
  | .dispatch => link.dispatch config
  | .recvFirst => link.recvFirst
  | .recvNext => link.recvNext
  | .compute => link.compute config

def start : PlannerLink := { moveTrace := config.moveTrace, planDebug := config.planDebug }

def linkRun (actions : Nat → LinkAction) : Nat → PlannerLink :=
  iterate config.step actions config.start

/-! ## What a step does -/

def offered : LinkAction → PlannerLink → List PlannerRequest
  | .request, link =>
      match link.phase with
      | .requesting world =>
          if link.sendsRequest config world then [link.plannerRequest config world] else []
      | _ => []
  | _, _ => []

/-- The triggers raised by an iteration that knows a completed sweep. -/
def raised : LinkAction → PlannerLink → List PlannerTrigger
  | .request, link =>
      match link.phase with
      | .requesting world =>
          if 0 < link.latestDfSweepEpoch then link.plannerTriggers config world else []
      | _ => []
  | _, _ => []

/-- The arguments of the `compute_plan_with_debug` call of a step. -/
def called : LinkAction → PlannerLink → List PlannerRequest
  | .compute, link => link.batch.toList
  | _, _ => []

def produced : LinkAction → PlannerLink → List PlacementPlan
  | .compute, link => link.batch.toList.map fun batch => (link.computed config batch).output.plan
  | _, _ => []

def adopted : LinkAction → PlannerLink → List PlacementPlan
  | .tryRecv, link =>
      match link.phase with
      | .receiving _ | .collecting _ => (link.results.head?.map (·.plan)).toList
      | _ => []
  | _, _ => []

def arms : LinkAction → PlannerLink → List PlacementPlan
  | .dispatch, link =>
      match link.phase with
      | .dispatching world =>
          (link.planToArm config).toList.filter fun plan =>
            (planCsArming link.planCsAttribution plan
              (config.scheduler.preparedThreads world.round link.scheduler) world.dfCsStates
              world.armNowNs config.scheduler.cfg).isSome
      | _ => []
  | _, _ => []

section Events

variable (actions : Nat → LinkAction)

def raisedTriggers : Nat → List PlannerTrigger :=
  history config.raised config.step actions config.start

def plannerCalls : Nat → List PlannerRequest := history called config.step actions config.start

def producedPlans : Nat → List PlacementPlan :=
  history config.produced config.step actions config.start

def adoptedPlans : Nat → List PlacementPlan := history adopted config.step actions config.start

def armedPlans : Nat → List PlacementPlan :=
  history config.arms config.step actions config.start

end Events

end LinkConfig

end CSwitch.Dispatch
