import CSwitch.Planner.Optimizer
import CSwitch.Planner.StateProperties
import CSwitch.Planner.TargetCpus

/-! `compute_plan_with_debug`: mode, state, seed, search, entries, CPUs. The two
trace loggers are modelled by what they do to the planner state and by whether
their writes succeed. -/

set_option autoImplicit false

namespace CSwitch.Planner

open Std (TreeMap TreeSet)

/-! ## Traces -/

def TraceLogger.writeLines : Nat → TraceLogger → TraceLogger
  | 0, logger => logger
  | lines + 1, logger =>
      match logger.writeLine with
      | (true, logger) => writeLines lines logger
      | (false, logger) => logger

def tryCandidate (snapshot : PlannerInput) (itemIndex : Nat) (state : PlannerState)
    (assignment : Assignment) : PlannerState :=
  if candidateAllowed itemIndex assignment snapshot state then state.assign itemIndex assignment
  else state

/-- One item of `emit_move_trace`: its alternatives are tried in place and the
assignment is put back. None when the item has not moved. -/
def traceItem (snapshot : PlannerInput) (state : PlannerState) (itemIndex : Nat) :
    Option PlannerState :=
  match state.items[itemIndex]?, state.assignments[itemIndex]? with
  | some item, some (.domain targetDomain) =>
      if item.memberTids.all fun tid =>
          state.members[tid]?.bind (·.currentDomain) == some targetDomain then none
      else
        let originalAssignment := Assignment.domain targetDomain
        let restored := (tryCandidate snapshot itemIndex state .currentHome).assign itemIndex
          originalAssignment
        let tried := (item.allowedDomains.toList.map Assignment.domain).foldl
          (tryCandidate snapshot itemIndex) restored
        some (tried.assign itemIndex originalAssignment)
  | _, _ => none

/-- The items of `emit_move_trace` from one index list; a failed write returns. -/
def traceItems (snapshot : PlannerInput) : List Nat → PlannerState → TraceLogger →
    PlannerState × TraceLogger
  | [], state, logger => (state, logger)
  | itemIndex :: rest, state, logger =>
      match traceItem snapshot state itemIndex with
      | none => traceItems snapshot rest state logger
      | some state =>
          match logger.writeLine with
          | (true, logger) => traceItems snapshot rest state logger
          | (false, logger) => (state, logger)

def emitMoveTrace (logger : TraceLogger) (snapshot : PlannerInput) (state : PlannerState) :
    PlannerState × TraceLogger :=
  if !logger.enabled then (state, logger)
  else traceItems snapshot (List.range state.items.length) state logger

/-- One line per domain, then one per entry of a known member. -/
def emitPlanDebug (logger : TraceLogger) (state : PlannerState) (entries : EntryMap) : TraceLogger :=
  if !logger.enabled then logger
  else
    let known := entries.toList.filter fun entry => state.members.contains entry.1
    logger.writeLines (state.domains.length + known.length)

/-! ## Entries -/

/-- The target of one member: its item's assignment, else the previous plan in
incremental mode, else its home. -/
def entryTarget (snapshot : PlannerInput) (state : PlannerState) (mode : PlanMode) (tid : Nat)
    (member : MemberView) : Option Nat :=
  let previousDomain :=
    if mode.isGlobal then none
    else previousPlanDomainForMember tid member.currentDomain member.allowedDomains snapshot
  ((effectiveMemberDomain tid state).or previousDomain).or member.currentDomain

def planEntry (snapshot : PlannerInput) (state : PlannerState) (mode : PlanMode)
    (nextRevision tid : Nat) (member : MemberView) : Option PlacementPlanEntry :=
  (entryTarget snapshot state mode tid member).map fun targetDomain =>
    let item := state.itemIndexByTid[tid]?.bind (state.items[·]?)
    let syncGroupId := item.bind (·.syncGroupId)
    { targetDomain
      targetCpu := none
      builtFromSweepEpoch := snapshot.latestDfSweepEpoch
      planRevision := nextRevision
      plannedAtNs := snapshot.nowNs
      syncGroupId
      syncAnchorDomain := (syncGroupId.map fun _ => targetDomain).or
        (if member.syncQualified then some targetDomain else none)
      syncOverride := member.syncOverride }

def planEntries (snapshot : PlannerInput) (state : PlannerState) (mode : PlanMode)
    (nextRevision : Nat) : EntryMap :=
  state.members.filterMap (planEntry snapshot state mode nextRevision)

/-! ## The whole computation -/

def modeAndState (features : BuildFeatures) (config : PlannerConfig) (snapshot : PlannerInput)
    (triggers : List PlannerTrigger) : PlanMode × PlannerState :=
  let mode := resolvePlanMode snapshot triggers
  let state := buildState features config snapshot mode
  if needsGlobalRebuild state config mode then
    (.global, buildState features config snapshot .global)
  else (mode, state)

def plannedState (features : BuildFeatures) (config : PlannerConfig) (snapshot : PlannerInput)
    (triggers : List PlannerTrigger) : PlannerState :=
  let (mode, state) := modeAndState features config snapshot triggers
  let seeded :=
    if features.schedulerPaperGreedy then applyPaperGreedySeed snapshot state mode.isGlobal
    else state
  optimizeState features snapshot config seeded mode.isGlobal

def previousRevision (snapshot : PlannerInput) : Nat :=
  (snapshot.previousPlan.map (·.planRevision)).getD 0

structure PlannerRun where
  output : PlannerOutput
  moveTrace : TraceLogger
  planDebug : TraceLogger

def computePlanWithDebug (features : BuildFeatures) (config : PlannerConfig)
    (snapshot : PlannerInput) (triggers : List PlannerTrigger) (moveTrace planDebug : TraceLogger) :
    PlannerRun :=
  let mode := (modeAndState features config snapshot triggers).1
  let nextRevision := satAdd64 (previousRevision snapshot) 1
  let (state, moveTrace) :=
    emitMoveTrace moveTrace snapshot (plannedState features config snapshot triggers)
  let entries := assignPlanTargetCpus snapshot (planEntries snapshot state mode nextRevision)
  { output :=
      { plan :=
          { builtFromSweepEpoch := snapshot.latestDfSweepEpoch
            planRevision := nextRevision
            plannedAtNs := snapshot.nowNs
            entries }
        wasGlobal := mode.isGlobal }
    moveTrace
    planDebug := emitPlanDebug planDebug state entries }

/-! ## Traces leave the state alone -/

theorem tryCandidate_assign (snapshot : PlannerInput) (itemIndex : Nat) (state : PlannerState)
    (tried original : Assignment) :
    (tryCandidate snapshot itemIndex state tried).assign itemIndex original =
      state.assign itemIndex original := by
  unfold tryCandidate
  split
  · exact state.assign_assign itemIndex tried original
  · rfl

theorem traceItem_eq {snapshot : PlannerInput} {state traced : PlannerState} {itemIndex : Nat}
    (found : traceItem snapshot state itemIndex = some traced) : traced = state := by
  unfold traceItem at found
  split at found
  next item targetDomain _ assigned =>
    split at found
    · simp at found
    · obtain rfl := Option.some.inj found
      refine List.foldlRecOn _ _ (motive := fun (tried : PlannerState) =>
        tried.assign itemIndex (.domain targetDomain) = state) ?_ ?_
      · rw [PlannerState.assign_assign, tryCandidate_assign]
        exact PlannerState.assign_of_getElem? assigned
      · intro tried restores assignment _
        rw [tryCandidate_assign, restores]
  · simp at found

theorem traceItems_state (snapshot : PlannerInput) (indices : List Nat) (state : PlannerState)
    (logger : TraceLogger) : (traceItems snapshot indices state logger).1 = state := by
  induction indices generalizing logger with
  | nil => rfl
  | cons itemIndex rest ih =>
      unfold traceItems
      split
      · exact ih logger
      next traced found =>
        obtain rfl := traceItem_eq found
        split
        · exact ih _
        · rfl

theorem emitMoveTrace_state (logger : TraceLogger) (snapshot : PlannerInput) (state : PlannerState) :
    (emitMoveTrace logger snapshot state).1 = state := by
  unfold emitMoveTrace
  split
  · rfl
  · exact traceItems_state snapshot _ state logger

/-- Tracing is neutral: whatever the loggers do, the plan is the one of disabled
loggers, and the state that is traced is handed back as it was. -/
theorem computePlanWithDebug_traceNeutral (features : BuildFeatures) (config : PlannerConfig)
    (snapshot : PlannerInput) (triggers : List PlannerTrigger) (moveTrace planDebug : TraceLogger) :
    (computePlanWithDebug features config snapshot triggers moveTrace planDebug).output =
        (computePlanWithDebug features config snapshot triggers {} {}).output ∧
      ∀ state, (emitMoveTrace moveTrace snapshot state).1 = state := by
  constructor
  · unfold computePlanWithDebug
    dsimp only
    rw [emitMoveTrace_state, emitMoveTrace_state]
  · intro state
    exact emitMoveTrace_state moveTrace snapshot state

end CSwitch.Planner
