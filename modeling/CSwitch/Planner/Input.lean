import CSwitch.Types

/-! The planner's messages and configuration: what the main loop sends to the
worker and the plan it gets back. -/

set_option autoImplicit false

namespace CSwitch.Planner

open Std (TreeMap TreeSet)

inductive PlannerTrigger where
  | sweepComplete (epoch : Nat)
  | runnableDelta (tid : Nat)
  | signatureChange (tid : Nat)
  | domainStateFlip (domain : Nat)
  | tickPressure (domain : Nat)
  deriving DecidableEq

structure PlacementPlanEntry where
  targetDomain : Nat := 0
  targetCpu : Option Nat := none
  builtFromSweepEpoch : Nat := 0
  planRevision : Nat := 0
  plannedAtNs : Nat := 0
  syncGroupId : Option Nat := none
  syncAnchorDomain : Option Nat := none
  syncOverride : Bool := false
  deriving DecidableEq

structure PlacementPlan where
  builtFromSweepEpoch : Nat := 0
  planRevision : Nat := 0
  plannedAtNs : Nat := 0
  entries : TreeMap Nat PlacementPlanEntry := ∅

structure PlannerInput where
  topo : TopologyLayout
  mapping : MappingInfo
  policy : PolicyConfig
  nowNs : Nat
  latestDfSweepEpoch : Nat
  pendingTids : TreeSet Nat
  threads : ThreadMap
  allowedCpus : CpuSetMap
  allowedDomains : CpuSetMap
  llcStates : List (Option LlcStateValue)
  dfStates : List (Option CcmDfStateValue)
  previousPlan : Option PlacementPlan

structure PlannerRequest where
  snapshot : PlannerInput
  triggers : List PlannerTrigger

structure PlannerOutput where
  plan : PlacementPlan
  wasGlobal : Bool

/-- A trace logger: whether it writes at all, and whether its next lines can be
written. The text of a line is read by nothing and left out. -/
structure TraceLogger where
  enabled : Bool := false
  writes : List Bool := []

structure PlannerConfig where
  disableAutoSyncHints : Bool
  syncTgidOverrides : TreeSet Nat
  incrementalItemLimit : Nat
  incrementalDomainLimit : Nat
  maxPasses : Nat
  swapPassItems : Nat

/-- Cargo features that select code in the planner. -/
structure BuildFeatures where
  schedulerPaperGreedy : Bool

/-- `logger.write_line(&line)?`: false when the write fails. -/
def TraceLogger.writeLine (logger : TraceLogger) : Bool × TraceLogger :=
  match logger.writes with
  | [] => (true, logger)
  | ok :: rest => (ok, { logger with writes := rest })

def threadHome (thread : ManagedThreadState) : Option Nat :=
  thread.lastSelectedDomain.or thread.lastObservedDomain

def PlannerInput.home (snapshot : PlannerInput) (tid : Nat) : Option Nat :=
  snapshot.threads[tid]?.bind threadHome

def PlannerInput.allowedDomainsOf (snapshot : PlannerInput) (tid : Nat) : TreeSet Nat :=
  snapshot.allowedDomains[tid]?.getD ∅

def PlannerInput.allowedCpusOf (snapshot : PlannerInput) (tid : Nat) : TreeSet Nat :=
  snapshot.allowedCpus[tid]?.getD ∅

/-- The age limit of an active thread. The product is unchecked in the source
and wraps in a release build. -/
def PlannerInput.activeCutoffNs (snapshot : PlannerInput) : Nat :=
  snapshot.nowNs - wrapMul64 (max snapshot.policy.dfStaleMs snapshot.policy.llcStaleMs) 1000000

def roundMigrationBudget (taskCount : Nat) : Nat :=
  max 1 (min (divCeil (satAdd32 taskCount 3) 4) 4)

end CSwitch.Planner
