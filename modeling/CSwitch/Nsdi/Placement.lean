import CSwitch.Policy.Pipeline

/-! Placement of the NSDI scheduler: a task runs on a CPU that its application
owns and its affinity allows, preferring where it is, then an idle CPU, then the
least loaded one. -/

set_option autoImplicit false

namespace CSwitch.Nsdi

open Std (TreeSet)
open Policy

/-- `value as i32` for a `u32`. -/
def asI32 (value : Nat) : Int :=
  if value % 4294967296 < 2147483648 then (value % 4294967296 : Nat)
  else (value % 4294967296 : Nat) - 4294967296

def domainForCpu (topo : TopologyLayout) (cpu : Nat) (fallback : Int) : Int :=
  ((topo.domainOfCpu cpu).map asI32).getD fallback

structure OwnedView where
  cpuStates : List CpuStateValue
  cpuUtilsX100 : List Nat
  plannedCpuStates : List PlannedCpuState
  cfg : PolicyConfig

namespace OwnedView

variable (view : OwnedView)

def idle (cpu : Nat) : Bool :=
  effectivelyIdleCpu cpu view.cpuStates view.cpuUtilsX100 view.cfg.cpuHighUtilX100

def currentCpuUsable (task : QueuedTask) (legalCpus : TreeSet Nat) : Option Nat := do
  let cpu ← tryU32 task.currentCpu
  if !legalCpus.contains cpu then none
  else if cpuUtilAt view.cpuUtilsX100 cpu ≥ view.cfg.cpuHighUtilX100 then none
  else if !currentCpuAvailableForTask view.plannedCpuStates cpu task.key legalCpus view.cpuStates
      view.cpuUtilsX100 view.cfg.cpuHighUtilX100 then none
  else
    let state := cpuStateAt view.cpuStates cpu
    if state.currentTid = task.key then some cpu
    else if state.currentTid ≠ 0 then none
    else if view.idle cpu then some cpu else none

def chooseIdleOwnedCpu (legalCpus : TreeSet Nat) : Option Nat :=
  (legalCpus.toList.filter view.idle).argmin fun cpu =>
    toLex (plannedJobsLen view.plannedCpuStates cpu, toLex (cpuUtilAt view.cpuUtilsX100 cpu,
      toLex ((cpuStateAt view.cpuStates cpu).cpuDsqDepth, cpu)))

def chooseSpreadCpu (legalCpus : TreeSet Nat) (taskTid : Nat) : Option Nat :=
  legalCpus.toList.argmin fun cpu =>
    let state := cpuStateAt view.cpuStates cpu
    let occupiedByOther := state.currentTid != 0 && state.currentTid != taskTid
    toLex (occupiedByOther, toLex (plannedJobsLen view.plannedCpuStates cpu,
      toLex (cpuUtilAt view.cpuUtilsX100 cpu, toLex (state.cpuDsqDepth, cpu))))

end OwnedView

/-- Answers `none` only when the application owns none of the allowed CPUs. -/
def choosePlacementWithOwnedCpus (task : QueuedTask) (thread : Option ManagedThreadState)
    (topo : TopologyLayout) (llcStates : List (Option LlcStateValue)) (view : OwnedView)
    (allowedCpus ownedCpus : TreeSet Nat) (nowNs : Nat) : Option PlacementDecision :=
  let legalCpus := allowedCpus.filter fun cpu => ownedCpus.contains cpu
  if legalCpus.isEmpty then none
  else do
    let currentLlc := (taskCurrentDomain task).bind (getFlat llcStates)
    let selectedCpu ← (view.currentCpuUsable task legalCpus).or <|
      (view.chooseIdleOwnedCpu legalCpus).or (view.chooseSpreadCpu legalCpus task.key)
    let selectedDomain := tryU32 (domainForCpu topo selectedCpu (max task.currentDomain 0))
    let trigger := QueueTrigger.fromU32 task.trigger
    let moved := some selectedCpu != taskCurrentCpu task || selectedDomain != taskCurrentDomain task
    some (placementDecision (classifyTask task currentLlc nowNs view.cfg) selectedDomain
      (some selectedCpu) (if moved then .idleSpread else .stayCurrentDomain) trigger
      (tickDecisionFor trigger moved) ((thread.map (·.signature.valid)).getD false) 0 defaultSliceNs
      ⟨0, 0, 0, 0⟩ { currentDfX100 := 0, currentLlcX100 := 0 } {} thread)

end CSwitch.Nsdi
