import CSwitch.Types

/-! CPU choice inside one domain. Every helper reads the same four views: the
topology, the kernel's CPU states, the utilisations and the jobs already
planned on each CPU in this burst. -/

set_option autoImplicit false

namespace CSwitch.Policy

open Std (TreeSet)

/-- `cpu_states.get(cpu as usize).copied().unwrap_or_default()`. -/
def cpuStateAt (cpuStates : List CpuStateValue) (cpu : Nat) : CpuStateValue :=
  cpuStates[cpu]?.getD {}

def cpuUtilAt (cpuUtilsX100 : List Nat) (cpu : Nat) : Nat := cpuUtilsX100[cpu]?.getD 0

def plannedJobsLen (plannedCpuStates : List PlannedCpuState) (cpu : Nat) : Nat :=
  (plannedCpuStates[cpu]?.map (·.jobs.length)).getD 0

def effectivelyIdleCpu (cpu : Nat) (cpuStates : List CpuStateValue) (cpuUtilsX100 : List Nat)
    (cpuHighUtilX100 : Nat) : Bool :=
  let state := cpuStateAt cpuStates cpu
  state.idle != 0 && state.cpuDsqDepth == 0 && decide (cpuUtilAt cpuUtilsX100 cpu < cpuHighUtilX100)

def plannedCpuAvailableForTask (plannedCpuStates : List PlannedCpuState) (cpu taskTid : Nat)
    (allowedCpus : TreeSet Nat) (cpuStates : List CpuStateValue) (cpuUtilsX100 : List Nat)
    (cpuHighUtilX100 : Nat) : Bool :=
  match plannedCpuStates[cpu]? with
  | none => true
  | some state =>
      if state.jobs.isEmpty || state.jobs.all (· == taskTid) then true
      else if allowedCpus.toList.any fun candidate =>
          candidate != cpu && effectivelyIdleCpu candidate cpuStates cpuUtilsX100 cpuHighUtilX100
        then false
      else decide (state.jobs.length > 1)

/-- Reuse of the current CPU treats several foreign jobs as aggregate load,
not as an exclusive reservation. -/
def currentCpuAvailableForTask (plannedCpuStates : List PlannedCpuState) (cpu taskTid : Nat)
    (allowedCpus : TreeSet Nat) (cpuStates : List CpuStateValue) (cpuUtilsX100 : List Nat)
    (cpuHighUtilX100 : Nat) : Bool :=
  match plannedCpuStates[cpu]? with
  | none => true
  | some state =>
      if state.jobs.length > 1 ∧ state.jobs.all (· != taskTid) then true
      else plannedCpuAvailableForTask plannedCpuStates cpu taskTid allowedCpus cpuStates
        cpuUtilsX100 cpuHighUtilX100

/-- `topo.domains.get(domain_id)?.cpus` restricted to a CPU set. -/
def domainCpusIn (topo : TopologyLayout) (domainId : Nat) (allowedCpus : TreeSet Nat) : List Nat :=
  ((topo.domains[domainId]?.map (·.cpus)).getD []).filter fun cpu => allowedCpus.contains cpu

def chooseCpuInDomain (domainId : Nat) (topo : TopologyLayout) (cpuStates : List CpuStateValue)
    (cpuUtilsX100 : List Nat) (plannedCpuStates : List PlannedCpuState)
    (allowedCpus : TreeSet Nat) (cpuHighUtilX100 taskTid : Nat) : Option Nat :=
  (domainCpusIn topo domainId allowedCpus).argmin fun cpu =>
    let state := cpuStateAt cpuStates cpu
    let util := cpuUtilAt cpuUtilsX100 cpu
    let effectivelyIdle := state.idle != 0 && state.cpuDsqDepth == 0 && decide (util < cpuHighUtilX100)
    let occupiedByOther := state.currentTid != 0 && state.currentTid != taskTid
    toLex (!effectivelyIdle, toLex (occupiedByOther, toLex (plannedJobsLen plannedCpuStates cpu,
      toLex (util, toLex (state.cpuDsqDepth, cpu)))))

def preferredCpuInDomain (preferredCpu : Int) (domainId : Nat) (topo : TopologyLayout)
    (cpuStates : List CpuStateValue) (cpuUtilsX100 : List Nat) (allowedCpus : TreeSet Nat)
    (cpuHighUtilX100 taskTid : Nat) : Option Nat := do
  let cpu ← tryU32 preferredCpu
  if !allowedCpus.contains cpu then none
  else if topo.domainOfCpu cpu ≠ some domainId then none
  else if cpuUtilAt cpuUtilsX100 cpu ≥ cpuHighUtilX100 then none
  else
    let state := cpuStateAt cpuStates cpu
    if state.currentTid ≠ 0 ∧ state.currentTid ≠ taskTid then none else some cpu

def currentCpuInDomain (currentCpu : Int) (domainId : Nat) (topo : TopologyLayout)
    (allowedCpus : TreeSet Nat) : Option Nat := do
  let cpu ← tryU32 currentCpu
  if !allowedCpus.contains cpu then none
  else if topo.domainOfCpu cpu ≠ some domainId then none
  else some cpu

def currentIdleCpuInDomain (currentCpu : Int) (domainId : Nat) (topo : TopologyLayout)
    (cpuStates : List CpuStateValue) (cpuUtilsX100 : List Nat) (allowedCpus : TreeSet Nat)
    (cpuHighUtilX100 : Nat) : Option Nat := do
  let cpu ← currentCpuInDomain currentCpu domainId topo allowedCpus
  if effectivelyIdleCpu cpu cpuStates cpuUtilsX100 cpuHighUtilX100 then some cpu else none

def currentAcceptableCpuInDomain (currentCpu : Int) (domainId : Nat) (topo : TopologyLayout)
    (cpuStates : List CpuStateValue) (allowedCpus : TreeSet Nat) (taskTid : Nat) : Option Nat := do
  let cpu ← currentCpuInDomain currentCpu domainId topo allowedCpus
  let state := cpuStateAt cpuStates cpu
  if state.currentTid ≠ 0 ∧ state.currentTid ≠ taskTid then none else some cpu

def chooseIdleCpuInDomain (domainId : Nat) (topo : TopologyLayout) (cpuStates : List CpuStateValue)
    (cpuUtilsX100 : List Nat) (plannedCpuStates : List PlannedCpuState)
    (allowedCpus : TreeSet Nat) (cpuHighUtilX100 : Nat) : Option Nat :=
  ((domainCpusIn topo domainId allowedCpus).filter fun cpu =>
      effectivelyIdleCpu cpu cpuStates cpuUtilsX100 cpuHighUtilX100).argmin fun cpu =>
    toLex (plannedJobsLen plannedCpuStates cpu, toLex (cpuUtilAt cpuUtilsX100 cpu,
      toLex ((cpuStateAt cpuStates cpu).cpuDsqDepth, cpu)))

def shouldRebalanceToIdleSibling (currentCpu : Option Nat) (taskTid : Nat)
    (cpuStates : List CpuStateValue) (candidateCpu : Nat) : Bool :=
  match currentCpu with
  | none => false
  | some currentCpu =>
      if currentCpu = candidateCpu then false
      else
        let state := cpuStateAt cpuStates currentCpu
        state.currentTid != 0 && state.currentTid != taskTid

/-- A domain with an allowed CPU always yields one: the choice never fails on
load, only on an empty intersection. -/
theorem chooseCpuInDomain_isSome {domainId : Nat} {topo : TopologyLayout}
    {allowedCpus : TreeSet Nat} {info : DomainInfo} {cpu : Nat}
    (found : topo.domains[domainId]? = some info) (listed : cpu ∈ info.cpus)
    (allowed : cpu ∈ allowedCpus) (cpuStates : List CpuStateValue) (cpuUtilsX100 : List Nat)
    (plannedCpuStates : List PlannedCpuState) (cpuHighUtilX100 taskTid : Nat) :
    (chooseCpuInDomain domainId topo cpuStates cpuUtilsX100 plannedCpuStates allowedCpus
      cpuHighUtilX100 taskTid).isSome := by
  rw [Option.isSome_iff_ne_none]
  intro missing
  have empty : domainCpusIn topo domainId allowedCpus = [] := List.argmin_eq_none.mp missing
  have member : cpu ∈ domainCpusIn topo domainId allowedCpus := by
    simp only [domainCpusIn, found, Option.map_some, Option.getD_some, List.mem_filter]
    exact ⟨listed, TreeSet.contains_iff_mem.mpr allowed⟩
  simp [empty] at member

end CSwitch.Policy
