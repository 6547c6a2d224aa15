import CSwitch.Dispatch.PlannedDecision

/-! The reservation ledger of one dispatch burst. Two maps record the domain and
CPU given to each tid; two vectors hold the per-domain and per-CPU aggregates
that later decisions of the burst read. -/

set_option autoImplicit false

namespace CSwitch.Dispatch

open Std (TreeMap TreeSet)
open Policy Planner

structure DispatchBatchReservations where
  domainByTid : TreeMap Nat Nat
  cpuByTid : TreeMap Nat Nat
  domainStates : List PlannedDomainState
  cpuStates : List PlannedCpuState

/-! ## Initial maps -/

def recordCurrentDomain (planned : TreeMap Nat Nat) (task : QueuedTask) : TreeMap Nat Nat :=
  match taskCurrentDomain task with
  | none => planned
  | some domain => planned.insert task.key domain

def buildPlannedThreadDomains (threads : ThreadMap) (pending : List QueuedTask) :
    TreeMap Nat Nat :=
  pending.foldl recordCurrentDomain (threads.filterMap fun _ thread => threadDomain thread)

/-- Unlike domains, a CPU recorded for a known thread is kept. -/
def buildPlannedThreadCpus (threads : ThreadMap) (pending : List QueuedTask) : TreeMap Nat Nat :=
  let known := threads.filterMap fun _ thread => threadCpu thread
  pending.foldl (fun planned task =>
    if planned.contains task.key then planned
    else
      match taskCurrentCpu task with
      | none => planned
      | some cpu => planned.insert task.key cpu) known

def overlay (planned targets : TreeMap Nat Nat) : TreeMap Nat Nat := planned ∪ targets

/-! ## Aggregates -/

def threadSignatureCcmBw (thread : ManagedThreadState) : Nat :=
  if !thread.signature.valid then 0 else signatureDf thread.signature

def threadSignatureLlcPressure (thread : ManagedThreadState) : Nat :=
  if thread.signature.valid then thread.signature.projectedLlcPressureX100 else 0

def countThread (thread : ManagedThreadState) (state : PlannedDomainState) : PlannedDomainState :=
  let state := { state with taskCount := satAdd32 state.taskCount 1 }
  if !thread.signature.valid then state
  else
    { state with
      dfPressureX100 := satAdd32 state.dfPressureX100 (threadSignatureCcmBw thread)
      llcPressureX100 := satAdd32 state.llcPressureX100 (threadSignatureLlcPressure thread)
      fillBwMibSX100 := state.fillBwMibSX100.zipWith satAdd32 thread.signature.fillBwMibSX100
      contributorCount := satAdd32 state.contributorCount 1
      stableCount :=
        if thread.signature.stable then satAdd32 state.stableCount 1 else state.stableCount }

def countUnknownTask (state : PlannedDomainState) : PlannedDomainState :=
  { state with taskCount := satAdd32 state.taskCount 1 }

/-- Updates the state of an optional, possibly out-of-range domain. -/
def updateDomain (states : List PlannedDomainState) (domain : Option Nat)
    (update : PlannedDomainState → PlannedDomainState) : List PlannedDomainState :=
  match domain with
  | none => states
  | some domain => states.modify domain update

def buildPlannedDomainStates (topo : TopologyLayout) (threads : ThreadMap)
    (pending : List QueuedTask) (plannedDomains : TreeMap Nat Nat) : List PlannedDomainState :=
  let empty := List.replicate topo.domains.length {}
  let known := threads.toList.foldl (fun states entry =>
    updateDomain states (plannedDomains[entry.1]?.or (threadDomain entry.2)) (countThread entry.2))
    empty
  let all := (pending.filter fun task => !threads.contains task.key).foldl (fun states task =>
    updateDomain states (taskCurrentDomain task) countUnknownTask) known
  all.map fun state => { state with migrationBudget := roundMigrationBudget (max state.taskCount 1) }

def buildPlannedCpuStates (nrCpuIds : Nat) (plannedCpus : TreeMap Nat Nat) : List PlannedCpuState :=
  plannedCpus.toList.foldl (fun states entry =>
    states.modify entry.2 fun state => { state with jobs := state.jobs ++ [entry.1] })
    (List.replicate nrCpuIds {})

def DispatchBatchReservations.fromSnapshot (topo : TopologyLayout) (threads : ThreadMap)
    (pending : List QueuedTask) (initialDomainTargets initialCpuTargets : TreeMap Nat Nat) :
    DispatchBatchReservations :=
  let domainByTid := overlay (buildPlannedThreadDomains threads pending) initialDomainTargets
  let cpuByTid := overlay (buildPlannedThreadCpus threads pending) initialCpuTargets
  { domainByTid
    cpuByTid
    domainStates := buildPlannedDomainStates topo threads pending domainByTid
    cpuStates := buildPlannedCpuStates topo.nrCpuIds cpuByTid }

/-! ## Commits -/

def leaveDomain (effect : TaskSignatureEffect) (stable : Bool) (state : PlannedDomainState) :
    PlannedDomainState :=
  let state := { state with
    taskCount := state.taskCount - 1
    outgoingMigrations := satAdd32 state.outgoingMigrations 1 }
  if !effect.signatureValid then state
  else
    { state with
      dfPressureX100 := state.dfPressureX100 - effect.dfX100
      llcPressureX100 := state.llcPressureX100 - effect.llcX100
      contributorCount := state.contributorCount - 1
      stableCount := if stable then state.stableCount - 1 else state.stableCount }

def enterDomain (effect : TaskSignatureEffect) (stable : Bool) (state : PlannedDomainState) :
    PlannedDomainState :=
  let state := { state with
    taskCount := satAdd32 state.taskCount 1
    incomingMigrations := satAdd32 state.incomingMigrations 1 }
  if !effect.signatureValid then state
  else
    { state with
      dfPressureX100 := satAdd32 state.dfPressureX100 effect.dfX100
      llcPressureX100 := satAdd32 state.llcPressureX100 effect.llcX100
      contributorCount := satAdd32 state.contributorCount 1
      stableCount := if stable then satAdd32 state.stableCount 1 else state.stableCount }

/-- The source a migration is taken from: the task's own domain, and only when
that is unknown the domain the ledger holds for the tid. -/
def migrationSource (plannedDomains : TreeMap Nat Nat) (task : QueuedTask) : Option Nat :=
  (taskCurrentDomain task).or plannedDomains[task.key]?

def migrateStates (states : List PlannedDomainState) (sourceDomain : Option Nat) (task : QueuedTask)
    (thread : Option ManagedThreadState) (mapping : MappingInfo) (targetDomain : Nat) :
    List PlannedDomainState :=
  let stable := (thread.map (·.signature.stable)).getD false
  let effectIn (domain : Nat) := taskSignatureEffect task thread (mapping.dfCapacityMibSX100 domain)
  let left := match sourceDomain with
    | none => states
    | some source => states.modify source (leaveDomain (effectIn source) stable)
  left.modify targetDomain (enterDomain (effectIn targetDomain) stable)

def DispatchBatchReservations.commitDomainDecision (reservations : DispatchBatchReservations)
    (task : QueuedTask) (thread : Option ManagedThreadState) (mapping : MappingInfo)
    (selectedDomain : Nat) : DispatchBatchReservations :=
  let sourceDomain := migrationSource reservations.domainByTid task
  { reservations with
    domainByTid := reservations.domainByTid.insert task.key selectedDomain
    domainStates :=
      if sourceDomain = some selectedDomain then reservations.domainStates
      else migrateStates reservations.domainStates sourceDomain task thread mapping selectedDomain }

/-- `Vec::swap_remove`. -/
def swapRemove (values : List Nat) (index : Nat) : List Nat :=
  match values.getLast? with
  | none => values
  | some last => (values.set index last).dropLast

def removePlannedCpuJob (states : List PlannedCpuState) (cpu tid : Nat) : List PlannedCpuState :=
  states.modify cpu fun state =>
    match state.jobs.idxOf? tid with
    | none => state
    | some index => { state with jobs := swapRemove state.jobs index }

def addPlannedCpuJob (states : List PlannedCpuState) (cpu tid : Nat) : List PlannedCpuState :=
  states.modify cpu fun state =>
    if state.jobs.contains tid then state else { state with jobs := state.jobs ++ [tid] }

/-- Unlike a migration, a new CPU is taken off the planned CPU first and off the
task's own CPU only when none is planned. -/
def applyPlannedCpuAssignment (states : List PlannedCpuState) (plannedCpus : TreeMap Nat Nat)
    (task : QueuedTask) (targetCpu : Nat) : List PlannedCpuState × TreeMap Nat Nat :=
  let sourceCpu := (plannedCpus[task.key]?).or (taskCurrentCpu task)
  let removed := match sourceCpu with
    | none => states
    | some source => removePlannedCpuJob states source task.key
  (addPlannedCpuJob removed targetCpu task.key, plannedCpus.insert task.key targetCpu)

def DispatchBatchReservations.commitCpuDecision (reservations : DispatchBatchReservations)
    (task : QueuedTask) (selectedCpu : Nat) : DispatchBatchReservations :=
  let (cpuStates, cpuByTid) :=
    applyPlannedCpuAssignment reservations.cpuStates reservations.cpuByTid task selectedCpu
  { reservations with cpuByTid, cpuStates }

/-! ## Target CPUs of the burst -/

/-- A pending task to be given a CPU, with its sort key. -/
structure BurstCandidate where
  candidateCount : Nat
  allowedCount : Nat
  index : Nat
  task : QueuedTask
  targetDomain : Nat
  allowedCpus : TreeSet Nat

def BurstCandidate.le (left right : BurstCandidate) : Prop :=
  toLex (left.candidateCount, toLex (left.allowedCount, toLex (left.index, left.task.key))) ≤
    toLex (right.candidateCount, toLex (right.allowedCount, toLex (right.index, right.task.key)))

instance : DecidableRel BurstCandidate.le := fun _ _ => inferInstanceAs (Decidable (_ ≤ _))

/-- What the CPU pass of a burst reads besides the ledger. -/
structure BurstView where
  topo : TopologyLayout
  mapping : MappingInfo
  cpuStates : List CpuStateValue
  cpuUtilsX100 : List Nat
  allowedCpusByTid : CpuSetMap
  cfg : PolicyConfig

def burstCandidate (view : BurstView) (plannedDomains : TreeMap Nat Nat) (index : Nat)
    (task : QueuedTask) : Option BurstCandidate := do
  let allowedCpus ← view.allowedCpusByTid[task.key]?
  let targetDomain ← (plannedDomains[task.key]?).or (taskCurrentDomain task)
  let legalDomains := allowedDomainsFromCpus allowedCpus view.topo view.mapping
  if !legalDomains.contains targetDomain && taskCurrentDomain task != some targetDomain then none
  else
    let candidates := candidateCpusForTargetDomain allowedCpus targetDomain view.topo view.mapping
    if candidates.isEmpty then none
    else some ⟨candidates.size, allowedCpus.size, index, task, targetDomain, allowedCpus⟩

def firstByTid (pending : List QueuedTask) : List (Nat × QueuedTask) :=
  (pending.mapIdx fun index task => (index, task)).filter fun entry =>
    (pending.take entry.1).all fun earlier => earlier.key != entry.2.key

def burstCandidates (view : BurstView) (plannedDomains : TreeMap Nat Nat)
    (pending : List QueuedTask) : List BurstCandidate :=
  ((firstByTid pending).filterMap fun entry =>
    burstCandidate view plannedDomains entry.1 entry.2).insertionSort BurstCandidate.le

def burstTargetCpu (view : BurstView) (fixedCpuTargets : TreeMap Nat Nat)
    (reservations : DispatchBatchReservations) (candidate : BurstCandidate) : Option Nat :=
  let tid := candidate.task.key
  let cpuView : CpuView :=
    { topo := view.topo, mapping := view.mapping, cpuStates := view.cpuStates
      cpuUtilsX100 := view.cpuUtilsX100, plannedCpuStates := reservations.cpuStates
      allowedCpus := candidate.allowedCpus, cfg := view.cfg }
  let candidateCpus := candidateCpusForTargetDomain candidate.allowedCpus candidate.targetDomain
    view.topo view.mapping
  ((fixedCpuTargets[tid]?).filter candidateCpus.contains).or <|
    ((reservations.cpuByTid[tid]?).bind fun cpu =>
      preferredReservedCpuForSelectedDomain cpuView (some cpu) (some candidate.targetDomain) tid).or <|
    chooseCpuForPlannedDomain cpuView candidate.task candidate.targetDomain

structure BurstTargets where
  reservations : DispatchBatchReservations
  targetCpus : TreeMap Nat Nat := ∅

def reserveCandidate (view : BurstView) (fixedCpuTargets : TreeMap Nat Nat) (targets : BurstTargets)
    (candidate : BurstCandidate) : BurstTargets :=
  match burstTargetCpu view fixedCpuTargets targets.reservations candidate with
  | none => targets
  | some cpu =>
      { reservations := targets.reservations.commitCpuDecision candidate.task cpu
        targetCpus := targets.targetCpus.insert candidate.task.key cpu }

def DispatchBatchReservations.reserveBurstTargetCpus (reservations : DispatchBatchReservations)
    (pending : List QueuedTask) (view : BurstView) (fixedCpuTargets : TreeMap Nat Nat) :
    BurstTargets :=
  (burstCandidates view reservations.domainByTid pending).foldl
    (reserveCandidate view fixedCpuTargets) { reservations }

end CSwitch.Dispatch
