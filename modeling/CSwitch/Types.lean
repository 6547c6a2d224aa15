import CSwitch.Machine

/-! The scheduler's data model: the records of `types.rs` and the two task
messages of `bpf.rs`. Identifiers, bandwidths and times are natural numbers;
the `i32` fields a task carries from the kernel are integers. -/

set_option autoImplicit false

namespace CSwitch

open Std (TreeMap TreeSet)

def maxDomains : Nat := 16
def memSourceCount : Nat := 3
def memSourceNearCache : Fin memSourceCount := ⟨1, by decide⟩
def memSourceDramNear : Fin memSourceCount := ⟨2, by decide⟩
def defaultDfCapacityMibSX100 : Nat := 2000000
def defaultSliceUs : Nat := 4000
def signatureStableSamples : Nat := 2
def signatureConfidenceThresholdX100 : Nat := 4000
def villainResliceDivisor : Nat := 4
def villainResliceMinNs : Nat := 250000

theorem maxDomains_pos : 0 < maxDomains := by decide

def defaultSliceNs : Nat := defaultSliceUs * 1000

def villainResliceSliceNs : Nat :=
  let sliceNs := defaultSliceUs * 1000 / villainResliceDivisor
  if sliceNs < villainResliceMinNs then villainResliceMinNs else sliceNs

inductive ThreadClass where
  | cold
  | linkNeed
  | congested
  deriving DecidableEq

inductive HotCoolState where
  | cool
  | hot
  deriving DecidableEq

/-- The `repr(u32)` value that the sample records store. -/
def HotCoolState.code : HotCoolState → Nat
  | .cool => 0
  | .hot => 1

inductive QueueTrigger where
  | enqueue
  | tick
  | villainReslice
  | helper
  deriving DecidableEq

def QueueTrigger.fromU32 : Nat → QueueTrigger
  | 1 => .tick
  | 2 => .villainReslice
  | 3 => .helper
  | _ => .enqueue

/-- `matches!(trigger, QueueTrigger::Tick | QueueTrigger::VillainReslice)`. -/
def QueueTrigger.isTick : QueueTrigger → Bool
  | .tick | .villainReslice => true
  | .enqueue | .helper => false

inductive TickDecision where
  | none
  | stay
  | move
  | defer
  | reslice
  | fastpathBypass
  deriving DecidableEq

inductive DecisionReason where
  | idleSpread
  | stayCurrentDomain
  | moveCoolerDomain
  | excludedDomainEscape
  | noCandidate
  | marginNotMet
  | migrationBudget
  | movePhaseGate
  | reverseHysteresis
  | destinationGuard
  deriving DecidableEq

structure LlcStateValue where
  sampleTsNs : Nat := 0
  rawL3ToL3NsX100 : Nat := 0
  rawDramLatNsX100 : Nat := 0
  rawL3BwMibSX100 : Nat := 0
  rawMissRatioPpm : Nat := 0
  rawL3ReqPerS : Nat := 0
  rawL3MissPerS : Nat := 0
  rawPressurePctX100 : Nat := 0
  ewmaPressurePctX100 : Nat := 0
  state : Nat := 0
  hotCount : Nat := 0
  coolCount : Nat := 0
  valid : Nat := 0

structure CcmDfStateValue where
  sampleTsNs : Nat := 0
  ccxId : Nat := 0
  ccmId : Nat := 0
  rawReadBwMibSX100 : Nat := 0
  rawWriteBwMibSX100 : Nat := 0
  rawPressurePctX100 : Nat := 0
  ewmaPressurePctX100 : Nat := 0
  state : Nat := 0
  hotCount : Nat := 0
  coolCount : Nat := 0
  valid : Nat := 0

def CcmDfStateValue.bwX100 (sample : CcmDfStateValue) : Nat :=
  satAdd32 sample.rawReadBwMibSX100 sample.rawWriteBwMibSX100

structure CpuStateValue where
  domainId : Nat := 0
  idle : Nat := 0
  cpuDsqDepth : Nat := 0
  currentTid : Nat := 0
  lastUpdateNs : Nat := 0

structure DomainInfo where
  domainId : Nat
  kernelL3Id : Nat := 0
  repCpu : Nat := 0
  cpus : List Nat

structure TopologyLayout where
  nrCpuIds : Nat
  domains : List DomainInfo
  cpuToDomain : List (Option Nat)

/-- `topo.cpu_to_domain.get(cpu as usize).copied().flatten()`. -/
def TopologyLayout.domainOfCpu (topo : TopologyLayout) (cpu : Nat) : Option Nat :=
  getFlat topo.cpuToDomain cpu

/-- `cpu_to_domain` and the `cpus` lists of the domains describe one relation. -/
def TopologyLayout.Consistent (topo : TopologyLayout) : Prop :=
  ∀ cpu domain, topo.domainOfCpu cpu = some domain ↔
    ∃ info, topo.domains[domain]? = some info ∧ cpu ∈ info.cpus

structure MappingInfo where
  domainToCcx : List Nat
  domainToCcm : List (Option Nat)
  domainToDfCapacityMibSX100 : List (Option Nat)
  csLinkCapacityMibSX100 : List (Option Nat)
  eligibleDomains : TreeSet Nat
  excludedDomains : TreeSet Nat
  eligibleCpus : TreeSet Nat

def MappingInfo.dfCapacityMibSX100 (mapping : MappingInfo) (domainId : Nat) : Nat :=
  (getFlat mapping.domainToDfCapacityMibSX100 domainId).getD defaultDfCapacityMibSX100

def MappingInfo.maxDfCapacityMibSX100 (mapping : MappingInfo) : Nat :=
  mapping.domainToDfCapacityMibSX100.reduceOption.max?.getD defaultDfCapacityMibSX100

def MappingInfo.csCapacityMibSX100 (mapping : MappingInfo) (linkId : Nat) : Nat :=
  (getFlat mapping.csLinkCapacityMibSX100 linkId).getD defaultDfCapacityMibSX100

structure PolicyConfig where
  l2NeedMibSX100 : Nat
  migrateMarginX100 : Nat
  cpuHighUtilX100 : Nat
  cpuRebalanceJobDelta : Nat
  stallVictimMinPctX100 : Nat
  stallVictimDeltaPctX100 : Nat
  llcStaleMs : Nat
  dfStaleMs : Nat
  migrateSettleMs : Nat
  signatureSnapshots : Bool
  csVillainThrottle : Bool
  tickReevalEvery : Nat
  tickDeferMax : Nat
  csVillainResliceNs : Nat
  csVillainRefillDivisor : Nat
  csVillainSettleNs : Nat
  csVillainReleaseSamples : Nat
  tickMovePhaseMod : Nat

structure DispatchSnapshot where
  capturedAtNs : Nat := 0
  selectedDomain : Option Nat := none
  selectedCpu : Option Nat := none
  dfRawBwMibSX100 : Vector Nat maxDomains := Vector.replicate maxDomains 0
  validDomains : Nat := 0

structure ThreadSignature where
  valid : Bool := false
  stable : Bool := false
  sampleCount : Nat := 0
  lastUpdateNs : Nat := 0
  confidenceX100 : Nat := 0
  fillBwMibSX100 : Vector Nat memSourceCount := Vector.replicate memSourceCount 0
  fillShareX100 : Vector Nat memSourceCount := Vector.replicate memSourceCount 0
  projectedDfPressureX100 : Nat := 0
  projectedLlcPressureX100 : Nat := 0
  dfDomainDeltaX100 : Vector Nat maxDomains := Vector.replicate maxDomains 0
  rawDfDomainDeltaX100 : Vector Nat maxDomains := Vector.replicate maxDomains 0

def ThreadSignature.nearCacheBw (signature : ThreadSignature) : Nat :=
  signature.fillBwMibSX100.get memSourceNearCache

def ThreadSignature.dramNearBw (signature : ThreadSignature) : Nat :=
  signature.fillBwMibSX100.get memSourceDramNear

structure PlannedDomainState where
  dfPressureX100 : Nat := 0
  llcPressureX100 : Nat := 0
  fillBwMibSX100 : Vector Nat memSourceCount := Vector.replicate memSourceCount 0
  contributorCount : Nat := 0
  stableCount : Nat := 0
  taskCount : Nat := 0
  incomingMigrations : Nat := 0
  outgoingMigrations : Nat := 0
  migrationBudget : Nat := 0

structure PlannedCpuState where
  jobs : List Nat := []

structure ManagedThreadState where
  tid : Nat := 0
  tgid : Nat := 0
  comm : List Nat := []
  lastSeenNs : Nat := 0
  lastClass : ThreadClass := .cold
  lastSyncQualified : Bool := false
  lastSelectedDomain : Option Nat := none
  lastSelectedCpu : Option Nat := none
  lastObservedDomain : Option Nat := none
  lastObservedCpu : Option Nat := none
  settleUntilNs : Nat := 0
  lastMigrationFromDomain : Option Nat := none
  lastMigrationToDomain : Option Nat := none
  lastMigrationAtNs : Nat := 0
  reverseProtectUntilNs : Nat := 0
  dispatchSnapshot : Option DispatchSnapshot := none
  signature : ThreadSignature := {}
  villainDispatchSnapshot : Option DispatchSnapshot := none
  ioCsSignature : ThreadSignature := {}
  lastL2BwMibSX100 : Nat := 0
  ewmaL2BwMibSX100 : Nat := 0
  lastFillBwMibSX100 : Vector Nat memSourceCount := Vector.replicate memSourceCount 0
  ewmaFillBwMibSX100 : Vector Nat memSourceCount := Vector.replicate memSourceCount 0
  lastIpcX1000 : Nat := 0
  ewmaIpcX1000 : Nat := 0
  lastStallPctX100 : Nat := 0
  ewmaStallPctX100 : Nat := 0
  lastStallDeltaPctX100 : Nat := 0
  lastTickSeenNs : Nat := 0
  tickStayBackoffExp : Nat := 0
  throttleLinkId : Option Nat := none
  throttleTokensNs : Nat := 0
  throttleLastRefillNs : Nat := 0
  throttleDeferStartedNs : Nat := 0
  consecutiveTickDefer : Nat := 0

abbrev ThreadMap := TreeMap Nat ManagedThreadState

abbrev CpuSetMap := TreeMap Nat (TreeSet Nat)

/-- A task queued by the BPF side; `comm` holds the raw bytes. -/
structure QueuedTask where
  tid : Int
  tgid : Int
  currentCpu : Int
  currentDomain : Int
  nrCpusAllowed : Nat := 0
  flags : Nat := 0
  startTs : Nat := 0
  stopTs : Nat := 0
  execRuntime : Nat := 0
  weight : Nat := 0
  vtime : Nat := 0
  enqCnt : Nat := 0
  lastL2BwMibSX100 : Nat := 0
  ewmaL2BwMibSX100 : Nat := 0
  lastFillBwMibSX100 : Vector Nat memSourceCount := Vector.replicate memSourceCount 0
  ewmaFillBwMibSX100 : Vector Nat memSourceCount := Vector.replicate memSourceCount 0
  lastIpcX1000 : Nat := 0
  ewmaIpcX1000 : Nat := 0
  lastStallPctX100 : Nat := 0
  ewmaStallPctX100 : Nat := 0
  trigger : Nat := 0
  tickSeq : Nat := 0
  lastUpdateNs : Nat := 0
  comm : List Nat := []
  deriving DecidableEq

/-- `task.tid as u32`, the key of every per-thread map. -/
def QueuedTask.key (task : QueuedTask) : Nat := asU32 task.tid

/-- `task.tgid as u32`. -/
def QueuedTask.group (task : QueuedTask) : Nat := asU32 task.tgid

def taskCurrentDomain (task : QueuedTask) : Option Nat := tryU32 task.currentDomain

def taskCurrentCpu (task : QueuedTask) : Option Nat := tryU32 task.currentCpu

def commToString (raw : List Nat) : List Nat := raw.takeWhile (· ≠ 0)

def rlCpuAny : Int := 1048576

structure DispatchedTask where
  tid : Int
  cpu : Int
  flags : Nat
  sliceNs : Nat
  vtime : Nat
  enqCnt : Nat
  tickHoldoff : Nat
  deriving DecidableEq

def DispatchedTask.new (task : QueuedTask) : DispatchedTask where
  tid := task.tid
  cpu := task.currentCpu
  flags := task.flags
  sliceNs := 0
  vtime := 0
  enqCnt := task.enqCnt
  tickHoldoff := 0

def threadDomain (thread : ManagedThreadState) : Option Nat :=
  thread.lastSelectedDomain.or thread.lastObservedDomain

def threadCpu (thread : ManagedThreadState) : Option Nat :=
  thread.lastSelectedCpu.or thread.lastObservedCpu

/-- Whether a sample is too old to be used; a zero or future timestamp is. -/
def isStale (sampleTsNs nowNs staleMs : Nat) : Bool :=
  if sampleTsNs = 0 ∨ nowNs < sampleTsNs then true
  else decide (nowNs - sampleTsNs > satMul64 staleMs 1000000)

end CSwitch
