import CSwitch.Types

/-! The tick of the BPF side: `rustland_tick` with the fast path that keeps a
task running without asking the user-space scheduler. -/

set_option autoImplicit false

namespace CSwitch.Bpf

open Std (TreeSet)

def maxCpus : Nat := 1024

/-- The fields of `struct task_struct` that the callbacks read. -/
structure TaskStruct where
  pid : Nat
  tgid : Nat
  flags : Nat := 0
  nrCpusAllowed : Nat
  cpusPtr : TreeSet Nat

/-- The fields of `struct task_ctx` that the tick reads and writes. -/
structure TaskCtx where
  ewmaL2BwMibSX100 : Nat := 0
  pendingTrigger : Nat := 0
  tickHoldoff : Nat := 0
  currentCpu : Int := -1
  currentDomain : Int := -1
  tickSeq : Nat := 0
  lastTickNs : Nat := 0

/-- The read-only data that user space sets before the program is loaded. -/
structure TickConfig where
  userschedPid : Nat := 0
  enableTickResched : Bool
  enableBpfStayFastpath : Bool
  tickReevalEvery : Nat
  l2NeedMibSX100 : Nat
  llcStaleNs : Nat
  dfStaleNs : Nat

/-- The maps that the tick reads. `llc_state_map` and `df_state_map` are arrays
of `maxDomains` samples. -/
structure TickMaps where
  llcStates : List LlcStateValue := []
  dfStates : List CcmDfStateValue := []
  internalTgids : List (Nat × Nat) := []

/-- The signed difference of two `u64` times, or zero when it is negative. -/
def timeDelta (after before : Nat) : Nat :=
  let delta := (after + (u64Max + 1) - before) % (u64Max + 1)
  if delta < 9223372036854775808 then delta else 0

def isUserschedTask (cfg : TickConfig) (task : TaskStruct) : Bool :=
  cfg.userschedPid != 0 && task.tgid == cfg.userschedPid

def isInternalTask (maps : TickMaps) (task : TaskStruct) : Bool :=
  ((maps.internalTgids.lookup task.tgid).map (· != 0)).getD false

def domainHot (domain : Int) (sample : Nat → Option (Nat × Nat × Nat)) (now staleNs : Nat) : Bool :=
  if domain < 0 ∨ (maxDomains : Int) ≤ domain then false
  else
    match sample domain.toNat with
    | none => false
    | some (valid, sampleTsNs, state) =>
        if valid = 0 ∨ timeDelta now sampleTsNs > staleNs then false else state == 1

def domainLlcHot (cfg : TickConfig) (maps : TickMaps) (domain : Int) (now : Nat) : Bool :=
  domainHot domain (fun key => maps.llcStates[key]?.map fun value =>
    (value.valid, value.sampleTsNs, value.state)) now cfg.llcStaleNs

def domainDfHot (cfg : TickConfig) (maps : TickMaps) (domain : Int) (now : Nat) : Bool :=
  domainHot domain (fun key => maps.dfStates[key]?.map fun value =>
    (value.valid, value.sampleTsNs, value.state)) now cfg.dfStaleNs

/-- `bpf_cpumask_test_cpu(cpu, p->cpus_ptr)`. -/
def TaskStruct.allows (task : TaskStruct) (cpu : Int) : Bool :=
  match tryU32 cpu with
  | none => false
  | some cpu => task.cpusPtr.contains cpu

def taskShouldFastpathStay (cfg : TickConfig) (maps : TickMaps) (task : TaskStruct)
    (tctx : TaskCtx) (now : Nat) : Bool :=
  if !cfg.enableBpfStayFastpath then false
  else if tctx.currentCpu < 0 ∨ tctx.currentDomain < 0 then false
  else if !task.allows tctx.currentCpu then false
  else if tctx.ewmaL2BwMibSX100 ≥ cfg.l2NeedMibSX100 then false
  else if domainLlcHot cfg maps tctx.currentDomain now || domainDfHot cfg maps tctx.currentDomain now
    then false
  else true

/-! ## Where a task runs -/

/-- The domain of every CPU as user space loads it into `cpu_domain_map`. -/
def updateCpuDomainMap (topo : TopologyLayout) : List Nat :=
  (List.range topo.nrCpuIds).map fun cpu => (topo.domainOfCpu cpu).getD u32Max

/-- `(s32)value`. -/
def asS32 (value : Nat) : Int := if value < 2147483648 then value else (value : Int) - 4294967296

/-- The array of the kernel holds 0 for the CPUs beyond `nr_cpu_ids`, of which there are
none; here they have no domain. -/
def cpuToDomain (cpuDomainMap : List Nat) (cpu : Nat) : Int :=
  if cpu ≥ maxCpus then -1
  else
    match cpuDomainMap[cpu]? with
    | none => -1
    | some domain => if domain = u32Max then -1 else asS32 domain

/-- The placement that `rustland_running` writes; the task is ticked after it. -/
def rustlandRunning (cpuDomainMap : List Nat) (tctx : TaskCtx) (cpu : Int) : TaskCtx :=
  { tctx with
    currentCpu := cpu
    currentDomain := ((tryU32 cpu).map (cpuToDomain cpuDomainMap)).getD (-1) }

theorem cpuToDomain_loaded {topo : TopologyLayout} {cpu domain : Nat}
    (word : ∀ domain, topo.domainOfCpu cpu = some domain → domain ≤ u32Max)
    (placed : cpuToDomain (updateCpuDomainMap topo) cpu = domain) :
    topo.domainOfCpu cpu = some domain := by
  unfold cpuToDomain updateCpuDomainMap at placed
  split at placed
  · omega
  rw [List.getElem?_map] at placed
  cases listed : (List.range topo.nrCpuIds)[cpu]? with
  | none =>
      rw [listed] at placed
      simp only [Option.map_none] at placed
      omega
  | some index =>
      obtain rfl : cpu = index := by
        obtain ⟨_, same⟩ := List.getElem?_eq_some_iff.mp listed
        rw [List.getElem_range] at same
        exact same
      rw [listed] at placed
      simp only [Option.map_some] at placed
      cases mapped : topo.domainOfCpu cpu with
      | none =>
          rw [mapped, Option.getD_none, if_pos rfl] at placed
          omega
      | some other =>
          have narrow := word other mapped
          unfold u32Max at narrow placed
          rw [mapped, Option.getD_some] at placed
          unfold asS32 at placed
          have same : other = domain := by
            split at placed
            · omega
            · split at placed <;> omega
          rw [same]

/-- The domain written for a running task is the domain of its CPU. -/
theorem rustlandRunning_home {topo : TopologyLayout} {tctx : TaskCtx} {cpu : Int} {domain : Nat}
    (word : ∀ cpu domain, topo.domainOfCpu cpu = some domain → domain ≤ u32Max)
    (placed : (rustlandRunning (updateCpuDomainMap topo) tctx cpu).currentDomain = domain) :
    ∃ current, tryU32 cpu = some current ∧ topo.domainOfCpu current = some domain := by
  unfold rustlandRunning at placed
  dsimp only at placed
  cases here : tryU32 cpu with
  | none =>
      rw [here, Option.map_none, Option.getD_none] at placed
      omega
  | some current =>
      rw [here, Option.map_some, Option.getD_some] at placed
      exact ⟨current, rfl, cpuToDomain_loaded (word current) placed⟩

/-! ## The tick -/

/-- How a tick ends. -/
inductive TickOutcome where
  | ignored
  | notDue
  | backoffSkip
  | fastpathStay
  | pinnedStay
  | toUserspace
  deriving DecidableEq

def queueTriggerTick : Nat := 1

/-- `rustland_tick` for a task with a context; without one it is ignored. -/
def rustlandTick (cfg : TickConfig) (maps : TickMaps) (task : TaskStruct) (tctx : TaskCtx)
    (now : Nat) : TaskCtx × TickOutcome :=
  if !cfg.enableTickResched then (tctx, .ignored)
  else if isUserschedTask cfg task || isInternalTask maps task then (tctx, .ignored)
  else
    let tctx := { tctx with tickSeq := wrapAdd64 tctx.tickSeq 1, lastTickNs := now }
    if cfg.tickReevalEvery = 0 ∨ tctx.tickSeq % cfg.tickReevalEvery ≠ 0 then (tctx, .notDue)
    else if tctx.tickHoldoff ≠ 0 then
      ({ tctx with tickHoldoff := tctx.tickHoldoff - 1 }, .backoffSkip)
    else if taskShouldFastpathStay cfg maps task tctx now then (tctx, .fastpathStay)
    else if task.nrCpusAllowed = 1 then (tctx, .pinnedStay)
    else ({ tctx with pendingTrigger := queueTriggerTick }, .toUserspace)

end CSwitch.Bpf
