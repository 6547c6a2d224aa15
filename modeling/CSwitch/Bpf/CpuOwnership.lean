import CSwitch.Bpf.Queues

/-! The CPU ownership map: `rustland_running`, `rustland_stopping` and
`rustland_update_idle` on every CPU, against what really runs there, while user
space changes which processes are internal. -/

set_option autoImplicit false

namespace CSwitch.Bpf

structure Ownership where
  /-- The sched_ext task that runs on each CPU. -/
  running : Nat → Option TaskStruct := fun _ => none
  maps : TickMaps := {}
  cpuStates : Nat → CpuStateValue
  nrRunning : Nat := 0
  /-- The CPUs whose task was counted in `nr_running` when it started. -/
  counted : Finset Nat := ∅
  /-- The stops that did not take a counted task back, and the stops that took back
  a task that was not counted. -/
  missed : Nat := 0
  surplus : Nat := 0

namespace Ownership

variable (cfg : TickConfig) (state : Ownership)

/-- The callbacks skip the threads of the scheduler and of its helpers. -/
def skips (task : TaskStruct) : Bool := isUserschedTask cfg task || isInternalTask state.maps task

/-- A write to the entry of a CPU that the map has. -/
def updateCpuState (cpu : Nat) (write : CpuStateValue → CpuStateValue) : Ownership :=
  match lookupCpuState cpu with
  | none => state
  | some index =>
      { state with
        cpuStates := Function.update state.cpuStates index (write (state.cpuStates index)) }

def setCpuStateTid (cpu tid now : Nat) : Ownership :=
  state.updateCpuState cpu fun value => { value with currentTid := tid, lastUpdateNs := now }

def setCpuStateIdle (cpu idle now : Nat) : Ownership :=
  state.updateCpuState cpu fun value => { value with idle := idle, lastUpdateNs := now }

def rustlandRunning (cpu : Nat) (task : TaskStruct) (hasTaskCtx : Bool) (now : Nat) : Ownership :=
  let started := { state with running := Function.update state.running cpu (some task) }
  if state.skips cfg task then started
  else
    let counted := { started with
      nrRunning := wrapAdd64 state.nrRunning 1
      counted := insert cpu state.counted }
    if !hasTaskCtx then counted
    else (counted.setCpuStateTid cpu task.pid now).setCpuStateIdle cpu 0 now

def rustlandStopping (cpu : Nat) (task : TaskStruct) (hasTaskCtx : Bool) (now : Nat) : Ownership :=
  let stopped := { state with
    running := Function.update state.running cpu none
    counted := state.counted.erase cpu }
  if state.skips cfg task then
    { stopped with missed := if cpu ∈ state.counted then state.missed + 1 else state.missed }
  else
    let counted := { stopped with
      nrRunning := wrapAdd64 state.nrRunning u64Max
      surplus := if cpu ∈ state.counted then state.surplus else state.surplus + 1 }
    if !hasTaskCtx then counted else counted.setCpuStateTid cpu 0 now

def rustlandUpdateIdle (cpu : Nat) (idle : Bool) (now : Nat) : Ownership :=
  state.setCpuStateIdle cpu idle.toNat now

/-- `adjust_cpu_dsq_depth`, which gives the CPU some other depth. -/
def adjustDepth (cpu depth now : Nat) : Ownership :=
  state.updateCpuState cpu fun value => { value with cpuDsqDepth := depth, lastUpdateNs := now }

/-- `set_internal_tgid`. -/
def setInternalTgid (tgid : Nat) (present : Bool) : Ownership :=
  let others := state.maps.internalTgids.filter fun entry => entry.1 != tgid
  { state with maps := { state.maps with
      internalTgids := if present then (tgid, 1) :: others else others } }

/-- The domain of a CPU in `update_cpu_domain_map`. -/
def startCpuState (topo : TopologyLayout) (cpu : Nat) : CpuStateValue :=
  if cpu < topo.nrCpuIds then
    { domainId := (topo.domainOfCpu cpu).getD u32Max, idle := 1 }
  else {}

def readCpuStates (nrCpuIds : Nat) : List CpuStateValue :=
  (List.range nrCpuIds).map fun (cpu : Nat) => ((lookupCpuState cpu).map state.cpuStates).getD {}

end Ownership

/-- One callback of the kernel, or a change of `internal_tgids`. A CPU runs one task at a
time. In a steady run every managed task has its context, and a process becomes
internal, or stops being so, only while none of its threads is on a CPU. -/
inductive OwnershipStep (cfg : TickConfig) (steady : Bool) : Ownership → Ownership → Prop where
  | running (state : Ownership) (cpu : Nat) (task : TaskStruct) (hasTaskCtx : Bool) (now : Nat)
      (free : state.running cpu = none) (context : steady = true → hasTaskCtx = true) :
      OwnershipStep cfg steady state (state.rustlandRunning cfg cpu task hasTaskCtx now)
  | stopping (state : Ownership) (cpu : Nat) (task : TaskStruct) (hasTaskCtx : Bool) (now : Nat)
      (here : state.running cpu = some task) (context : steady = true → hasTaskCtx = true) :
      OwnershipStep cfg steady state (state.rustlandStopping cfg cpu task hasTaskCtx now)
  | updateIdle (state : Ownership) (cpu : Nat) (idle : Bool) (now : Nat)
      (free : idle = true → state.running cpu = none) :
      OwnershipStep cfg steady state (state.rustlandUpdateIdle cpu idle now)
  | adjustDepth (state : Ownership) (cpu depth now : Nat) :
      OwnershipStep cfg steady state (state.adjustDepth cpu depth now)
  | setInternal (state : Ownership) (tgid : Nat) (present : Bool)
      (quiet : steady = true → ∀ cpu task, state.running cpu = some task → task.tgid ≠ tgid) :
      OwnershipStep cfg steady state (state.setInternalTgid tgid present)

def OwnershipReachable (cfg : TickConfig) (topo : TopologyLayout) (steady : Bool) :
    Ownership → Prop :=
  Relation.ReflTransGen (OwnershipStep cfg steady) { cpuStates := Ownership.startCpuState topo }

/-! ## Entries -/

variable {cfg : TickConfig} {topo : TopologyLayout} {steady : Bool} {state next : Ownership}

namespace Ownership

theorem lookupCpuState_nat (cpu : Nat) :
    lookupCpuState cpu = if cpu < maxCpus then some cpu else none := by
  unfold lookupCpuState tryU32
  by_cases within : cpu < maxCpus
  · simp [within]
  · have above := Nat.not_lt.mp within
    split <;> simp [above]

section Update

variable (state) (cpu : Nat) (write : CpuStateValue → CpuStateValue)

theorem updateCpuState_eq : state.updateCpuState cpu write =
    if cpu < maxCpus then
      { state with cpuStates := Function.update state.cpuStates cpu (write (state.cpuStates cpu)) }
    else state := by
  unfold updateCpuState
  rw [lookupCpuState_nat]
  by_cases within : cpu < maxCpus
  · simp only [if_pos within]
  · simp only [if_neg within]

@[simp] theorem updateCpuState_running :
    (state.updateCpuState cpu write).running = state.running := by
  rw [updateCpuState_eq]
  split <;> rfl

@[simp] theorem updateCpuState_maps : (state.updateCpuState cpu write).maps = state.maps := by
  rw [updateCpuState_eq]
  split <;> rfl

@[simp] theorem updateCpuState_nrRunning :
    (state.updateCpuState cpu write).nrRunning = state.nrRunning := by
  rw [updateCpuState_eq]
  split <;> rfl

@[simp] theorem updateCpuState_counted :
    (state.updateCpuState cpu write).counted = state.counted := by
  rw [updateCpuState_eq]
  split <;> rfl

@[simp] theorem updateCpuState_missed :
    (state.updateCpuState cpu write).missed = state.missed := by
  rw [updateCpuState_eq]
  split <;> rfl

@[simp] theorem updateCpuState_surplus :
    (state.updateCpuState cpu write).surplus = state.surplus := by
  rw [updateCpuState_eq]
  split <;> rfl

theorem updateCpuState_self (within : cpu < maxCpus) :
    (state.updateCpuState cpu write).cpuStates cpu = write (state.cpuStates cpu) := by
  rw [updateCpuState_eq, if_pos within]
  exact Function.update_self ..

theorem updateCpuState_of_ne {other : Nat} (different : other ≠ cpu) :
    (state.updateCpuState cpu write).cpuStates other = state.cpuStates other := by
  rw [updateCpuState_eq]
  split
  · exact Function.update_of_ne different ..
  · rfl

end Update

/-! ## The callbacks -/

/-- What `rustland_running` leaves in the entry of its CPU. -/
def startEntry (task : TaskStruct) (hasTaskCtx : Bool) (now : Nat) (value : CpuStateValue) :
    CpuStateValue :=
  if hasTaskCtx then { value with currentTid := task.pid, idle := 0, lastUpdateNs := now }
  else value

def stopEntry (hasTaskCtx : Bool) (now : Nat) (value : CpuStateValue) : CpuStateValue :=
  if hasTaskCtx then { value with currentTid := 0, lastUpdateNs := now } else value

section Callbacks

variable (cpu : Nat) {task : TaskStruct} (hasTaskCtx : Bool) (now : Nat)

theorem rustlandRunning_skipped (skipped : state.skips cfg task = true) :
    state.rustlandRunning cfg cpu task hasTaskCtx now =
      { state with running := Function.update state.running cpu (some task) } := by
  simp [rustlandRunning, skipped]

/-- A managed task is counted, and with its context it owns the CPU. -/
theorem rustlandRunning_managed (managed : state.skips cfg task = false) :
    state.rustlandRunning cfg cpu task hasTaskCtx now =
      { state with
        running := Function.update state.running cpu (some task)
        nrRunning := wrapAdd64 state.nrRunning 1
        counted := insert cpu state.counted
        cpuStates := (state.updateCpuState cpu (startEntry task hasTaskCtx now)).cpuStates } := by
  by_cases within : cpu < maxCpus
  · cases hasTaskCtx <;>
      simp [rustlandRunning, managed, setCpuStateTid, setCpuStateIdle, updateCpuState_eq, within,
        startEntry]
  · cases hasTaskCtx <;>
      simp [rustlandRunning, managed, setCpuStateTid, setCpuStateIdle, updateCpuState_eq, within]

theorem rustlandStopping_skipped (skipped : state.skips cfg task = true) :
    state.rustlandStopping cfg cpu task hasTaskCtx now = { state with
      running := Function.update state.running cpu none
      counted := state.counted.erase cpu
      missed := if cpu ∈ state.counted then state.missed + 1 else state.missed } := by
  simp [rustlandStopping, skipped]

theorem rustlandStopping_managed (managed : state.skips cfg task = false) :
    state.rustlandStopping cfg cpu task hasTaskCtx now =
      { state with
        running := Function.update state.running cpu none
        nrRunning := wrapAdd64 state.nrRunning u64Max
        counted := state.counted.erase cpu
        surplus := if cpu ∈ state.counted then state.surplus else state.surplus + 1
        cpuStates := (state.updateCpuState cpu (stopEntry hasTaskCtx now)).cpuStates } := by
  by_cases within : cpu < maxCpus
  · cases hasTaskCtx <;>
      simp [rustlandStopping, managed, setCpuStateTid, updateCpuState_eq, within, stopEntry]
  · cases hasTaskCtx <;>
      simp [rustlandStopping, managed, setCpuStateTid, updateCpuState_eq, within]

end Callbacks

end Ownership

/-! ## The number of running tasks -/

open Ownership

/-- `nr_running` is off by the missed stops and the surplus stops. -/
structure RunningBalance (state : Ownership) : Prop where
  balance : (state.nrRunning + state.surplus) % (u64Max + 1) =
    (state.counted.card + state.missed) % (u64Max + 1)
  counted : ∀ cpu ∈ state.counted, state.running cpu ≠ none

theorem RunningBalance.running (holds : RunningBalance state) {cpu : Nat} (task : TaskStruct)
    (hasTaskCtx : Bool) (now : Nat) (free : state.running cpu = none) :
    RunningBalance (state.rustlandRunning cfg cpu task hasTaskCtx now) := by
  have balance := holds.balance
  have fresh : cpu ∉ state.counted := fun member => holds.counted cpu member free
  have still : ∀ other ∈ insert cpu state.counted,
      Function.update state.running cpu (some task) other ≠ none := by
    intro other member
    by_cases same : other = cpu
    · simp [same]
    · simpa [same] using holds.counted other ((Finset.mem_insert.mp member).resolve_left same)
  cases skipped : state.skips cfg task with
  | true =>
    rw [rustlandRunning_skipped cpu hasTaskCtx now skipped]
    exact ⟨balance, fun other member => still other (Finset.mem_insert_of_mem member)⟩
  | false =>
    rw [rustlandRunning_managed cpu hasTaskCtx now skipped]
    refine ⟨?_, still⟩
    simp only [Finset.card_insert_of_notMem fresh, wrapAdd64]
    unfold u64Max at balance ⊢
    omega

theorem RunningBalance.stopping (holds : RunningBalance state) (cpu : Nat) (task : TaskStruct)
    (hasTaskCtx : Bool) (now : Nat) :
    RunningBalance (state.rustlandStopping cfg cpu task hasTaskCtx now) := by
  have balance := holds.balance
  have still : ∀ other ∈ state.counted.erase cpu,
      Function.update state.running cpu none other ≠ none := by
    intro other member
    obtain ⟨different, member⟩ := Finset.mem_erase.mp member
    simpa [different] using holds.counted other member
  cases skipped : state.skips cfg task with
  | true =>
    rw [rustlandStopping_skipped cpu hasTaskCtx now skipped]
    refine ⟨?_, still⟩
    by_cases member : cpu ∈ state.counted
    · have same : (state.counted.erase cpu).card + (state.missed + 1) =
          state.counted.card + state.missed := by
        have smaller := Finset.card_erase_add_one member
        omega
      simpa only [if_pos member, same] using balance
    · simpa only [if_neg member, Finset.erase_eq_of_notMem member] using balance
  | false =>
    rw [rustlandStopping_managed cpu hasTaskCtx now skipped]
    refine ⟨?_, still⟩
    by_cases member : cpu ∈ state.counted
    · have smaller := Finset.card_erase_add_one member
      simp only [if_pos member, wrapAdd64]
      unfold u64Max at balance ⊢
      omega
    · simp only [if_neg member, Finset.erase_eq_of_notMem member, wrapAdd64]
      unfold u64Max at balance ⊢
      omega

theorem runningBalance_step (step : OwnershipStep cfg steady state next)
    (holds : RunningBalance state) : RunningBalance next := by
  cases step with
  | running cpu task hasTaskCtx now free context => exact holds.running task hasTaskCtx now free
  | stopping cpu task hasTaskCtx now here context => exact holds.stopping cpu task hasTaskCtx now
  | updateIdle cpu idle now free =>
    exact ⟨by simpa [rustlandUpdateIdle, setCpuStateIdle] using holds.balance,
      by simpa [rustlandUpdateIdle, setCpuStateIdle] using holds.counted⟩
  | adjustDepth cpu depth now =>
    exact ⟨by simpa [Ownership.adjustDepth] using holds.balance,
      by simpa [Ownership.adjustDepth] using holds.counted⟩
  | setInternal tgid present quiet => exact ⟨holds.balance, holds.counted⟩

/-- In every run `nr_running` is the number of CPUs that run a counted task, up to
the stops that were missed and the stops that were surplus. -/
theorem OwnershipReachable.running_balance (reachable : OwnershipReachable cfg topo steady state) :
    (state.nrRunning + state.surplus) % (u64Max + 1) =
        (state.counted.card + state.missed) % (u64Max + 1) ∧
      ∀ cpu ∈ state.counted, ∃ task, state.running cpu = some task := by
  have holds : RunningBalance state := by
    induction reachable with
    | refl => exact ⟨rfl, fun cpu member => absurd member (Finset.notMem_empty cpu)⟩
    | tail _ step holds => exact runningBalance_step step holds
  exact ⟨holds.balance, fun cpu member => Option.ne_none_iff_exists'.mp (holds.counted cpu member)⟩

def ownershipTick : TickConfig where
  userschedPid := 100
  enableTickResched := true
  enableBpfStayFastpath := true
  tickReevalEvery := 4
  l2NeedMibSX100 := 0
  llcStaleNs := 0
  dfStaleNs := 0

def oneCpu : TopologyLayout := { nrCpuIds := 1, domains := [⟨0, 0, 0, [0]⟩], cpuToDomain := [some 0] }

def helperTask : TaskStruct := { pid := 5, tgid := 5, nrCpusAllowed := 1, cpusPtr := .ofList [0] }

/-- The helpers stop being internal while they still run: the counter wraps below zero. -/
theorem running_balance_helper :
    ∃ state : Ownership, state.nrRunning = u64Max ∧ state.counted = ∅ ∧
      (state.nrRunning + state.surplus) % (u64Max + 1) =
        (state.counted.card + state.missed) % (u64Max + 1) := by
  have start : OwnershipReachable ownershipTick oneCpu false { cpuStates := startCpuState oneCpu } :=
    .refl
  have internal := start.tail (.setInternal _ 5 true (fun steady => Bool.noConfusion steady))
  have running := internal.tail (.running _ 0 helperTask true 10 rfl (fun _ => rfl))
  have released := running.tail (.setInternal _ 5 false (fun steady => Bool.noConfusion steady))
  have stopped := released.tail (.stopping _ 0 helperTask true 20 rfl (fun _ => rfl))
  exact ⟨_, by decide, by decide, (OwnershipReachable.running_balance stopped).1⟩

/-! ## Steady runs -/

namespace Ownership

/-- The pid that the map should hold for a CPU. -/
def owner (cfg : TickConfig) (state : Ownership) (cpu : Nat) : Nat :=
  match state.running cpu with
  | none => 0
  | some task => if state.skips cfg task then 0 else task.pid

theorem lookup_filter_ne (entries : List (Nat × Nat)) {key removed : Nat}
    (different : key ≠ removed) :
    (entries.filter fun entry => entry.1 != removed).lookup key = entries.lookup key := by
  induction entries with
  | nil => rfl
  | cons entry rest ih =>
    obtain ⟨first, value⟩ := entry
    by_cases here : first = removed
    · subst here
      have apart : (key == first) = false := by simpa using different
      simp [List.lookup_cons, apart, ih]
    · by_cases found : key = first
      · subst found
        simp [here]
      · have apart : (key == first) = false := by simpa using found
        simp [here, List.lookup_cons, apart, ih]

/-- Only the threads of the process are judged anew. -/
theorem skips_setInternalTgid {task : TaskStruct} {tgid : Nat} (present : Bool)
    (other : task.tgid ≠ tgid) :
    (state.setInternalTgid tgid present).skips cfg task = state.skips cfg task := by
  have apart : (task.tgid == tgid) = false := by simpa using other
  cases present <;>
    simp [skips, setInternalTgid, isInternalTask, List.lookup_cons, apart, lookup_filter_ne _ other]

end Ownership

/-- The map says what runs on every CPU. -/
structure SteadyOwnership (cfg : TickConfig) (topo : TopologyLayout) (state : Ownership) : Prop where
  counted : ∀ cpu, cpu ∈ state.counted ↔
    ∃ task, state.running cpu = some task ∧ state.skips cfg task = false
  exact' : state.missed = 0 ∧ state.surplus = 0
  tid : ∀ cpu < maxCpus, (state.cpuStates cpu).currentTid = state.owner cfg cpu
  idle : ∀ cpu < maxCpus, (state.cpuStates cpu).idle ≠ 0 → cpu ∉ state.counted
  domain : ∀ cpu, (state.cpuStates cpu).domainId = (startCpuState topo cpu).domainId

theorem steadyOwnership_start (cfg : TickConfig) (topo : TopologyLayout) :
    SteadyOwnership cfg topo { cpuStates := startCpuState topo } where
  counted cpu := by simp
  exact' := ⟨rfl, rfl⟩
  tid cpu _ := by
    simp only [startCpuState, owner]
    split <;> rfl
  idle cpu _ _ := Finset.notMem_empty cpu
  domain cpu := rfl

/-- A write that leaves the owner and the domain alone, and clears no busy CPU. -/
theorem SteadyOwnership.updateCpuState (holds : SteadyOwnership cfg topo state) (cpu : Nat)
    (write : CpuStateValue → CpuStateValue)
    (tid : ∀ value, (write value).currentTid = value.currentTid)
    (domain : ∀ value, (write value).domainId = value.domainId)
    (idle : ∀ value, (write value).idle ≠ 0 → value.idle ≠ 0 ∨ cpu ∉ state.counted) :
    SteadyOwnership cfg topo (state.updateCpuState cpu write) where
  counted other := by simpa [skips] using holds.counted other
  exact' := by simpa using holds.exact'
  tid other within := by
    have own := holds.tid other within
    by_cases same : other = cpu
    · subst same
      rw [updateCpuState_self _ _ _ within, tid, own]
      simp [owner, skips]
    · rw [updateCpuState_of_ne _ _ _ same, own]
      simp [owner, skips]
  idle other within := by
    rw [updateCpuState_counted]
    by_cases same : other = cpu
    · subst same
      rw [updateCpuState_self _ _ _ within]
      intro some
      exact (idle _ some).elim (holds.idle other within) id
    · rw [updateCpuState_of_ne _ _ _ same]
      exact holds.idle other within
  domain other := by
    have own := holds.domain other
    rw [updateCpuState_eq]
    split
    next within =>
      by_cases same : other = cpu
      · subst same
        simpa [domain] using own
      · simpa [same] using own
    · exact own

/-- The CPU that a step leaves to another task, or to none. -/
theorem counted_update (holds : SteadyOwnership cfg topo state) {cpu : Nat}
    {occupant : Option TaskStruct} {counted : Finset Nat}
    (others : ∀ other ≠ cpu, other ∈ counted ↔ other ∈ state.counted)
    (own : cpu ∈ counted ↔ ∃ task, occupant = some task ∧ state.skips cfg task = false) (other : Nat) :
    other ∈ counted ↔ ∃ task, Function.update state.running cpu occupant other = some task ∧
      state.skips cfg task = false := by
  by_cases same : other = cpu
  · subst same
    rw [Function.update_self]
    exact own
  · rw [Function.update_of_ne same, others other same]
    exact holds.counted other

theorem SteadyOwnership.running (holds : SteadyOwnership cfg topo state) {cpu : Nat}
    (task : TaskStruct) (now : Nat) (free : state.running cpu = none) :
    SteadyOwnership cfg topo (state.rustlandRunning cfg cpu task true now) := by
  have fresh : cpu ∉ state.counted := by simp [holds.counted, free]
  cases skipped : state.skips cfg task with
  | true =>
    rw [rustlandRunning_skipped cpu true now skipped]
    refine ⟨counted_update holds (fun _ _ => Iff.rfl) (by simp [fresh, skipped]), holds.exact',
      fun other within => ?_, holds.idle, holds.domain⟩
    rw [holds.tid other within]
    by_cases same : other = cpu
    · subst same
      have idle : state.owner cfg other = 0 := by simp [owner, free]
      have internal : owner cfg { state with
          running := Function.update state.running other (some task) } other =
          if state.skips cfg task then 0 else task.pid := by simp [owner, skips]
      rw [idle, internal, if_pos skipped]
    · simp [owner, skips, same]
  | false =>
    rw [rustlandRunning_managed cpu true now skipped]
    refine ⟨counted_update holds (fun other different => by simp [different]) (by simp [skipped]),
      holds.exact', fun other within => ?_, fun other within => ?_, fun other => ?_⟩
    · by_cases same : other = cpu
      · subst same
        have managed : owner cfg { state with
            running := Function.update state.running other (some task) } other =
            if state.skips cfg task then 0 else task.pid := by simp [owner, skips]
        rw [skipped, if_neg Bool.false_ne_true] at managed
        simp only [updateCpuState_self _ _ _ within, startEntry, if_true]
        exact managed.symm
      · simp only [updateCpuState_of_ne _ _ _ same]
        rw [holds.tid other within]
        simp [owner, skips, same]
    · by_cases same : other = cpu
      · subst same
        simp only [updateCpuState_self _ _ _ within, startEntry, if_true]
        exact fun busy => absurd rfl busy
      · simp only [updateCpuState_of_ne _ _ _ same, Finset.mem_insert, same, false_or]
        exact holds.idle other within
    · have own := holds.domain other
      simp only [updateCpuState_eq]
      split
      next within =>
        by_cases same : other = cpu
        · subst same
          simpa [startEntry] using own
        · simpa [same] using own
      · exact own

theorem SteadyOwnership.stopping (holds : SteadyOwnership cfg topo state) {cpu : Nat}
    {task : TaskStruct} (now : Nat) (here : state.running cpu = some task) :
    SteadyOwnership cfg topo (state.rustlandStopping cfg cpu task true now) := by
  cases skipped : state.skips cfg task with
  | true =>
    have uncounted : cpu ∉ state.counted := by simp [holds.counted, here, skipped]
    rw [rustlandStopping_skipped cpu true now skipped]
    refine ⟨counted_update holds (fun other different => by simp [different]) (by simp),
      ⟨by simp [uncounted, holds.exact'.1], holds.exact'.2⟩, fun other within => ?_,
      fun other within some member => holds.idle other within some (Finset.mem_of_mem_erase member),
      holds.domain⟩
    rw [holds.tid other within]
    by_cases same : other = cpu
    · subst same
      simp [owner, here, skipped]
    · simp [owner, skips, same]
  | false =>
    have counted : cpu ∈ state.counted := (holds.counted cpu).mpr ⟨task, here, skipped⟩
    rw [rustlandStopping_managed cpu true now skipped]
    refine ⟨counted_update holds (fun other different => by simp [different]) (by simp),
      ⟨holds.exact'.1, by simp [counted, holds.exact'.2]⟩, fun other within => ?_,
      fun other within => ?_, fun other => ?_⟩
    · by_cases same : other = cpu
      · subst same
        simp only [updateCpuState_self _ _ _ within, stopEntry, if_true]
        simp [owner]
      · simp only [updateCpuState_of_ne _ _ _ same]
        rw [holds.tid other within]
        simp [owner, skips, same]
    · by_cases same : other = cpu
      · subst same
        simp
      · simp only [updateCpuState_of_ne _ _ _ same, Finset.mem_erase, ne_eq, same,
          not_false_eq_true, true_and]
        exact holds.idle other within
    · have own := holds.domain other
      simp only [updateCpuState_eq]
      split
      next within =>
        by_cases same : other = cpu
        · subst same
          simpa [stopEntry] using own
        · simpa [same] using own
      · exact own

theorem steadyOwnership_step (step : OwnershipStep cfg true state next)
    (holds : SteadyOwnership cfg topo state) : SteadyOwnership cfg topo next := by
  cases step with
  | running cpu task hasTaskCtx now free context =>
    obtain rfl := context rfl
    exact holds.running task now free
  | stopping cpu task hasTaskCtx now here context =>
    obtain rfl := context rfl
    exact holds.stopping now here
  | updateIdle cpu idle now free =>
    refine holds.updateCpuState cpu
      (fun value => { value with idle := idle.toNat, lastUpdateNs := now }) (fun _ => rfl)
      (fun _ => rfl) fun value some => .inr ?_
    cases idle with
    | false => exact absurd rfl some
    | true => simp [holds.counted, free rfl]
  | adjustDepth cpu depth now =>
    exact holds.updateCpuState cpu
      (fun value => { value with cpuDsqDepth := depth, lastUpdateNs := now }) (fun _ => rfl)
      (fun _ => rfl) fun value some => .inl some
  | setInternal tgid present quiet =>
    have same {cpu : Nat} {task : TaskStruct} (here : state.running cpu = some task) :
        (state.setInternalTgid tgid present).skips cfg task = state.skips cfg task :=
      skips_setInternalTgid present (quiet rfl cpu task here)
    refine ⟨fun cpu => ?_, holds.exact', fun cpu within => ?_, holds.idle, holds.domain⟩
    · refine (holds.counted cpu).trans (exists_congr fun task => and_congr_right fun here => ?_)
      rw [same here]
    · refine (holds.tid cpu within).trans ?_
      have running : (state.setInternalTgid tgid present).running cpu = state.running cpu := rfl
      unfold owner
      rw [running]
      cases here : state.running cpu with
      | none => rfl
      | some task => simp only [same here]

/-- In a steady run the main loop reads, for every CPU, the managed task that runs
there and its domain; a CPU that it reads as idle runs none, and `nr_running` is
the number of CPUs that run one. -/
theorem OwnershipReachable.read_states (reachable : OwnershipReachable cfg topo true state)
    (fits : topo.nrCpuIds ≤ maxCpus) (cpu : Nat) (within : cpu < topo.nrCpuIds) :
    (∃ value, (state.readCpuStates topo.nrCpuIds)[cpu]? = some value ∧
      value.currentTid = state.owner cfg cpu ∧
      value.domainId = (topo.domainOfCpu cpu).getD u32Max ∧
      (value.idle ≠ 0 → ∀ task, state.running cpu = some task → state.skips cfg task = true)) ∧
      state.nrRunning % (u64Max + 1) = state.counted.card % (u64Max + 1) ∧
      (cpu ∈ state.counted ↔ ∃ task, state.running cpu = some task ∧
        state.skips cfg task = false) := by
  have holds : SteadyOwnership cfg topo state := by
    induction reachable with
    | refl => exact steadyOwnership_start cfg topo
    | tail _ step holds => exact steadyOwnership_step step holds
  have inside : cpu < maxCpus := within.trans_le fits
  have balance := reachable.running_balance.1
  rw [holds.exact'.1, holds.exact'.2] at balance
  refine ⟨⟨state.cpuStates cpu, ?_, holds.tid cpu inside, ?_, fun idle task here => ?_⟩, balance,
    holds.counted cpu⟩
  · simp [readCpuStates, within, lookupCpuState_nat, inside]
  · rw [holds.domain cpu, startCpuState, if_pos within]
  · by_contra managed
    exact holds.idle cpu inside idle ((holds.counted cpu).mpr ⟨task, here, by simpa using managed⟩)

theorem read_states_helper :
    ∃ state : Ownership, state.running 0 = some helperTask ∧
      ∃ value, (state.readCpuStates oneCpu.nrCpuIds)[0]? = some value ∧
        value.currentTid = state.owner ownershipTick 0 := by
  have start : OwnershipReachable ownershipTick oneCpu true { cpuStates := startCpuState oneCpu } :=
    .refl
  have running := start.tail (.running _ 0 helperTask true 10 rfl (fun _ => rfl))
  obtain ⟨value, read, tid, _⟩ :=
    (OwnershipReachable.read_states running (by decide) 0 (by decide)).1
  exact ⟨_, rfl, value, read, tid⟩

end CSwitch.Bpf
