import CSwitch.Bpf.Sampling

/-! The life of a task context, from `rustland_init_task` on. The totals of the
bandwidth sample follow its sources as long as no sampling is torn, in the
context and in every message that reports it to user space. -/

set_option autoImplicit false

namespace CSwitch.Bpf

/-! ## The callbacks -/

/-- The fields of `struct task_struct` that only the messages copy. -/
structure TaskView extends TaskStruct where
  weight : Nat := 0
  dsqVtime : Nat := 0
  comm : List Nat := []

def queueTriggerEnqueue : Nat := 0

namespace SampleCtx

variable (tctx : SampleCtx)

def rustlandInitTask : SampleCtx where
  lastIpcX1000 := stallIpcCapX1000
  ewmaIpcX1000 := stallIpcCapX1000
  tickHoldoff := 0
  pendingTrigger := queueTriggerEnqueue
  currentCpu := -1
  currentDomain := -1

def rustlandRunnable : SampleCtx := { tctx with execRuntime := 0, tickHoldoff := 0 }

/-- The start value of a source; one that cannot be read stays out of the mask. -/
def startFill (perf : PerfEvents) (cpu : Nat) (tctx : SampleCtx) (idx : Fin memSourceCount) :
    SampleCtx :=
  match perf.readFillCounter cpu idx with
  | none => tctx
  | some counter => { tctx with
      runStartFillCtr := tctx.runStartFillCtr.set idx counter idx.isLt
      runStartFillValidMask := tctx.runStartFillValidMask ||| (1 <<< idx.val) }

def startInstructions (perf : PerfEvents) (cpu : Nat) : SampleCtx :=
  match perf.readInstructionsCounter cpu with
  | none => tctx
  | some counter => { tctx with
      runStartInstCtr := counter
      runStartStallValidMask := tctx.runStartStallValidMask ||| stallCounterValidInst }

def startCycles (perf : PerfEvents) (cpu : Nat) : SampleCtx :=
  match perf.readCpuCyclesCounter cpu with
  | none => tctx
  | some counter => { tctx with
      runStartCycleCtr := counter
      runStartStallValidMask := tctx.runStartStallValidMask ||| stallCounterValidCycles }

/-- `current_cpu` and `current_domain`, as both ends of a slice write them. -/
def placeOn (cpuDomainMap : List Nat) (cpu : Int) : SampleCtx :=
  { tctx with toTaskCtx := Bpf.rustlandRunning cpuDomainMap tctx.toTaskCtx cpu }

def rustlandRunning (cpuDomainMap : List Nat) (cpu : Int) (perf : PerfEvents) (now : Nat) :
    SampleCtx :=
  let tctx := { tctx.placeOn cpuDomainMap cpu with
    startTs := now
    runStartNs := now
    runStartFillValidMask := 0
    runStartStallValidMask := 0 }
  if cpu < 0 then tctx
  else
    let tctx := (List.finRange memSourceCount).foldl (startFill perf (asU32 cpu)) tctx
    (tctx.startInstructions perf (asU32 cpu)).startCycles perf (asU32 cpu)

/-- What `rustland_stopping` writes before it samples. -/
def beforeSample (cpuDomainMap : List Nat) (cpu : Int) (now : Nat) : SampleCtx :=
  { tctx.placeOn cpuDomainMap cpu with
    stopTs := now
    execRuntime := wrapAdd64 tctx.execRuntime (wrapSub64 now tctx.startTs) }

def rustlandStopping (cpuDomainMap : List Nat) (cpu : Int) (perf : PerfEvents) (now : Nat) :
    SampleCtx :=
  { (sampleSliceMetrics perf (tctx.beforeSample cpuDomainMap cpu now) now).2 with
    runStartNs := 0
    runStartFillValidMask := 0
    runStartStallValidMask := 0 }

def getTaskInfo (cpuDomainMap : List Nat) (task : TaskView) (enqFlags : Nat) (prevCpu : Int) :
    QueuedTask × SampleCtx :=
  let cpu := if tctx.currentCpu < 0 then prevCpu else tctx.currentCpu
  let domain := if tctx.currentDomain < 0 ∧ prevCpu ≥ 0 then cpuToDomain cpuDomainMap (asU32 prevCpu)
    else tctx.currentDomain
  let enqCnt := wrapAdd64 tctx.enqCnt 1
  ({
    tid := task.pid
    tgid := task.tgid
    currentCpu := cpu
    currentDomain := domain
    nrCpusAllowed := task.nrCpusAllowed
    flags := enqFlags
    startTs := tctx.startTs
    stopTs := tctx.stopTs
    execRuntime := tctx.execRuntime
    weight := task.weight
    vtime := task.dsqVtime
    enqCnt := enqCnt
    lastL2BwMibSX100 := tctx.lastL2BwMibSX100
    ewmaL2BwMibSX100 := tctx.ewmaL2BwMibSX100
    lastFillBwMibSX100 := tctx.lastFillBwMibSX100
    ewmaFillBwMibSX100 := tctx.ewmaFillBwMibSX100
    lastIpcX1000 := tctx.lastIpcX1000
    ewmaIpcX1000 := tctx.ewmaIpcX1000
    lastStallPctX100 := tctx.lastStallPctX100
    ewmaStallPctX100 := tctx.ewmaStallPctX100
    trigger := tctx.pendingTrigger
    tickSeq := tctx.tickSeq
    lastUpdateNs := tctx.lastUpdateNs
    comm := task.comm },
  { tctx with
    currentCpu := cpu
    currentDomain := domain
    enqCnt := enqCnt
    pendingTrigger := queueTriggerEnqueue })

/-- The trigger is recorded even when no room is left for the message. -/
def queueTaskToUserspace (cpuDomainMap : List Nat) (task : TaskView) (enqFlags : Nat) (prevCpu : Int)
    (trigger : Nat) (reserved : Bool) : Option QueuedTask × SampleCtx :=
  let effectiveTrigger :=
    if trigger ≠ queueTriggerEnqueue ∨ tctx.pendingTrigger = queueTriggerEnqueue then trigger
    else tctx.pendingTrigger
  let tctx := { tctx with pendingTrigger := effectiveTrigger }
  if !reserved then (none, tctx)
  else
    let (message, tctx) := tctx.getTaskInfo cpuDomainMap task enqFlags prevCpu
    (some message, tctx)

end SampleCtx

/-! ## Runs -/

/-- The callbacks that write the context. `queued` is the call of
`queue_task_to_userspace` and `dispatched` the store of `dispatch_task`. -/
inductive TaskHook where
  | runnable
  | running (cpu : Int) (perf : PerfEvents)
  | stopping (cpu : Int) (perf : PerfEvents)
  | tick
  | queued (enqFlags : Nat) (prevCpu : Int) (trigger : Nat) (reserved : Bool)
  | dispatched (tickHoldoff : Nat)

/-- A callback for the task, with the task and the maps it then finds. -/
structure TaskCall where
  task : TaskView
  maps : TickMaps := {}
  now : Nat
  hook : TaskHook

/-- The context of a task and the messages sent about it. -/
structure TaskRun where
  tctx : SampleCtx := SampleCtx.rustlandInitTask
  messages : List QueuedTask := []

def TaskCall.ignored (cfg : TickConfig) (call : TaskCall) : Bool :=
  isUserschedTask cfg call.task.toTaskStruct || isInternalTask call.maps call.task.toTaskStruct

/-- The callbacks at both ends of a slice return at once for an ignored task. -/
def TaskRun.unlessIgnored (state : TaskRun) (ignored : Bool) (tctx : SampleCtx) : TaskRun :=
  if ignored then state else { state with tctx }

def taskStep (cfg : TickConfig) (cpuDomainMap : List Nat) (state : TaskRun) (call : TaskCall) :
    TaskRun :=
  match call.hook with
  | .runnable => state.unlessIgnored (call.ignored cfg) state.tctx.rustlandRunnable
  | .running cpu perf =>
      state.unlessIgnored (call.ignored cfg)
        (state.tctx.rustlandRunning cpuDomainMap cpu perf call.now)
  | .stopping cpu perf =>
      state.unlessIgnored (call.ignored cfg)
        (state.tctx.rustlandStopping cpuDomainMap cpu perf call.now)
  | .tick =>
      { state with
        tctx := { state.tctx with
          toTaskCtx := (rustlandTick cfg call.maps call.task.toTaskStruct state.tctx.toTaskCtx
            call.now).1 } }
  | .queued enqFlags prevCpu trigger reserved =>
      let (message, tctx) := state.tctx.queueTaskToUserspace cpuDomainMap call.task enqFlags prevCpu
        trigger reserved
      { tctx, messages := state.messages ++ message.toList }
  | .dispatched tickHoldoff => { state with tctx := { state.tctx with tickHoldoff } }

/-- The states of the runs from the creation of the task whose calls are permitted. -/
inductive TaskReaches (cfg : TickConfig) (cpuDomainMap : List Nat)
    (permitted : TaskRun → TaskCall → Prop) : TaskRun → Prop where
  | init : TaskReaches cfg cpuDomainMap permitted {}
  | step {state : TaskRun} {call : TaskCall} (reached : TaskReaches cfg cpuDomainMap permitted state)
      (permits : permitted state call) :
      TaskReaches cfg cpuDomainMap permitted (taskStep cfg cpuDomainMap state call)

/-- A slice that ends does not end in a torn sample. -/
def SamplesWhole (cfg : TickConfig) (cpuDomainMap : List Nat) (state : TaskRun) (call : TaskCall) :
    Prop :=
  ∀ cpu perf, call.hook = .stopping cpu perf → call.ignored cfg = false →
    ¬ TornSample perf (state.tctx.beforeSample cpuDomainMap cpu call.now) call.now

/-! ## The totals along a run -/

def MessageSummed (message : QueuedTask) : Prop :=
  message.lastL2BwMibSX100 = min (∑ idx, message.lastFillBwMibSX100.get idx) u32Max ∧
    message.ewmaL2BwMibSX100 = min (∑ idx, message.ewmaFillBwMibSX100.get idx) u32Max

structure RunSummed (state : TaskRun) : Prop where
  tctx : FillsSummed state.tctx
  messages : ∀ message ∈ state.messages, MessageSummed message

variable {cfg : TickConfig} {cpuDomainMap : List Nat} {tctx : SampleCtx} {state : TaskRun}
  {call : TaskCall}

theorem fillsSummed_rustlandInitTask : FillsSummed SampleCtx.rustlandInitTask := by
  constructor
  · decide
  · decide

theorem metrics_startFill (perf : PerfEvents) (cpu : Nat) (tctx : SampleCtx)
    (idx : Fin memSourceCount) : (SampleCtx.startFill perf cpu tctx idx).metrics = tctx.metrics := by
  unfold SampleCtx.startFill
  cases perf.readFillCounter cpu idx with
  | none => rfl
  | some counter => rfl

theorem metrics_foldl_startFill (perf : PerfEvents) (cpu : Nat) (tctx : SampleCtx)
    (sources : List (Fin memSourceCount)) :
    (sources.foldl (SampleCtx.startFill perf cpu) tctx).metrics = tctx.metrics := by
  induction sources generalizing tctx with
  | nil => rfl
  | cons idx sources ih => exact (ih _).trans (metrics_startFill perf cpu tctx idx)

theorem metrics_startInstructions (perf : PerfEvents) (cpu : Nat) (tctx : SampleCtx) :
    (tctx.startInstructions perf cpu).metrics = tctx.metrics := by
  unfold SampleCtx.startInstructions
  cases perf.readInstructionsCounter cpu with
  | none => rfl
  | some counter => rfl

theorem metrics_startCycles (perf : PerfEvents) (cpu : Nat) (tctx : SampleCtx) :
    (tctx.startCycles perf cpu).metrics = tctx.metrics := by
  unfold SampleCtx.startCycles
  cases perf.readCpuCyclesCounter cpu with
  | none => rfl
  | some counter => rfl

theorem metrics_rustlandRunning (cpuDomainMap : List Nat) (cpu : Int) (perf : PerfEvents) (now : Nat)
    (tctx : SampleCtx) : (tctx.rustlandRunning cpuDomainMap cpu perf now).metrics = tctx.metrics := by
  unfold SampleCtx.rustlandRunning
  dsimp only
  split
  · rfl
  · rw [metrics_startCycles, metrics_startInstructions, metrics_foldl_startFill]
    rfl

theorem metrics_beforeSample (cpuDomainMap : List Nat) (cpu : Int) (now : Nat) (tctx : SampleCtx) :
    (tctx.beforeSample cpuDomainMap cpu now).metrics = tctx.metrics := rfl

theorem metrics_rustlandStopping (cpuDomainMap : List Nat) (cpu : Int) (perf : PerfEvents) (now : Nat)
    (tctx : SampleCtx) :
    (tctx.rustlandStopping cpuDomainMap cpu perf now).metrics =
      (sampleSliceMetrics perf (tctx.beforeSample cpuDomainMap cpu now) now).2.metrics := rfl

theorem fillsSummed_rustlandStopping {cpu : Int} {perf : PerfEvents} {now : Nat}
    (summed : FillsSummed tctx)
    (whole : ¬ TornSample perf (tctx.beforeSample cpuDomainMap cpu now) now) :
    FillsSummed (tctx.rustlandStopping cpuDomainMap cpu perf now) := by
  have before := summed.of_metrics (metrics_beforeSample cpuDomainMap cpu now tctx)
  have sampled := fillsSummed_sampleSliceMetrics before whole
  exact sampled.of_metrics (metrics_rustlandStopping cpuDomainMap cpu perf now tctx)

theorem rustlandTick_ewmaL2 (maps : TickMaps) (task : TaskStruct) (tick : TaskCtx) (now : Nat) :
    (rustlandTick cfg maps task tick now).1.ewmaL2BwMibSX100 = tick.ewmaL2BwMibSX100 := by
  unfold rustlandTick
  dsimp only
  split
  · rfl
  · split
    · rfl
    · split
      · rfl
      · split
        · rfl
        · split
          · rfl
          · split
            · rfl
            · rfl

theorem metrics_rustlandTick (cfg : TickConfig) (maps : TickMaps) (task : TaskStruct)
    (tctx : SampleCtx) (now : Nat) :
    ({ tctx with toTaskCtx := (rustlandTick cfg maps task tctx.toTaskCtx now).1 } :
      SampleCtx).metrics = tctx.metrics := by
  simp only [SampleCtx.metrics, rustlandTick_ewmaL2]

theorem metrics_queueTaskToUserspace (cpuDomainMap : List Nat) (task : TaskView) (enqFlags : Nat)
    (prevCpu : Int) (trigger : Nat) (reserved : Bool) (tctx : SampleCtx) :
    (tctx.queueTaskToUserspace cpuDomainMap task enqFlags prevCpu trigger reserved).2.metrics =
      tctx.metrics := by
  cases reserved with
  | false => rfl
  | true => rfl

/-- A message reports the totals and the sources of the same context. -/
theorem queueTaskToUserspace_summed (summed : FillsSummed tctx) (cpuDomainMap : List Nat)
    (task : TaskView) (enqFlags : Nat) (prevCpu : Int) (trigger : Nat) (reserved : Bool) :
    ∀ message ∈ (tctx.queueTaskToUserspace cpuDomainMap task enqFlags prevCpu trigger reserved).1,
      MessageSummed message := by
  cases reserved with
  | false =>
      intro message impossible
      cases impossible
  | true =>
      intro message sent
      obtain rfl := Option.some.inj sent
      exact summed

theorem RunSummed.unlessIgnored {ignored : Bool} (summed : RunSummed state)
    (kept : ignored = false → FillsSummed tctx) : RunSummed (state.unlessIgnored ignored tctx) := by
  cases ignored with
  | false => exact ⟨kept rfl, summed.messages⟩
  | true => exact summed

theorem RunSummed.step (summed : RunSummed state)
    (whole : SamplesWhole cfg cpuDomainMap state call) :
    RunSummed (taskStep cfg cpuDomainMap state call) := by
  unfold taskStep
  cases hook : call.hook with
  | runnable => exact summed.unlessIgnored fun _ => summed.tctx
  | running cpu perf =>
      apply summed.unlessIgnored
      intro _
      exact summed.tctx.of_metrics (metrics_rustlandRunning cpuDomainMap cpu perf call.now state.tctx)
  | stopping cpu perf =>
      apply summed.unlessIgnored
      intro managed
      exact fillsSummed_rustlandStopping summed.tctx (whole cpu perf hook managed)
  | tick =>
      have same := metrics_rustlandTick cfg call.maps call.task.toTaskStruct state.tctx call.now
      exact ⟨summed.tctx.of_metrics same, summed.messages⟩
  | queued enqFlags prevCpu trigger reserved =>
      have sent := queueTaskToUserspace_summed summed.tctx cpuDomainMap call.task enqFlags prevCpu
        trigger reserved
      refine ⟨summed.tctx.of_metrics ?_, ?_⟩
      · exact metrics_queueTaskToUserspace cpuDomainMap call.task enqFlags prevCpu trigger reserved
          state.tctx
      · intro message member
        rcases List.mem_append.mp member with earlier | new
        · exact summed.messages message earlier
        · exact sent message (Option.mem_toList.mp new)
  | dispatched tickHoldoff => exact ⟨summed.tctx, summed.messages⟩

theorem runSummed_of_reaches
    (reached : TaskReaches cfg cpuDomainMap (SamplesWhole cfg cpuDomainMap) state) : RunSummed state := by
  induction reached with
  | init =>
      constructor
      · exact fillsSummed_rustlandInitTask
      · intro message impossible
        cases impossible
  | step _ permits ih => exact ih.step permits

/-- A sample that returns false has left the metrics alone exactly when it is not
torn; where no sample of a run is torn, the totals follow their sources. -/
theorem sampling_atomic_iff (cfg : TickConfig) (cpuDomainMap : List Nat) :
    (∀ (perf : PerfEvents) (tctx : SampleCtx) (now : Nat),
      ((sampleSliceMetrics perf tctx now).1 = false →
        (sampleSliceMetrics perf tctx now).2.metrics = tctx.metrics) ↔
        ¬ TornSample perf tctx now) ∧
    ∀ state, TaskReaches cfg cpuDomainMap (SamplesWhole cfg cpuDomainMap) state → RunSummed state :=
  ⟨fun _ _ _ => sampleSliceMetrics_unchanged_iff, fun _ => runSummed_of_reaches⟩

/-! ## A torn sample -/

/-- Counters that all stand at one value, on every CPU. -/
def steadyPerf (counter : Nat) : PerfEvents where
  localCcx _ := some counter
  nearCache _ := some counter
  dramNear _ := some counter
  instructions _ := some counter
  cpuCycles _ := some counter

def sampledTick : TickConfig where
  enableTickResched := true
  enableBpfStayFastpath := true
  tickReevalEvery := 4
  l2NeedMibSX100 := 51200
  llcStaleNs := 100000000
  dfStaleNs := 100000000

def sampledTask : TaskView := { pid := 7, tgid := 7, nrCpusAllowed := 2, cpusPtr := .ofList [0, 1] }

/-- A slice of one millisecond on CPU 0. -/
def sliceStart : TaskCall := { task := sampledTask, now := 1000, hook := .running 0 (steadyPerf 0) }

def sliceEnd (perf : PerfEvents) : TaskCall :=
  { task := sampledTask, now := 1001000, hook := .stopping 0 perf }

def slice (perf : PerfEvents) : TaskRun :=
  taskStep sampledTick [0, 0] (taskStep sampledTick [0, 0] {} sliceStart) (sliceEnd perf)

/-- The second source cannot be read at the end of the slice. -/
def failingPerf : PerfEvents := { steadyPerf 1000 with nearCache := fun _ => none }

theorem readFillCounter_steadyPerf (counter : Nat) {cpu : Nat} (known : cpu < maxCpus)
    (idx : Fin memSourceCount) : (steadyPerf counter).readFillCounter cpu idx = some counter := by
  obtain ⟨place, bound⟩ := idx
  have read : readCounter (fun _ => some counter) cpu = some counter :=
    if_neg (Nat.not_le.mpr known)
  match place with
  | 0 => exact read
  | 1 => exact read
  | 2 => exact read
  | _ + 3 => exact absurd bound (by simp [memSourceCount])

/-- Five counters that advance by a thousand: the sample is whole. -/
theorem sampling_atomic_iff_steady :
    RunSummed (slice (steadyPerf 1000)) ∧
      (slice (steadyPerf 1000)).tctx.lastL2BwMibSX100 = 18309 := by
  constructor
  · apply (sampling_atomic_iff sampledTick [0, 0]).2
    refine .step (.step .init ?_) ?_
    · intro cpu perf starts
      cases starts
    · intro cpu perf stops _ torn
      obtain ⟨rfl, rfl⟩ := TaskHook.stopping.inj stops
      have advanced : ∀ idx, ((taskStep sampledTick [0, 0] {} sliceStart).tctx.beforeSample [0, 0] 0
          1001000).runStartFillCtr.get idx ≤ 1000 := by decide +kernel
      obtain ⟨failing, torn, _⟩ := torn
      apply torn.fails
      exact ⟨1000, readFillCounter_steadyPerf 1000 (by decide) failing, advanced failing⟩
  · decide +kernel

theorem sampling_torn :
    ¬ (∀ (perf : PerfEvents) (tctx : SampleCtx) (now : Nat),
      (sampleSliceMetrics perf tctx now).1 = false →
        (sampleSliceMetrics perf tctx now).2.metrics = tctx.metrics) ∧
    ¬ (∀ (cfg : TickConfig) (cpuDomainMap : List Nat) (state : TaskRun),
      TaskReaches cfg cpuDomainMap (fun _ _ => True) state → FillsSummed state.tctx) := by
  constructor
  · intro always
    have same := always failingPerf
      ((taskStep sampledTick [0, 0] {} sliceStart).tctx.beforeSample [0, 0] 0 1001000) 1001000
      (by decide +kernel)
    revert same
    decide +kernel
  · intro always
    have summed := always sampledTick [0, 0] (slice failingPerf)
      (.step (.step .init trivial) trivial)
    revert summed
    unfold FillsSummed
    decide +kernel

end CSwitch.Bpf
