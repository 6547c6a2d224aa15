import CSwitch.Bpf.Queues
import CSwitch.Library.FoldPrefix

/-! The queue depth of a CPU against its dispatch queue. Only `dispatch_task`
counts what it inserts and only `rustland_dispatch` counts what leaves, so the
depth is right exactly as long as nothing is dispatched directly. -/

set_option autoImplicit false

namespace CSwitch.Bpf

open Std (TreeSet)
open Library

/-- The depth of every CPU is the number of tasks in its dispatch queue. -/
def DepthTruthful (state : QueueState) : Prop := state.Truthful (Set.Iio maxCpus)

/-! ## The two counters -/

theorem sharedDsq_notMem : sharedDsq ∉ Set.Iio maxCpus := by
  simp [sharedDsq]

theorem schedDsq_notMem : schedDsq ∉ Set.Iio maxCpus := by
  simp [schedDsq]

/-- The CPUs with a queue and a counter of their own. -/
def HasQueue (cpu : Int) : Prop := 0 ≤ cpu ∧ cpu < maxCpus

theorem cpuToDsq_mem_iff {cpu : Int} : cpuToDsq cpu ∈ Set.Iio maxCpus ↔ HasQueue cpu := by
  unfold cpuToDsq HasQueue
  by_cases range : cpu < 0 ∨ (maxCpus : Int) ≤ cpu
  · rw [if_pos range]
    exact ⟨fun member => absurd member sharedDsq_notMem, fun inside => by omega⟩
  · rw [if_neg range, Set.mem_Iio]
    omega

/-- The counter and the queue of a CPU have the same index, or the CPU has
neither. -/
theorem lookupCpuState_cases (cpu : Int) :
    (HasQueue cpu ∧ lookupCpuState cpu = some (cpuToDsq cpu)) ∨
      (¬ HasQueue cpu ∧ lookupCpuState cpu = none) := by
  unfold lookupCpuState cpuToDsq tryU32 HasQueue
  by_cases negative : cpu < 0
  · right
    rw [if_neg (by omega)]
    exact ⟨by omega, rfl⟩
  · rw [if_pos (by omega), Option.filter_some]
    by_cases large : (maxCpus : Int) ≤ cpu
    · right
      rw [if_neg (by simp; omega)]
      exact ⟨by omega, rfl⟩
    · left
      rw [if_pos (by simp; omega), if_neg (by omega)]
      exact ⟨by omega, rfl⟩

section Counting

variable {state : QueueState} {task : TaskStruct} {cpu : Int}

theorem depthTruthful_insert_iff {dsq : Nat} (held : DepthTruthful state) :
    DepthTruthful (state.dsqInsertVtime task dsq) ↔ dsq ∉ Set.Iio maxCpus :=
  CountedQueues.truthful_insert_iff held

theorem adjustCpuDsqDepth_up (known : lookupCpuState cpu = some (cpuToDsq cpu)) :
    state.adjustCpuDsqDepth cpu 1 = state.countUp (u32Max + 1) (cpuToDsq cpu) := by
  unfold QueueState.adjustCpuDsqDepth
  rw [known]
  rfl

theorem adjustCpuDsqDepth_down (known : lookupCpuState cpu = some (cpuToDsq cpu)) :
    state.adjustCpuDsqDepth cpu (-1) = state.countDown (cpuToDsq cpu) := by
  have least : ∀ depth : Nat, depth - min depth 1 = depth - 1 := by
    intro depth
    omega
  unfold QueueState.adjustCpuDsqDepth
  rw [known]
  simp only [Left.nonneg_neg_iff]
  exact congrArg (fun depth => { state with
    counts := Function.update state.counts (cpuToDsq cpu) depth }) (least _)

theorem adjustCpuDsqDepth_unknown (delta : Int) (unknown : lookupCpuState cpu = none) :
    state.adjustCpuDsqDepth cpu delta = state := by
  unfold QueueState.adjustCpuDsqDepth
  rw [unknown]

/-- A task inserted by `dispatch_task`: its CPU counts it, up to a wrap. -/
theorem depthTruthful_dispatch_iff (held : DepthTruthful state) :
    DepthTruthful (if 0 ≤ cpu then (state.dsqInsertVtime task (cpuToDsq cpu)).adjustCpuDsqDepth cpu 1
      else state.dsqInsertVtime task (cpuToDsq cpu)) ↔
      (HasQueue cpu → state.dsqNrQueued (cpuToDsq cpu) < u32Max) := by
  rcases lookupCpuState_cases cpu with ⟨owned, known⟩ | ⟨foreign, unknown⟩
  · rw [if_pos owned.1, adjustCpuDsqDepth_up known]
    refine (CountedQueues.truthful_countUp_insert_iff held (Nat.succ_ne_zero _)).trans ?_
    exact imp_congr cpuToDsq_mem_iff Nat.succ_lt_succ_iff
  · rw [adjustCpuDsqDepth_unknown 1 unknown, ite_self, depthTruthful_insert_iff held,
      cpuToDsq_mem_iff]
    exact ⟨fun _ owned => absurd owned foreign, fun _ => foreign⟩

theorem depthTruthful_consumeNext (cfg : QueueConfig) (pending : Bool) (cpu : Int)
    (held : DepthTruthful state) : DepthTruthful (consumeNext cfg pending cpu state) := by
  unfold consumeNext
  dsimp only
  split
  · exact CountedQueues.truthful_pop_of_notMem held schedDsq_notMem
  · split
    next own =>
      rcases lookupCpuState_cases cpu with ⟨_, known⟩ | ⟨foreign, unknown⟩
      · rw [adjustCpuDsqDepth_down known]
        exact CountedQueues.truthful_countDown_pop held own
      · rw [adjustCpuDsqDepth_unknown (-1) unknown]
        exact CountedQueues.truthful_pop_of_notMem held (mt cpuToDsq_mem_iff.mp foreign)
    next => exact CountedQueues.truthful_pop_of_notMem held sharedDsq_notMem

theorem depthTruthful_queueTaskToUserspace (kernel : KernelView) (held : DepthTruthful state) :
    DepthTruthful (queueTaskToUserspace kernel task state) := by
  unfold queueTaskToUserspace
  split
  · exact held
  · split
    · exact (depthTruthful_insert_iff held).mpr sharedDsq_notMem
    · exact held

end Counting

/-! ## The direct dispatches -/

/-- When `rustland_select_cpu` puts the task into a queue itself. -/
structure SelectsDirectly (cfg : QueueConfig) (kernel : KernelView) (task : TaskStruct)
    (prevCpu : Int) (wakeFlags : Nat) (state : QueueState) (cpu : Int) : Prop where
  managed : isUserschedTask cfg.toTickConfig task = false
  builtin : cfg.builtinIdle = true
  picked : cpu =
    pickIdleCpu cfg kernel task (usablePrevCpu cfg kernel task prevCpu) wakeFlags
  idle : 0 ≤ cpu
  free : canDirectDispatch state cpu = true

/-- When `rustland_enqueue` puts the task into the queue of a CPU itself. -/
inductive EnqueuesDirectly (cfg : QueueConfig) (kernel : KernelView) (task : TaskStruct)
    (state : QueueState) : Int → Prop where
  | internal : isUserschedTask cfg.toTickConfig task = false →
      isInternalTask kernel.maps task = true →
      EnqueuesDirectly cfg kernel task state
        (if kernel.taskCpu < 0 then task.firstCpu cfg else kernel.taskCpu)
  | pinned : isUserschedTask cfg.toTickConfig task = false →
      isInternalTask kernel.maps task = false → task.nrCpusAllowed = 1 →
      EnqueuesDirectly cfg kernel task state (task.firstCpu cfg)
  | kernelThread : isUserschedTask cfg.toTickConfig task = false →
      isInternalTask kernel.maps task = false → task.nrCpusAllowed ≠ 1 →
      (isKswapd task || isKhugepaged cfg task) = true →
      EnqueuesDirectly cfg kernel task state kernel.taskCpu
  | idle {cpu : Int} : isUserschedTask cfg.toTickConfig task = false →
      isInternalTask kernel.maps task = false → task.nrCpusAllowed ≠ 1 →
      (isKswapd task || isKhugepaged cfg task) = false →
      (cfg.builtinIdle && isQueuedWakeup kernel) = true →
      cpu = pickIdleCpu cfg kernel task kernel.taskCpu 0 → 0 ≤ cpu →
      canDirectDispatch state cpu = true → task.allows cpu = true →
      EnqueuesDirectly cfg kernel task state cpu

section Direct

variable {cfg : QueueConfig} {kernel : KernelView} {task : TaskStruct} {state : QueueState}

theorem EnqueuesDirectly.unique {cpu other : Int}
    (here : EnqueuesDirectly cfg kernel task state cpu)
    (there : EnqueuesDirectly cfg kernel task state other) : cpu = other := by
  cases here <;> cases there <;> simp_all

theorem rustlandSelectCpu_cases (cfg : QueueConfig) (kernel : KernelView) (task : TaskStruct)
    (prevCpu : Int) (wakeFlags : Nat) (state : QueueState) :
    (∃ cpu, SelectsDirectly cfg kernel task prevCpu wakeFlags state cpu ∧
      (rustlandSelectCpu cfg kernel task prevCpu wakeFlags state).2 =
        state.dsqInsertVtime task (cpuToDsq cpu)) ∨
    ((∀ cpu, ¬ SelectsDirectly cfg kernel task prevCpu wakeFlags state cpu) ∧
      (rustlandSelectCpu cfg kernel task prevCpu wakeFlags state).2 = state) := by
  unfold rustlandSelectCpu
  dsimp only
  split
  next scheduler => exact .inr ⟨fun cpu direct => by simp [direct.managed] at scheduler, rfl⟩
  next managed =>
    split
    next off => exact .inr ⟨fun cpu direct => by simp [direct.builtin] at off, rfl⟩
    next builtin =>
      split
      next idle =>
        split
        next free =>
          exact .inl ⟨_, ⟨by simpa using managed, by simpa using builtin, rfl, idle, free⟩, rfl⟩
        next busy =>
          refine .inr ⟨?_, rfl⟩
          rintro cpu ⟨_, _, rfl, _, free⟩
          exact busy free
      next busy =>
        refine .inr ⟨?_, rfl⟩
        rintro cpu ⟨_, _, rfl, idle, _⟩
        exact busy idle

theorem depthTruthful_selectCpu_iff {prevCpu : Int} {wakeFlags : Nat}
    (held : DepthTruthful state) :
    DepthTruthful (rustlandSelectCpu cfg kernel task prevCpu wakeFlags state).2 ↔
      ∀ cpu, SelectsDirectly cfg kernel task prevCpu wakeFlags state cpu → ¬ HasQueue cpu := by
  rcases rustlandSelectCpu_cases cfg kernel task prevCpu wakeFlags state with
    ⟨cpu, direct, result⟩ | ⟨never, result⟩
  · rw [result, depthTruthful_insert_iff held, cpuToDsq_mem_iff]
    constructor
    · intro foreign other selected
      rwa [selected.picked, ← direct.picked]
    · intro foreign
      exact foreign cpu direct
  · rw [result]
    exact ⟨fun _ cpu direct => absurd direct (never cpu), fun _ => held⟩

/-- An ordinary task is enqueued directly when the waker left its choice open and
an idle CPU is free. -/
theorem rustlandEnqueue_ordinary (scheduler : isUserschedTask cfg.toTickConfig task = false)
    (internal : isInternalTask kernel.maps task = false) (several : task.nrCpusAllowed ≠ 1)
    (thread : (isKswapd task || isKhugepaged cfg task) = false) :
    (∃ cpu, EnqueuesDirectly cfg kernel task state cpu ∧
      rustlandEnqueue cfg kernel task state = state.dsqInsertVtime task (cpuToDsq cpu)) ∨
    ((∀ cpu, ¬ EnqueuesDirectly cfg kernel task state cpu) ∧
      (rustlandEnqueue cfg kernel task state = queueTaskToUserspace kernel task state ∨
        rustlandEnqueue cfg kernel task state = state)) := by
  unfold rustlandEnqueue
  rw [scheduler, internal, thread]
  simp only [Bool.false_eq_true, if_false, several]
  split
  next closed =>
    refine .inr ⟨fun cpu direct => ?_, .inl rfl⟩
    cases direct <;> simp_all
  next wakeup =>
    split
    next busy =>
      refine .inr ⟨fun cpu direct => ?_, .inl rfl⟩
      cases direct with
      | internal _ helper => simp [internal] at helper
      | pinned _ _ single => exact several single
      | kernelThread _ _ _ kernelTask => simp [thread] at kernelTask
      | idle _ _ _ _ _ picked idle => omega
    next idle =>
      split
      next full =>
        refine .inr ⟨fun cpu direct => ?_, .inl rfl⟩
        cases direct <;> simp_all
      next free =>
        split
        next denied =>
          refine .inr ⟨fun cpu direct => ?_, .inr rfl⟩
          cases direct <;> simp_all
        next allowed =>
          exact .inl ⟨_, .idle scheduler internal several thread (by simpa using wakeup) rfl
            (not_lt.mp idle) (by simpa using free) (by simpa using allowed), rfl⟩

/-- A task enqueued without a direct dispatch goes to a queue that is not
counted, or nowhere. -/
theorem rustlandEnqueue_cases (cfg : QueueConfig) (kernel : KernelView) (task : TaskStruct)
    (state : QueueState) :
    (∃ cpu, EnqueuesDirectly cfg kernel task state cpu ∧
      rustlandEnqueue cfg kernel task state = state.dsqInsertVtime task (cpuToDsq cpu)) ∨
    ((∀ cpu, ¬ EnqueuesDirectly cfg kernel task state cpu) ∧
      (DepthTruthful state → DepthTruthful (rustlandEnqueue cfg kernel task state))) := by
  cases scheduler : isUserschedTask cfg.toTickConfig task with
  | true =>
      refine .inr ⟨fun cpu direct => by cases direct <;> simp_all, fun held => ?_⟩
      unfold rustlandEnqueue
      rw [if_pos scheduler]
      exact (depthTruthful_insert_iff held).mpr schedDsq_notMem
  | false =>
      cases internal : isInternalTask kernel.maps task with
      | true =>
          refine .inl ⟨_, .internal scheduler internal, ?_⟩
          simp [rustlandEnqueue, scheduler, internal]
      | false =>
          by_cases pinned : task.nrCpusAllowed = 1
          · refine .inl ⟨_, .pinned scheduler internal pinned, ?_⟩
            simp [rustlandEnqueue, scheduler, internal, pinned]
          cases thread : isKswapd task || isKhugepaged cfg task with
          | true =>
              refine .inl ⟨_, .kernelThread scheduler internal pinned thread, ?_⟩
              simp only [rustlandEnqueue, scheduler, internal, pinned, thread, if_true, if_false,
                Bool.false_eq_true]
          | false =>
              rcases rustlandEnqueue_ordinary scheduler internal pinned thread with
                direct | ⟨never, toUserspace | unchanged⟩
              · exact .inl direct
              · refine .inr ⟨never, fun held => ?_⟩
                rw [toUserspace]
                exact depthTruthful_queueTaskToUserspace kernel held
              · refine .inr ⟨never, fun held => ?_⟩
                rw [unchanged]
                exact held

theorem depthTruthful_enqueue_iff (held : DepthTruthful state) :
    DepthTruthful (rustlandEnqueue cfg kernel task state) ↔
      ∀ cpu, EnqueuesDirectly cfg kernel task state cpu → ¬ HasQueue cpu := by
  rcases rustlandEnqueue_cases cfg kernel task state with ⟨cpu, direct, result⟩ | ⟨never, result⟩
  · rw [result, depthTruthful_insert_iff held, cpuToDsq_mem_iff]
    constructor
    · intro foreign other enqueued
      rwa [enqueued.unique direct]
    · intro foreign
      exact foreign cpu direct
  · exact ⟨fun _ cpu direct => absurd direct (never cpu), fun _ => result held⟩

end Direct

/-! ## A message from user space -/

/-- When `dispatch_task` puts a task into a queue and counts it. -/
structure DispatchesTo (entry : DrainedTask) (task : TaskStruct) (cpu : Int) : Prop where
  found : entry.found = some task
  named : entry.message.cpu ≠ rlCpuAny
  context : entry.kernel.hasTaskCtx = true
  target : cpu = dispatchCpu entry.kernel task entry.message

theorem depthTruthful_dispatchTask_iff {entry : DrainedTask} {state : QueueState}
    (held : DepthTruthful state) :
    DepthTruthful (dispatchTask entry.kernel entry.found entry.message state) ↔
      ∀ task cpu, DispatchesTo entry task cpu → HasQueue cpu →
        state.dsqNrQueued (cpuToDsq cpu) < u32Max := by
  unfold dispatchTask
  cases found : entry.found with
  | none => exact ⟨fun _ task cpu sent => by simp [sent.found] at found, fun _ => held⟩
  | some task =>
      dsimp only
      split
      next anywhere =>
        exact ⟨fun _ _ _ sent => absurd anywhere sent.named,
          fun _ => (depthTruthful_insert_iff held).mpr sharedDsq_notMem⟩
      next named =>
        split
        next stranger => exact ⟨fun _ _ _ sent => by simp [sent.context] at stranger, fun _ => held⟩
        next context =>
          rw [depthTruthful_dispatch_iff held]
          constructor
          · rintro room other cpu ⟨_, _, _, rfl⟩
            obtain rfl : task = other := by simp_all
            exact room
          · intro room
            exact room task _ ⟨found, named, by simpa using context, rfl⟩

/-! ## Runs -/

/-- The callbacks that touch the queues; a `rustland_dispatch` that drains
messages is their `dispatchTask` calls and then a `dispatch`. -/
inductive QueueCall where
  | selectCpu (kernel : KernelView) (task : TaskStruct) (prevCpu : Int) (wakeFlags : Nat)
  | enqueue (kernel : KernelView) (task : TaskStruct)
  | dispatchTask (entry : DrainedTask)
  | dispatch (pending : Bool) (cpu : Int)

def queueStep (cfg : QueueConfig) (state : QueueState) : QueueCall → QueueState
  | .selectCpu kernel task prevCpu wakeFlags =>
      (rustlandSelectCpu cfg kernel task prevCpu wakeFlags state).2
  | .enqueue kernel task => rustlandEnqueue cfg kernel task state
  | .dispatchTask entry => dispatchTask entry.kernel entry.found entry.message state
  | .dispatch pending cpu => rustlandDispatch cfg pending cpu [] state

def queueRun (cfg : QueueConfig) (calls : List QueueCall) : QueueState :=
  calls.foldl (queueStep cfg) CountedQueues.empty

theorem rustlandDispatch_eq (cfg : QueueConfig) (pending : Bool) (cpu : Int)
    (drained : List DrainedTask) (state : QueueState) :
    rustlandDispatch cfg pending cpu drained state =
      (drained.map QueueCall.dispatchTask ++ [QueueCall.dispatch pending cpu]).foldl (queueStep cfg)
        state := by
  rw [List.foldl_append, List.foldl_map]
  rfl

/-- No direct dispatch into the queue of a CPU, and no counter at its limit. -/
def QueueCall.Counted (cfg : QueueConfig) (state : QueueState) : QueueCall → Prop
  | .selectCpu kernel task prevCpu wakeFlags =>
      ∀ cpu, SelectsDirectly cfg kernel task prevCpu wakeFlags state cpu → ¬ HasQueue cpu
  | .enqueue kernel task => ∀ cpu, EnqueuesDirectly cfg kernel task state cpu → ¬ HasQueue cpu
  | .dispatchTask entry => ∀ task cpu, DispatchesTo entry task cpu → HasQueue cpu →
      state.dsqNrQueued (cpuToDsq cpu) < u32Max
  | .dispatch _ _ => True

theorem depthTruthful_queueStep_iff (cfg : QueueConfig) (state : QueueState) (call : QueueCall)
    (held : DepthTruthful state) :
    DepthTruthful (queueStep cfg state call) ↔ call.Counted cfg state := by
  cases call with
  | selectCpu kernel task prevCpu wakeFlags => exact depthTruthful_selectCpu_iff held
  | enqueue kernel task => exact depthTruthful_enqueue_iff held
  | dispatchTask entry => exact depthTruthful_dispatchTask_iff held
  | dispatch pending cpu =>
      exact iff_of_true (depthTruthful_consumeNext cfg pending cpu held) trivial

/-- The depths are truthful all along a run exactly when every step counts. A
`rustland_dispatch` that drains messages is a run of such steps. -/
theorem queueRun_truthful_iff (cfg : QueueConfig) (calls : List QueueCall) :
    ((∀ done, done <+: calls → ∀ cpu < maxCpus,
      (queueRun cfg done).counts cpu = ((queueRun cfg done).queues cpu).length) ↔
      ∀ done call, done ++ [call] <+: calls → call.Counted cfg (queueRun cfg done)) ∧
    ∀ pending cpu drained, rustlandDispatch cfg pending cpu drained (queueRun cfg calls) =
      queueRun cfg (calls ++ (drained.map QueueCall.dispatchTask ++
        [QueueCall.dispatch pending cpu])) := by
  constructor
  · exact foldl_prefixes_iff CountedQueues.truthful_empty fun _ call _ held =>
      depthTruthful_queueStep_iff cfg _ call held
  · intro pending cpu drained
    rw [rustlandDispatch_eq]
    exact List.foldl_append.symm

/-- A task bound to one CPU that becomes ready. -/
def pinnedWakeup : QueueCall :=
  .enqueue {} {
    pid := 7
    tgid := 7
    nrCpusAllowed := 1
    cpusPtr := .ofList [0] }

def quietQueueConfig : QueueConfig where
  enableTickResched := true
  enableBpfStayFastpath := true
  tickReevalEvery := 4
  l2NeedMibSX100 := 300000
  llcStaleNs := 100000000
  dfStaleNs := 100000000
  nrCpuIds := 16

/-- The pinned task waits for CPU 0, whose depth is still zero. -/
theorem queueRun_pinned_uncounted :
    ¬ (∀ cpu < maxCpus, (queueRun quietQueueConfig [pinnedWakeup]).counts cpu =
        ((queueRun quietQueueConfig [pinnedWakeup]).queues cpu).length) ∧
      (queueRun quietQueueConfig [pinnedWakeup]).counts 0 = 0 ∧
      (queueRun quietQueueConfig [pinnedWakeup]).queues 0 = [7] := by
  have waiting : (queueRun quietQueueConfig [pinnedWakeup]).queues 0 = [7] := by decide +kernel
  refine ⟨fun told => ?_, rfl, waiting⟩
  have depth := told 0 (by decide)
  rw [waiting] at depth
  cases depth

end CSwitch.Bpf
