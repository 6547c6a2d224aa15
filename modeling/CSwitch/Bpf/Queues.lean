import CSwitch.Bpf.Tick
import CSwitch.Library.CountedQueues

/-! The dispatch queues of the BPF side and the queue depth of every CPU:
`rustland_select_cpu`, `rustland_enqueue`, `dispatch_task` and
`rustland_dispatch`. -/

set_option autoImplicit false

namespace CSwitch.Bpf

open Std (TreeSet)
open Library

def sharedDsq : Nat := maxCpus
def schedDsq : Nat := maxCpus + 1
def eBusy : Int := 16
def pfKcompactd : Nat := 65536
def pfKswapd : Nat := 131072

/-- The read-only data that the queue callbacks use besides that of the tick. -/
structure QueueConfig extends TickConfig where
  khugepagedPid : Nat := 0
  builtinIdle : Bool := false
  smtEnabled : Bool := true
  nrCpuIds : Nat
  scxWakeTtwu : Nat := 8

/-- What the kernel answers during one callback. Every helper that changes the
kernel's state is asked at most once in it. -/
structure KernelView where
  maps : TickMaps := {}
  smpProcessorId : Int := 0
  taskCpu : Int := 0
  cpuLlcId : Int → Int := fun _ => 0
  cpuPriority : Int → Int := fun _ => 0
  idleSmtmask : Int → Bool := fun _ => true
  testAndClearCpuIdle : Int → Bool := fun _ => false
  selectCpuDfl : Int → Nat → Int × Bool := fun cpu _ => (cpu, false)
  selectCpuAnd : Option (Int → Nat → Int) := none
  enqCpuSelected : Bool := false
  taskRunning : Bool := false
  hasTaskCtx : Bool := true
  ringbufFull : Bool := false

/-! ## The queues -/

/-- The pids in every dispatch queue, in the order of their insertion, and
`cpu_dsq_depth` of every CPU. -/
abbrev QueueState := CountedQueues Nat Nat

def QueueState.dsqInsertVtime (state : QueueState) (task : TaskStruct) (dsq : Nat) : QueueState :=
  state.insert dsq task.pid

def QueueState.dsqNrQueued (state : QueueState) (dsq : Nat) : Nat := (state.queues dsq).length

def QueueState.dsqMoveToLocal (state : QueueState) (dsq : Nat) : Bool × QueueState := state.pop dsq

/-- The CPU comes as a `u32`, so a negative one is out of range too. -/
def lookupCpuState (cpu : Int) : Option Nat :=
  (tryU32 cpu).filter fun index => decide (index < maxCpus)

def QueueState.adjustCpuDsqDepth (state : QueueState) (cpu delta : Int) : QueueState :=
  match lookupCpuState cpu with
  | none => state
  | some index =>
      let depth := state.counts index
      let depth :=
        if 0 ≤ delta then (depth + delta.toNat) % (u32Max + 1)
        else depth - min depth (-delta).toNat
      { state with counts := Function.update state.counts index depth }

def cpuToDsq (cpu : Int) : Nat :=
  if cpu < 0 ∨ (maxCpus : Int) ≤ cpu then sharedDsq else cpu.toNat

/-! ## The choice of an idle CPU -/

def isKswapd (task : TaskStruct) : Bool := task.flags &&& (pfKswapd ||| pfKcompactd) != 0

def isKhugepaged (cfg : QueueConfig) (task : TaskStruct) : Bool :=
  cfg.khugepagedPid != 0 && task.pid == cfg.khugepagedPid

def cpusShareCache (kernel : KernelView) (thisCpu thatCpu : Int) : Bool :=
  thisCpu == thatCpu || kernel.cpuLlcId thisCpu == kernel.cpuLlcId thatCpu

def isCpuFaster (kernel : KernelView) (thisCpu thatCpu : Int) : Bool :=
  thisCpu != thatCpu && decide (kernel.cpuPriority thisCpu > kernel.cpuPriority thatCpu)

def isSmtIdle (cfg : QueueConfig) (kernel : KernelView) (cpu : Int) : Bool :=
  !cfg.smtEnabled || kernel.idleSmtmask cpu

def isWakeup (cfg : QueueConfig) (wakeFlags : Nat) : Bool := wakeFlags &&& cfg.scxWakeTtwu != 0

def pickIdleCpu (cfg : QueueConfig) (kernel : KernelView) (task : TaskStruct) (prevCpu : Int)
    (wakeFlags : Nat) : Int :=
  let thisCpu := kernel.smpProcessorId
  if task.nrCpusAllowed = 1 then
    if kernel.testAndClearCpuIdle prevCpu then prevCpu else -eBusy
  else
    let closer := isWakeup cfg wakeFlags && isCpuFaster kernel thisCpu prevCpu &&
      task.allows thisCpu
    if closer && cpusShareCache kernel thisCpu prevCpu && isSmtIdle cfg kernel prevCpu &&
        kernel.testAndClearCpuIdle prevCpu then prevCpu
    else
      let prevCpu := if closer then thisCpu else prevCpu
      match kernel.selectCpuAnd with
      | none =>
          if wakeFlags = 0 then -eBusy
          else
            let (cpu, isIdle) := kernel.selectCpuDfl prevCpu wakeFlags
            if isIdle then cpu else -eBusy
      | some selectCpuAnd => selectCpuAnd prevCpu wakeFlags

def canDirectDispatch (state : QueueState) (cpu : Int) : Bool :=
  state.dsqNrQueued sharedDsq == 0 && state.dsqNrQueued (cpuToDsq cpu) == 0

/-- `bpf_cpumask_first(p->cpus_ptr)`. -/
def TaskStruct.firstCpu (cfg : QueueConfig) (task : TaskStruct) : Int :=
  task.cpusPtr.toList.head?.getD cfg.nrCpuIds

def usablePrevCpu (cfg : QueueConfig) (kernel : KernelView) (task : TaskStruct) (prevCpu : Int) :
    Int :=
  if task.allows prevCpu then prevCpu
  else if task.allows kernel.smpProcessorId then kernel.smpProcessorId
  else task.firstCpu cfg

def rustlandSelectCpu (cfg : QueueConfig) (kernel : KernelView) (task : TaskStruct) (prevCpu : Int)
    (wakeFlags : Nat) (state : QueueState) : Int × QueueState :=
  let prevCpu := usablePrevCpu cfg kernel task prevCpu
  if isUserschedTask cfg.toTickConfig task then (prevCpu, state)
  else if !cfg.builtinIdle then (prevCpu, state)
  else
    let cpu := pickIdleCpu cfg kernel task prevCpu wakeFlags
    if 0 ≤ cpu then
      if canDirectDispatch state cpu then (cpu, state.dsqInsertVtime task (cpuToDsq cpu))
      else (cpu, state)
    else (prevCpu, state)

/-! ## A task becomes ready -/

/-- A task whose message fits into the ring buffer waits in user space. -/
def queueTaskToUserspace (kernel : KernelView) (task : TaskStruct) (state : QueueState) :
    QueueState :=
  if !kernel.hasTaskCtx then state
  else if kernel.ringbufFull then state.dsqInsertVtime task sharedDsq
  else state

def isQueuedWakeup (kernel : KernelView) : Bool := !kernel.enqCpuSelected && !kernel.taskRunning

def rustlandEnqueue (cfg : QueueConfig) (kernel : KernelView) (task : TaskStruct)
    (state : QueueState) : QueueState :=
  let prevCpu := kernel.taskCpu
  if isUserschedTask cfg.toTickConfig task then state.dsqInsertVtime task schedDsq
  else if isInternalTask kernel.maps task then
    let prevCpu := if prevCpu < 0 then task.firstCpu cfg else prevCpu
    state.dsqInsertVtime task (cpuToDsq prevCpu)
  else if task.nrCpusAllowed = 1 then state.dsqInsertVtime task (cpuToDsq (task.firstCpu cfg))
  else if isKswapd task || isKhugepaged cfg task then
    state.dsqInsertVtime task (cpuToDsq prevCpu)
  else if !(cfg.builtinIdle && isQueuedWakeup kernel) then queueTaskToUserspace kernel task state
  else
    let cpu := pickIdleCpu cfg kernel task prevCpu 0
    if cpu < 0 then queueTaskToUserspace kernel task state
    else if !canDirectDispatch state cpu then queueTaskToUserspace kernel task state
    else if !task.allows cpu then state
    else state.dsqInsertVtime task (cpuToDsq cpu)

/-! ## A task comes back from user space -/

/-- The CPU for a message that names one; a CPU that the task may not use is
replaced by the one it ran on. -/
def dispatchCpu (kernel : KernelView) (task : TaskStruct) (message : DispatchedTask) : Int :=
  if task.allows message.cpu then message.cpu else kernel.taskCpu

/-- `dispatch_task`, with the task that `bpf_task_from_pid` finds. Without a task
context the insert is cancelled. -/
def dispatchTask (kernel : KernelView) (found : Option TaskStruct) (message : DispatchedTask)
    (state : QueueState) : QueueState :=
  match found with
  | none => state
  | some task =>
      if message.cpu = rlCpuAny then state.dsqInsertVtime task sharedDsq
      else
        let cpu := dispatchCpu kernel task message
        if !kernel.hasTaskCtx then state
        else
          let inserted := state.dsqInsertVtime task (cpuToDsq cpu)
          if 0 ≤ cpu then inserted.adjustCpuDsqDepth cpu 1 else inserted

/-- `rustland_dispatch` after the ring buffer is drained. -/
def consumeNext (cfg : QueueConfig) (pending : Bool) (cpu : Int) (state : QueueState) :
    QueueState :=
  let (scheduler, moved) := state.dsqMoveToLocal schedDsq
  if cfg.userschedPid != 0 && pending && scheduler then moved
  else
    let (own, moved) := state.dsqMoveToLocal (cpuToDsq cpu)
    if own then moved.adjustCpuDsqDepth cpu (-1)
    else (state.dsqMoveToLocal sharedDsq).2

/-- A message that the callback drains, with the task and the kernel it meets. -/
structure DrainedTask where
  kernel : KernelView
  found : Option TaskStruct
  message : DispatchedTask

def rustlandDispatch (cfg : QueueConfig) (pending : Bool) (cpu : Int) (drained : List DrainedTask)
    (state : QueueState) : QueueState :=
  consumeNext cfg pending cpu <|
    drained.foldl (fun state entry => dispatchTask entry.kernel entry.found entry.message state) state

end CSwitch.Bpf
