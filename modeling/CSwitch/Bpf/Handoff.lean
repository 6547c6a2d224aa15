import CSwitch.Library.WorkRound

/-! The handoff of tasks between the kernel and the scheduler in user space: the
ring buffers `queued` and `dispatched`, the flags that decide when the scheduler
runs, and the main loop as the thread that the kernel runs or keeps waiting. The
callbacks of all CPUs and the loop interleave at every point. -/

set_option autoImplicit false

namespace CSwitch.Bpf

open Library

def maxEnqueuedTasks : Nat := 4096
def maxDispatchSlot : Nat := maxEnqueuedTasks / 8

/-! ## The ring buffer of dispatched tasks -/

/-- `bpf_user_ringbuf_drain` with `handle_dispatched_task`. A message that is
inserted into a queue uses a slot. -/
def drainDispatched {α : Type} (inserts : α → Bool) : (slots : Nat) → List α → List α × List α
  | _, [] => ([], [])
  | slots, task :: rest =>
      let slots := if inserts task then slots - 1 else slots
      -- `!!scx_bpf_dispatch_nr_slots()` is 1, and ends the drain, while slots are left
      if slots ≠ 0 then ([task], rest)
      else
        let (drained, left) := drainDispatched inserts slots rest
        (task :: drained, left)

/-! ## The two parties -/

/-- Where the main loop is: in the `dequeue_task` loop, in the dispatch loop, at
its end, or asleep for the stall filler. -/
inductive LoopPoint where
  | top
  | draining
  | publishing
  | dispatching
  | notifying
  | yielding
  | sleeping
  | releasing
  | republishing
deriving DecidableEq

/-- The thread of the scheduler. While it waits it is in the queue `SCHED_DSQ`. -/
inductive ThreadStatus where
  | onCpu
  | waiting
  | blocked
deriving DecidableEq

/-- What went through the channels so far. -/
structure HandoffHistory (τ ρ : Type) where
  submitted : List τ := []
  received : List τ := []
  sent : List (τ × ρ) := []
  drained : List (τ × ρ) := []
  dropped : List τ := []
  /-- The number of calls of `rustland_dispatch`. -/
  callbacks : Nat := 0
  /-- The calls of `usersched_has_pending_tasks`, and those that found nothing. -/
  tests : Nat := 0
  missed : Nat := 0

structure HandoffConfig where
  /-- How many messages the rings hold. -/
  queuedRoom : Nat
  dispatchedRoom : Nat
  /-- The feature `stall-filler-spinner`. -/
  stallFiller : Bool := false

structure Handoff (τ ρ : Type) where
  queued : List τ := []
  dispatched : List (τ × ρ) := []
  userschedNeeded : Bool := false
  nrScheduled : Nat := 0
  /-- The CPUs in `usersched_has_pending_tasks`: before the read of `nr_scheduled`,
  and before the query of the ring. -/
  checking : Nat := 0
  querying : Nat := 0
  /-- The CPUs that saw pending work and go on to `scx_bpf_dsq_move_to_local`. -/
  decided : Nat := 0
  status : ThreadStatus := .waiting
  point : LoopPoint := .top
  /-- `pending` and `deferred`. -/
  flow : Flow τ ρ := { pending := [] }
  heldDeferred : List τ := []
  history : HandoffHistory τ ρ := {}

namespace Handoff

variable {τ ρ : Type} (state : Handoff τ ρ)

/-! ## Kernel -/

/-- The submit of `queue_task_to_userspace`. -/
def submit (task : τ) : Handoff τ ρ :=
  { state with
    queued := state.queued ++ [task]
    history := { state.history with submitted := state.history.submitted ++ [task] } }

def setUserschedNeeded : Handoff τ ρ := { state with userschedNeeded := true }

/-- What `usersched_has_pending_tasks` looks at besides the flag. -/
def workVisible : Bool := state.nrScheduled != 0 || !state.queued.isEmpty

/-- `test_and_clear_usersched_needed`, the first read of the test in `rustland_dispatch`. -/
def testNeeded : Handoff τ ρ :=
  let state := { state with history := { state.history with tests := state.history.tests + 1 } }
  if state.userschedNeeded then
    { state with userschedNeeded := false, decided := state.decided + 1 }
  else { state with checking := state.checking + 1 }

def testScheduled : Handoff τ ρ :=
  let state := { state with checking := state.checking - 1 }
  if state.nrScheduled ≠ 0 then { state with decided := state.decided + 1 }
  else { state with querying := state.querying + 1 }

def testQueued : Handoff τ ρ :=
  let state := { state with querying := state.querying - 1 }
  if !state.queued.isEmpty then { state with decided := state.decided + 1 }
  else { state with history := { state.history with missed := state.history.missed + 1 } }

/-- The move out of `SCHED_DSQ`, if the scheduler is there. -/
def moveScheduler : Handoff τ ρ :=
  { state with
    decided := state.decided - 1
    status := if state.status = .waiting then .onCpu else state.status }

/-- The drain at the start of `rustland_dispatch`. -/
def drain (inserts : τ × ρ → Bool) : Handoff τ ρ :=
  let (drained, left) := drainDispatched inserts maxDispatchSlot state.dispatched
  { state with
    dispatched := left
    history := { state.history with
      drained := state.history.drained ++ drained
      callbacks := state.history.callbacks + 1 } }

/-! ## The main loop -/

/-- `dequeue_task` and `pending.push_back`. -/
def receive (task : τ) (rest : List τ) : Handoff τ ρ :=
  { state with
    queued := rest
    point := .draining
    flow := { state.flow with pending := state.flow.pending ++ [task] }
    history := { state.history with received := state.history.received ++ [task] } }

def moveTo (point : LoopPoint) : Handoff τ ρ := { state with point }

def publishScheduled (next : LoopPoint) : Handoff τ ρ :=
  { state with nrScheduled := state.flow.pending.length, point := next }

/-- A task is settled; when it is sent it goes into the ring. -/
def settle (index : Nat) (fate : Fate ρ) : Handoff τ ρ :=
  match state.flow.pending[index]? with
  | none => state
  | some task =>
      let settled := { state with flow := state.flow.settle index fate }
      match fate with
      | .sent record =>
          { settled with
            dispatched := state.dispatched ++ [(task, record)]
            history := { state.history with sent := state.history.sent ++ [(task, record)] } }
      | .dropped =>
          { settled with history := { state.history with dropped := state.history.dropped ++ [task] } }
      | _ => settled

/-- `maybe_hold_deferred_with_spinner`. -/
def holdDeferred : Handoff τ ρ :=
  { state with
    heldDeferred := state.heldDeferred ++ state.flow.deferred
    flow := { pending := state.flow.pending }
    point := .notifying }

/-- `pending.extend(deferred)`. -/
def extendPending : Handoff τ ρ :=
  { state with flow := { pending := state.flow.requeue }, point := .notifying }

/-- `yield_now`: the loop goes on when the kernel runs the thread again. -/
def yieldNow : Handoff τ ρ :=
  { state with
    status := .waiting
    point := if state.heldDeferred.isEmpty then .top else .sleeping }

/-- `thread::sleep`. -/
def sleep : Handoff τ ρ := { state with status := .blocked, point := .releasing }

/-- `pending.extend(drain_held_deferred())`. -/
def releaseHeld : Handoff τ ρ :=
  { state with
    flow := { state.flow with pending := state.flow.pending ++ state.heldDeferred }
    heldDeferred := []
    point := .republishing }

end Handoff

/-- One step of either side. The thread can lose its CPU, or block, anywhere. -/
inductive HandoffStep {τ ρ : Type} (config : HandoffConfig) : Handoff τ ρ → Handoff τ ρ → Prop where
  | submit (state : Handoff τ ρ) (task : τ) (room : state.queued.length < config.queuedRoom) :
      HandoffStep config state (state.submit task)
  | need (state : Handoff τ ρ) : HandoffStep config state state.setUserschedNeeded
  | drain (state : Handoff τ ρ) (inserts : τ × ρ → Bool) :
      HandoffStep config state (state.drain inserts)
  | testNeeded (state : Handoff τ ρ) : HandoffStep config state state.testNeeded
  | testScheduled (state : Handoff τ ρ) (checking : 0 < state.checking) :
      HandoffStep config state state.testScheduled
  | testQueued (state : Handoff τ ρ) (querying : 0 < state.querying) :
      HandoffStep config state state.testQueued
  | replenish (state : Handoff τ ρ) (running : state.status = .onCpu) :
      -- the second call of `usersched_has_pending_tasks`, for the thread itself
      HandoffStep config state { state with userschedNeeded := false }
  | move (state : Handoff τ ρ) (decided : 0 < state.decided) :
      HandoffStep config state state.moveScheduler
  | preempt (state : Handoff τ ρ) (running : state.status = .onCpu) :
      HandoffStep config state { state with status := .waiting }
  | block (state : Handoff τ ρ) (running : state.status = .onCpu) :
      HandoffStep config state { state with status := .blocked }
  | wake (state : Handoff τ ρ) (blocked : state.status = .blocked) :
      HandoffStep config state { state with status := .waiting }
  | receive (state : Handoff τ ρ) {task : τ} {rest : List τ} (running : state.status = .onCpu)
      (here : state.point = .top ∨ state.point = .draining) (front : state.queued = task :: rest) :
      HandoffStep config state (state.receive task rest)
  | stopReceiving (state : Handoff τ ρ) (running : state.status = .onCpu)
      (here : state.point = .top ∨ state.point = .draining) :
      -- the ring was empty, or reading it failed
      HandoffStep config state (state.moveTo .publishing)
  | publish (state : Handoff τ ρ) (running : state.status = .onCpu)
      (here : state.point = .publishing) :
      HandoffStep config state (state.publishScheduled .dispatching)
  | settle (state : Handoff τ ρ) {index : Nat} {fate : Fate ρ} (running : state.status = .onCpu)
      (here : state.point = .dispatching) (going : state.flow.halted = false)
      (room : ∀ record, fate = .sent record → state.dispatched.length < config.dispatchedRoom) :
      HandoffStep config state (state.settle index fate)
  | hold (state : Handoff τ ρ) (running : state.status = .onCpu) (here : state.point = .dispatching)
      (enabled : config.stallFiller = true) (empty : state.flow.pending = [])
      (left : state.flow.deferred ≠ []) :
      HandoffStep config state state.holdDeferred
  | extend (state : Handoff τ ρ) (running : state.status = .onCpu)
      (here : state.point = .dispatching) :
      -- the loop may also end with tasks that nothing can run
      HandoffStep config state state.extendPending
  | notify (state : Handoff τ ρ) (running : state.status = .onCpu)
      (here : state.point = .notifying) :
      HandoffStep config state (state.publishScheduled .yielding)
  | yield (state : Handoff τ ρ) (running : state.status = .onCpu) (here : state.point = .yielding) :
      HandoffStep config state state.yieldNow
  | sleep (state : Handoff τ ρ) (running : state.status = .onCpu) (here : state.point = .sleeping) :
      HandoffStep config state state.sleep
  | release (state : Handoff τ ρ) (running : state.status = .onCpu)
      (here : state.point = .releasing) : HandoffStep config state state.releaseHeld
  | republish (state : Handoff τ ρ) (running : state.status = .onCpu)
      (here : state.point = .republishing) :
      HandoffStep config state (state.publishScheduled .top)

/-- The states that the two sides can get into from the start. -/
def HandoffReachable {τ ρ : Type} (config : HandoffConfig) : Handoff τ ρ → Prop :=
  Relation.ReflTransGen (HandoffStep config) {}

end CSwitch.Bpf
