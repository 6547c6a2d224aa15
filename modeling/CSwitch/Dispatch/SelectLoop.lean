import CSwitch.Dispatch.LoopProperties

/-! The dispatch loop that the NSDI and ARCAS schedulers share. Every iteration
looks for a task of the scheduler itself, then for a launch helper, and only
then asks its policy which pending task goes next. -/

set_option autoImplicit false

namespace CSwitch.Dispatch

open Std (TreeMap TreeSet)
open Policy Library

inductive PendingSelection where
  | runnable (index : Nat) (decision : PlacementDecision)
  | drop (index : Nat)

def PendingSelection.index : PendingSelection → Nat
  | .runnable index _ => index
  | .drop index => index

/-- The queue index that a selection hands to the kernel. -/
def selectedOffer : Option PendingSelection → Option Nat
  | some (.runnable index _) => some index
  | some (.drop _) => none
  | none => none

/-! ## Launch helpers -/

def launchHelperNames : List String :=
  ["bash", "cut", "grep", "head", "lscpu", "memory_benchmar", "numactl", "perf", "perf-exec", "ps",
    "python3", "sh", "sleep", "sudo", "tail", "taskset", "tee", "time", "tr"]

def isLaunchHelperTask (task : QueuedTask) : Bool :=
  launchHelperNames.any fun name => commToString task.comm == name.toList.map Char.toNat

/-- A helper pinned to one CPU goes there, every other helper anywhere. -/
def launchHelperCpu (allowedCpus : Option (TreeSet Nat)) : Int :=
  (((allowedCpus.filter fun cpus => cpus.size == 1).bind (·.toList.head?)).bind tryI32).getD rlCpuAny

def launchHelperDispatch (task : QueuedTask) (allowedCpus : Option (TreeSet Nat)) :
    DispatchedTask :=
  { DispatchedTask.new task with cpu := launchHelperCpu allowedCpus, sliceNs := defaultSliceNs }

def placedDispatch (task : QueuedTask) (decision : PlacementDecision) (tickHoldoff : Nat) :
    DispatchedTask :=
  { DispatchedTask.new task with
    cpu := (decision.selectedCpu.bind tryI32).getD rlCpuAny
    sliceNs := decision.sliceNs
    tickHoldoff }

/-! ## The loop -/

/-- What one of the two schedulers brings to the loop: its queue items, the
inputs of an iteration, and its policy. A policy only selects pending items,
and drops one only when its affinity could not be read. -/
structure SelectLoop (τ σ ι : Type) where
  userschedPid : Nat
  task : τ → QueuedTask
  attempt : ι → Attempt
  helperCpus : ι → QueuedTask → Option (TreeSet Nat)
  select : ι → σ → List τ → σ × Option PendingSelection
  holdoff : σ → QueuedTask → PlacementDecision → σ × Nat
  commit : σ → QueuedTask → PlacementDecision → Nat → σ
  Unreadable : ι → Nat → τ → Prop
  select_pending : ∀ {input state pending selection},
    (select input state pending).2 = some selection → selection.index < pending.length
  drop_unreadable : ∀ {input state pending index item},
    (select input state pending).2 = some (.drop index) → pending[index]? = some item →
      Unreadable input index item

/-- A hand-over is one of its own task. -/
def HandsOver (task : QueuedTask) (handover : Handover) : Prop := handover.dispatched.tid = task.tid

structure SelectBurst (τ σ : Type) where
  state : σ
  flow : Flow τ Handover

namespace SelectLoop

variable {τ σ ι : Type} (loop : SelectLoop τ σ ι)

def handOver (input : ι) (burst : SelectBurst τ σ) (index : Nat) (dispatched : DispatchedTask) :
    SelectBurst τ σ :=
  { burst with
    flow := burst.flow.settle index
      (if (loop.attempt input).accepted then .sent ⟨dispatched, none, (loop.attempt input).nowNs⟩
      else .failed) }

def place (input : ι) (burst : SelectBurst τ σ) (state : σ) (index : Nat) (item : τ)
    (decision : PlacementDecision) : SelectBurst τ σ :=
  let nowNs := (loop.attempt input).nowNs
  let (state, tickHoldoff) := loop.holdoff state (loop.task item) decision
  if (loop.attempt input).accepted then
    { state := loop.commit state (loop.task item) decision nowNs
      flow := burst.flow.settle index
        (.sent ⟨placedDispatch (loop.task item) decision tickHoldoff, some decision, nowNs⟩) }
  else { state, flow := burst.flow.settle index .failed }

def runSelection (input : ι) (burst : SelectBurst τ σ) : SelectBurst τ σ :=
  let (state, selection) := loop.select input burst.state burst.flow.pending
  match selection with
  | none => { state, flow := burst.flow.halt }
  | some (.drop index) => { state, flow := burst.flow.settle index .dropped }
  | some (.runnable index decision) =>
      match burst.flow.pending[index]? with
      | none => { burst with state }
      | some item => loop.place input burst state index item decision

def next (input : ι) (burst : SelectBurst τ σ) : SelectBurst τ σ :=
  if !burst.flow.active then burst
  else
    let pending := burst.flow.pending
    match pending.findIdx? fun item => (loop.task item).group == loop.userschedPid,
      pending.findIdx? fun item => isLaunchHelperTask (loop.task item) with
    | some index, _ =>
        match pending[index]? with
        | none => burst
        | some item => loop.handOver input burst index (userschedDispatch (loop.task item))
    | none, some index =>
        match pending[index]? with
        | none => burst
        | some item =>
            loop.handOver input burst index
              (launchHelperDispatch (loop.task item) (loop.helperCpus input (loop.task item)))
    | none, none => loop.runSelection input burst

/-- The whole loop, with the iterations a queue of this length can take. -/
def run (inputs : Nat → ι) (burst : SelectBurst τ σ) : SelectBurst τ σ :=
  iterate loop.next inputs burst burst.flow.pending.length

/-- The queue index of the task that an iteration hands to the kernel, if any. -/
def offered (input : ι) (burst : SelectBurst τ σ) : Option Nat :=
  if !burst.flow.active then none
  else
    let pending := burst.flow.pending
    match pending.findIdx? fun item => (loop.task item).group == loop.userschedPid,
      pending.findIdx? fun item => isLaunchHelperTask (loop.task item) with
    | some index, _ => some index
    | none, some index => some index
    | none, none => selectedOffer (loop.select input burst.state pending).2

/-! ## What an iteration does -/

/-- An active iteration stops the loop, or offers one pending item and sends it or
fails to, as the kernel answers, or drops one because it could not be read. -/
inductive Settles (input : ι) (burst : SelectBurst τ σ) : Flow τ Handover → Prop where
  | halted (silent : loop.offered input burst = none) : Settles input burst burst.flow.halt
  | sent {index : Nat} {item : τ} {handover : Handover}
      (choice : loop.offered input burst = some index)
      (found : burst.flow.pending[index]? = some item)
      (accepted : (loop.attempt input).accepted = true)
      (own : HandsOver (loop.task item) handover) :
      Settles input burst (burst.flow.settle index (.sent handover))
  | failed {index : Nat} {item : τ} (choice : loop.offered input burst = some index)
      (found : burst.flow.pending[index]? = some item)
      (refused : (loop.attempt input).accepted = false) :
      Settles input burst (burst.flow.settle index .failed)
  | dropped {index : Nat} {item : τ} (silent : loop.offered input burst = none)
      (found : burst.flow.pending[index]? = some item)
      (managed : (loop.task item).group ≠ loop.userschedPid)
      (unreadable : loop.Unreadable input index item) :
      Settles input burst (burst.flow.settle index .dropped)

variable {loop} {input : ι} {burst : SelectBurst τ σ}

theorem next_idle (idle : burst.flow.active = false) : loop.next input burst = burst := by
  simp [next, idle]

theorem offered_idle (idle : burst.flow.active = false) : loop.offered input burst = none := by
  simp [offered, idle]

theorem handOver_settles {index : Nat} {item : τ} (choice : loop.offered input burst = some index)
    (found : burst.flow.pending[index]? = some item) {dispatched : DispatchedTask}
    (own : dispatched.tid = (loop.task item).tid) :
    loop.Settles input burst (loop.handOver input burst index dispatched).flow := by
  unfold handOver
  split
  next accepted => exact .sent choice found accepted own
  next refused => exact .failed choice found (by simpa using refused)

theorem place_settles {index : Nat} {item : τ} (choice : loop.offered input burst = some index)
    (found : burst.flow.pending[index]? = some item) (state : σ) (decision : PlacementDecision) :
    loop.Settles input burst (loop.place input burst state index item decision).flow := by
  unfold place
  dsimp only
  split
  next accepted => exact .sent choice found accepted rfl
  next refused => exact .failed choice found (by simpa using refused)

theorem runSelection_settles
    (managed : ∀ item ∈ burst.flow.pending, (loop.task item).group ≠ loop.userschedPid)
    (choice : loop.offered input burst =
      selectedOffer (loop.select input burst.state burst.flow.pending).2) :
    loop.Settles input burst (loop.runSelection input burst).flow := by
  unfold runSelection
  dsimp only
  split
  next none =>
    rw [none] at choice
    exact .halted choice
  next index chosen =>
    have bound := loop.select_pending chosen
    have found := List.getElem?_eq_getElem bound
    rw [chosen] at choice
    exact .dropped choice found (managed _ (List.mem_of_getElem? found))
      (loop.drop_unreadable chosen found)
  next index decision chosen =>
    have bound : index < burst.flow.pending.length := loop.select_pending chosen
    rw [chosen] at choice
    split
    next missing => rw [List.getElem?_eq_getElem bound] at missing; simp at missing
    next item found => exact place_settles choice found _ decision

theorem next_settles (active : burst.flow.active = true) :
    loop.Settles input burst (loop.next input burst).flow := by
  have located : ∀ {test : τ → Bool} {index : Nat}, burst.flow.pending.findIdx? test = some index →
      burst.flow.pending[index]? ≠ none := by
    intro test index found missing
    obtain ⟨bound, _⟩ := List.findIdx?_eq_some_iff_getElem.mp found
    rw [List.getElem?_eq_getElem bound] at missing
    simp at missing
  have choice : loop.offered input burst = _ := if_neg (by simp [active])
  unfold next
  rw [if_neg (by simp [active])]
  dsimp only at choice ⊢
  split
  next index own =>
    rw [own] at choice
    split
    next missing => exact absurd missing (located own)
    next item found => exact handOver_settles choice found rfl
  next index none helper =>
    rw [none, helper] at choice
    split
    next missing => exact absurd missing (located helper)
    next item found => exact handOver_settles choice found rfl
  next none helper =>
    rw [none, helper] at choice
    refine runSelection_settles (fun item member own => ?_) choice
    have other := List.findIdx?_eq_none_iff.mp none item member
    simp [own] at other

/-- The answer decides what becomes of the item that an iteration offers. -/
theorem next_offer {index : Nat} (choice : loop.offered input burst = some index) :
    ∃ item, burst.flow.pending[index]? = some item ∧
      if (loop.attempt input).accepted then
        ∃ handover : Handover, HandsOver (loop.task item) handover ∧
          (loop.next input burst).flow = burst.flow.settle index (.sent handover)
      else (loop.next input burst).flow = burst.flow.settle index .failed := by
  have active : burst.flow.active = true := by
    refine Bool.eq_true_of_not_eq_false fun idle => ?_
    rw [offered_idle idle] at choice
    cases choice
  have step : loop.Settles input burst (loop.next input burst).flow := next_settles active
  generalize (loop.next input burst).flow = after at step ⊢
  cases step with
  | halted silent => cases choice.symm.trans silent
  | @sent _ item handover other found accepted own =>
      obtain rfl := Option.some.inj (other.symm.trans choice)
      refine ⟨item, found, ?_⟩
      rw [if_pos accepted]
      exact ⟨handover, own, rfl⟩
  | @failed _ item other found refused =>
      obtain rfl := Option.some.inj (other.symm.trans choice)
      refine ⟨item, found, ?_⟩
      rw [if_neg (by simp [refused])]
  | dropped silent found managed unreadable => cases choice.symm.trans silent

theorem next_silent (silent : loop.offered input burst = none) :
    (loop.next input burst).flow.sent = burst.flow.sent := by
  cases active : burst.flow.active with
  | false => rw [next_idle active]
  | true =>
      have step : loop.Settles input burst (loop.next input burst).flow := next_settles active
      generalize (loop.next input burst).flow = after at step ⊢
      cases step with
      | halted silent => rfl
      | sent choice found accepted own => cases choice.symm.trans silent
      | failed choice found refused => cases choice.symm.trans silent
      | dropped silent found managed unreadable => rw [Flow.settle_dropped found]

/-! ## Whole rounds -/

section Round

variable (loop) (inputs : Nat → ι) (burst : SelectBurst τ σ)

theorem run_finished : (loop.run inputs burst).flow.active = false := by
  refine iterate_finished SelectBurst.flow ?_ (fun input burst => next_idle)
  intro input burst active
  have step : loop.Settles input burst (loop.next input burst).flow := next_settles active
  have progress : ∀ {index : Nat} {item : τ} (fate : Fate Handover),
      burst.flow.pending[index]? = some item → (burst.flow.settle index fate).halted = true ∨
        (burst.flow.settle index fate).pending.length < burst.flow.pending.length := by
    intro index item fate found
    rcases Flow.settle_progress found fate with halted | shorter
    · exact .inl halted
    · exact .inr (by omega)
  generalize (loop.next input burst).flow = after at step ⊢
  cases step with
  | halted silent => exact .inl rfl
  | sent choice found accepted own => exact progress _ found
  | failed choice found refused => exact progress _ found
  | dropped silent found managed unreadable => exact progress _ found

/-- A dropped item is not the scheduler's own and was unreadable in the
iteration that dropped it. -/
def DroppedUnreadable (flow : Flow τ Handover) : Prop :=
  ∀ item ∈ flow.dropped, (loop.task item).group ≠ loop.userschedPid ∧ ∃ count index,
    (iterate loop.next inputs burst count).flow.pending[index]? = some item ∧
      loop.Unreadable (inputs count) index item

/-- Where the items of a round can be: nothing is lost, duplicated or deferred,
and nothing readable is dropped. -/
structure Conserves (flow : Flow τ Handover) : Prop where
  items : flow.items = burst.flow.items
  deferred : flow.deferred = []
  dropped : loop.DroppedUnreadable inputs burst flow

theorem iterate_next_conserves (fresh : burst.flow.deferred = [] ∧ burst.flow.dropped = [])
    (count : Nat) : loop.Conserves inputs burst (iterate loop.next inputs burst count).flow := by
  refine iterate_invariant (fun point : SelectBurst τ σ => loop.Conserves inputs burst point.flow)
    ⟨rfl, fresh.1, by simp [DroppedUnreadable, fresh.2]⟩ ?_ count
  intro count before
  cases active : (iterate loop.next inputs burst count).flow.active with
  | false => rwa [next_idle active]
  | true =>
      have step : loop.Settles (inputs count) _ (loop.next (inputs count) _).flow :=
        next_settles active
      generalize (loop.next (inputs count) (iterate loop.next inputs burst count)).flow = after
        at step ⊢
      cases step with
      | halted silent => exact ⟨before.items, before.deferred, before.dropped⟩
      | sent choice found accepted own =>
          refine ⟨(Flow.items_settle _ _ _).trans before.items, ?_, ?_⟩
          · rw [Flow.settle_sent found]
            exact before.deferred
          · rw [Flow.settle_sent found]
            exact before.dropped
      | failed choice found refused =>
          refine ⟨(Flow.items_settle _ _ _).trans before.items, ?_, ?_⟩
          · rw [Flow.settle_failed found]
            exact before.deferred
          · rw [Flow.settle_failed found]
            exact before.dropped
      | @dropped index other silent found managed unreadable =>
          refine ⟨(Flow.items_settle _ _ _).trans before.items, ?_, ?_⟩
          · rw [Flow.settle_dropped found]
            exact before.deferred
          · intro item member
            rw [Flow.settle_dropped found] at member
            rcases List.mem_append.mp member with earlier | here
            · exact before.dropped item earlier
            · obtain rfl := List.mem_singleton.mp here
              exact ⟨managed, count, index, found, unreadable⟩

/-- The kernel answers every offer of a round. -/
theorem iterate_next_follows :
    FollowsAnswers
      (fun count => loop.offered (inputs count) (iterate loop.next inputs burst count))
      (fun count => (loop.attempt (inputs count)).accepted)
      (fun item handover => HandsOver (loop.task item) handover)
      (fun count => (iterate loop.next inputs burst count).flow) where
  pending count index choice := by
    obtain ⟨_, found, _⟩ := next_offer choice
    exact (List.getElem?_eq_some_iff.mp found).1
  sends count index item choice found accepted := by
    obtain ⟨other, same, answer⟩ := next_offer choice
    obtain rfl := Option.some.inj (same.symm.trans found)
    rwa [if_pos accepted] at answer
  refuses count index choice refused := by
    obtain ⟨_, _, answer⟩ := next_offer choice
    rwa [if_neg (by simp [refused])] at answer
  silent count none := next_silent none

/-- The answers of the kernel to the offers of the whole loop. -/
def KernelAnswered : Prop :=
  Answered (fun count => loop.offered (inputs count) (iterate loop.next inputs burst count))
    (fun count => (loop.attempt (inputs count)).accepted)
    (fun item handover => HandsOver (loop.task item) handover)
    (fun count => (iterate loop.next inputs burst count).flow) burst.flow.pending.length

theorem run_answered (fresh : burst.flow.sent = []) : loop.KernelAnswered inputs burst := by
  refine (loop.iterate_next_follows inputs burst).answered fresh ?_ ?_
  · intro count late
    have ended := loop.run_finished inputs burst
    have same : iterate loop.next inputs burst count = loop.run inputs burst :=
      iterate_of_idle (fun _ => next_idle ended) late
    rw [same]
    exact offered_idle ended
  · intro first last halted later
    have idle : (iterate loop.next inputs burst first).flow.active = false := by
      simp [Flow.active, halted]
    exact congrArg SelectBurst.flow (iterate_of_idle (fun _ => next_idle idle) later)

end Round

end SelectLoop

end CSwitch.Dispatch
