import CSwitch.Bpf.Handoff
import CSwitch.Dispatch.LoopProperties

/-! What holds in every interleaving of the kernel and the scheduler: no task is
lost or duplicated, and pending work is seen by the kernel except in the windows
where the main loop has taken tasks that it has not published. -/

set_option autoImplicit false

namespace CSwitch.Bpf

open Library

variable {τ ρ : Type} {config : HandoffConfig} {state next : Handoff τ ρ}

/-! ## The drain -/

theorem drainDispatched_append {α : Type} (inserts : α → Bool) (slots : Nat) (tasks : List α) :
    (drainDispatched inserts slots tasks).1 ++ (drainDispatched inserts slots tasks).2 = tasks := by
  induction tasks generalizing slots with
  | nil => rfl
  | cons task rest ih =>
    simp only [drainDispatched]
    generalize (if inserts task then slots - 1 else slots) = left
    split
    · rfl
    · simp [ih]

/-- With more than one slot the drain ends after one message. -/
theorem drainDispatched_cons {α : Type} (inserts : α → Bool) {slots : Nat} (left : 1 < slots)
    (task : α) (rest : List α) :
    drainDispatched inserts slots (task :: rest) = ([task], rest) := by
  have remains : (if inserts task then slots - 1 else slots) ≠ 0 := by split <;> omega
  simp [drainDispatched, remains]

theorem drainDispatched_length {α : Type} (inserts : α → Bool) {slots : Nat} (left : 1 < slots)
    (tasks : List α) :
    (drainDispatched inserts slots tasks).1.length = min 1 tasks.length := by
  cases tasks with
  | nil => rfl
  | cons task rest => simp [drainDispatched_cons inserts left]

/-! ## Custody -/

/-- Every task is in one place, and the rings keep the order. -/
structure HandoffCustody (state : Handoff τ ρ) : Prop where
  submitted : state.history.submitted = state.history.received ++ state.queued
  sent : state.history.sent = state.history.drained ++ state.dispatched
  /-- What was sent and dropped in the rounds before this one. -/
  received : ∃ sent dropped, state.history.sent = sent ++ state.flow.sent ∧
    state.history.dropped = dropped ++ state.flow.dropped ∧
    (state.history.received : Multiset τ) =
      state.flow.items + state.heldDeferred + sent.map Prod.fst + dropped
  drained : state.history.drained.length ≤ state.history.callbacks

theorem handoffCustody_start : HandoffCustody ({} : Handoff τ ρ) where
  submitted := rfl
  sent := rfl
  received := ⟨[], [], rfl, rfl, by simp [Flow.items]⟩
  drained := Nat.le_refl 0

/-- A step that touches neither ring nor queue. -/
theorem HandoffCustody.of_same (custody : HandoffCustody state)
    (history : next.history = state.history) (queued : next.queued = state.queued)
    (dispatched : next.dispatched = state.dispatched) (flow : next.flow = state.flow)
    (held : next.heldDeferred = state.heldDeferred) : HandoffCustody next where
  submitted := by rw [history, queued]; exact custody.submitted
  sent := by rw [history, dispatched]; exact custody.sent
  received := by rw [history, flow, held]; exact custody.received
  drained := by rw [history]; exact custody.drained

/-- The settled task moves within the round, and into the ring when it is sent. -/
theorem HandoffCustody.settle (custody : HandoffCustody state) (index : Nat) (fate : Fate ρ) :
    HandoffCustody (state.settle index fate) := by
  obtain ⟨sent, dropped, sentEq, droppedEq, receivedEq⟩ := custody.received
  unfold Handoff.settle
  split
  · exact custody
  next task found =>
    have items := Flow.items_settle state.flow index fate
    cases fate with
    | sent record =>
      refine ⟨custody.submitted, by simp [custody.sent], ⟨sent, dropped, ?_, ?_, ?_⟩,
        custody.drained⟩
      · simp [Flow.settle_sent found, sentEq]
      · simp [Flow.settle_sent found, droppedEq]
      · simpa only [items] using receivedEq
    | dropped =>
      refine ⟨custody.submitted, custody.sent, ⟨sent, dropped, ?_, ?_, ?_⟩, custody.drained⟩
      · simp [Flow.settle_dropped found, sentEq]
      · simp [Flow.settle_dropped found, droppedEq]
      · simpa only [items] using receivedEq
    | deferred =>
      refine ⟨custody.submitted, custody.sent, ⟨sent, dropped, ?_, ?_, ?_⟩, custody.drained⟩
      · simp [Flow.settle_deferred found, sentEq]
      · simp [Flow.settle_deferred found, droppedEq]
      · simpa only [items] using receivedEq
    | failed =>
      refine ⟨custody.submitted, custody.sent, ⟨sent, dropped, ?_, ?_, ?_⟩, custody.drained⟩
      · simp [Flow.settle_failed found, sentEq]
      · simp [Flow.settle_failed found, droppedEq]
      · simpa only [items] using receivedEq

theorem HandoffCustody.drain (custody : HandoffCustody state) (inserts : τ × ρ → Bool) :
    HandoffCustody (state.drain inserts) := by
  have whole := drainDispatched_append inserts maxDispatchSlot state.dispatched
  have one := drainDispatched_length inserts (show 1 < maxDispatchSlot by decide) state.dispatched
  refine ⟨custody.submitted, ?_, custody.received, ?_⟩
  · simp [Handoff.drain, List.append_assoc, whole, custody.sent]
  · have before := custody.drained
    simp only [Handoff.drain, List.length_append, one]
    omega

/-- The end of a round: what was sent and dropped in it becomes earlier. -/
theorem HandoffCustody.restart (custody : HandoffCustody state)
    (history : next.history = state.history) (queued : next.queued = state.queued)
    (dispatched : next.dispatched = state.dispatched)
    (sent : next.flow.sent = []) (dropped : next.flow.dropped = [])
    (kept : (next.flow.pending + next.flow.deferred + next.heldDeferred : Multiset τ) =
      state.flow.pending + state.flow.deferred + state.heldDeferred) : HandoffCustody next := by
  refine ⟨by rw [history, queued]; exact custody.submitted,
    by rw [history, dispatched]; exact custody.sent, ?_, by rw [history]; exact custody.drained⟩
  obtain ⟨earlierSent, earlierDropped, sentEq, droppedEq, receivedEq⟩ := custody.received
  refine ⟨state.history.sent, state.history.dropped, by simp [history, sent],
    by simp [history, dropped], ?_⟩
  have shuffled : (state.history.received : Multiset τ) =
      (state.flow.pending + state.flow.deferred + state.heldDeferred : Multiset τ) +
        (earlierSent ++ state.flow.sent).map Prod.fst +
        (earlierDropped ++ state.flow.dropped : List τ) := by
    rw [receivedEq]
    simp only [Flow.items, List.map_append, ← Multiset.coe_add]
    abel
  rw [history, shuffled, ← kept, ← sentEq, ← droppedEq]
  simp only [Flow.items, sent, dropped, List.map_nil, Multiset.coe_nil]
  abel

theorem handoffCustody_step (step : HandoffStep config state next)
    (custody : HandoffCustody state) : HandoffCustody next := by
  cases step with
  | submit task room =>
    exact ⟨by simp [Handoff.submit, custody.submitted], custody.sent, custody.received,
      custody.drained⟩
  | need => exact custody.of_same rfl rfl rfl rfl rfl
  | drain inserts => exact custody.drain inserts
  | testNeeded =>
    simp only [Handoff.testNeeded]
    split <;> exact ⟨custody.submitted, custody.sent, custody.received, custody.drained⟩
  | testScheduled checking =>
    simp only [Handoff.testScheduled]
    split <;> exact custody.of_same rfl rfl rfl rfl rfl
  | testQueued querying =>
    simp only [Handoff.testQueued]
    split
    · exact custody.of_same rfl rfl rfl rfl rfl
    · exact ⟨custody.submitted, custody.sent, custody.received, custody.drained⟩
  | replenish running => exact custody.of_same rfl rfl rfl rfl rfl
  | move decided => exact custody.of_same rfl rfl rfl rfl rfl
  | preempt running => exact custody.of_same rfl rfl rfl rfl rfl
  | block running => exact custody.of_same rfl rfl rfl rfl rfl
  | wake blocked => exact custody.of_same rfl rfl rfl rfl rfl
  | receive running here front =>
    obtain ⟨sent, dropped, sentEq, droppedEq, receivedEq⟩ := custody.received
    refine ⟨by simp [Handoff.receive, custody.submitted, front], custody.sent,
      ⟨sent, dropped, sentEq, droppedEq, ?_⟩, custody.drained⟩
    simp only [Handoff.receive, Flow.items, ← Multiset.coe_add, Multiset.coe_singleton]
    rw [receivedEq]
    simp only [Flow.items]
    abel
  | stopReceiving running here => exact custody.of_same rfl rfl rfl rfl rfl
  | publish running here => exact custody.of_same rfl rfl rfl rfl rfl
  | settle running here going room => exact custody.settle _ _
  | hold running here enabled empty left =>
    refine custody.restart rfl rfl rfl rfl rfl ?_
    simp only [Handoff.holdDeferred, ← Multiset.coe_add, Multiset.coe_nil]
    abel
  | extend running here =>
    refine custody.restart rfl rfl rfl rfl rfl ?_
    simp only [Handoff.extendPending, Flow.requeue, ← Multiset.coe_add, Multiset.coe_nil]
    abel
  | notify running here => exact custody.of_same rfl rfl rfl rfl rfl
  | yield running here => exact custody.of_same rfl rfl rfl rfl rfl
  | sleep running here => exact custody.of_same rfl rfl rfl rfl rfl
  | release running here =>
    obtain ⟨sent, dropped, sentEq, droppedEq, receivedEq⟩ := custody.received
    refine ⟨custody.submitted, custody.sent, ⟨sent, dropped, sentEq, droppedEq, ?_⟩,
      custody.drained⟩
    simp only [Handoff.releaseHeld, Flow.items, ← Multiset.coe_add, Multiset.coe_nil]
    rw [receivedEq]
    simp only [Flow.items]
    abel
  | republish running here => exact custody.of_same rfl rfl rfl rfl rfl

theorem HandoffReachable.custody (reachable : HandoffReachable config state) :
    HandoffCustody state := by
  induction reachable with
  | refl => exact handoffCustody_start
  | tail _ step custody => exact handoffCustody_step step custody

namespace Handoff

/-- The tasks that the scheduler took out of the ring and still has. -/
def kept (state : Handoff τ ρ) : List τ :=
  state.flow.pending ++ state.flow.deferred ++ state.heldDeferred

end Handoff

/-- No task is lost or duplicated between the callbacks and the main loop, both
rings are in order, and a callback drains at most one message. -/
theorem HandoffReachable.conserves (reachable : HandoffReachable config state) :
    state.history.submitted = state.history.received ++ state.queued ∧
      state.history.sent = state.history.drained ++ state.dispatched ∧
      List.Perm state.history.received (state.kept ++ state.history.sent.map Prod.fst ++
        state.history.dropped) ∧
      state.history.drained.length ≤ state.history.callbacks := by
  have custody := reachable.custody
  refine ⟨custody.submitted, custody.sent, ?_, custody.drained⟩
  obtain ⟨sent, dropped, sentEq, droppedEq, receivedEq⟩ := custody.received
  apply Multiset.coe_eq_coe.mp
  rw [receivedEq, sentEq, droppedEq]
  simp only [Handoff.kept, Flow.items, List.map_append, ← Multiset.coe_add]
  abel

/-- Two tasks are submitted; the first is received, sent to CPU 3 and drained. -/
def handedOver : Handoff Nat Nat :=
  let submitted := (({} : Handoff Nat Nat).submit 7).submit 8
  let running := submitted.setUserschedNeeded.testNeeded.moveScheduler
  let published := ((running.receive 7 [8]).moveTo .publishing).publishScheduled .dispatching
  (published.settle 0 (.sent 3)).drain fun _ => true

theorem handedOver_reachable : HandoffReachable ⟨4, 4, false⟩ handedOver := by
  have submitted : HandoffReachable ⟨4, 4, false⟩ ((({} : Handoff Nat Nat).submit 7).submit 8) :=
    (Relation.ReflTransGen.single (.submit _ 7 (by decide))).tail (.submit _ 8 (by decide))
  have running := ((submitted.tail (.need _)).tail (.testNeeded _)).tail (.move _ (by decide))
  have received := running.tail (.receive _ rfl (.inl rfl) rfl)
  have published := (received.tail (.stopReceiving _ rfl (.inr rfl))).tail (.publish _ rfl rfl)
  have settled := published.tail
    (@HandoffStep.settle Nat Nat ⟨4, 4, false⟩ _ 0 (.sent 3) rfl rfl rfl fun _ _ => by decide)
  exact settled.tail (.drain _ fun _ => true)

theorem handoff_conserves_drained :
    handedOver.history.drained = [(7, 3)] ∧ handedOver.queued = [8] ∧
      handedOver.history.submitted = handedOver.history.received ++ handedOver.queued ∧
      handedOver.history.sent = handedOver.history.drained ++ handedOver.dispatched ∧
      List.Perm handedOver.history.received (handedOver.kept ++
        handedOver.history.sent.map Prod.fst ++ handedOver.history.dropped) := by
  obtain ⟨submitted, sent, received, _⟩ := handedOver_reachable.conserves
  exact ⟨by decide +kernel, by decide +kernel, submitted, sent, received⟩

/-! ## Visible work -/

/-- What `nr_scheduled` says of the tasks that the scheduler has. -/
def HandoffPublished (config : HandoffConfig) (state : Handoff τ ρ) : Prop :=
  match state.point with
  | .top =>
      state.flow.deferred = [] ∧ state.heldDeferred = [] ∧
        state.nrScheduled = state.flow.pending.length
  | .draining | .publishing => state.flow.deferred = [] ∧ state.heldDeferred = []
  | .dispatching =>
      state.heldDeferred = [] ∧
        state.flow.pending.length + state.flow.deferred.length ≤ state.nrScheduled
  | .notifying =>
      state.flow.deferred = [] ∧
        state.flow.pending.length + state.heldDeferred.length ≤ state.nrScheduled ∧
        (state.heldDeferred ≠ [] → config.stallFiller = true)
  | .yielding =>
      state.flow.deferred = [] ∧ state.nrScheduled = state.flow.pending.length ∧
        (state.heldDeferred ≠ [] → config.stallFiller = true)
  | .sleeping | .releasing => state.flow.deferred = [] ∧ config.stallFiller = true
  | .republishing =>
      state.flow.deferred = [] ∧ state.heldDeferred = [] ∧ config.stallFiller = true

/-- A step of the kernel, or of the thread's status, leaves the loop as it is. -/
theorem HandoffPublished.of_same (published : HandoffPublished config state)
    (point : next.point = state.point) (scheduled : next.nrScheduled = state.nrScheduled)
    (flow : next.flow = state.flow) (held : next.heldDeferred = state.heldDeferred) :
    HandoffPublished config next := by
  simpa only [HandoffPublished, point, scheduled, flow, held] using published

theorem settle_kept_length (flow : Flow τ ρ) (index : Nat) (fate : Fate ρ) :
    (flow.settle index fate).pending.length + (flow.settle index fate).deferred.length ≤
      flow.pending.length + flow.deferred.length := by
  cases found : flow.pending[index]? with
  | none => simp [Flow.settle, found]
  | some task =>
    obtain ⟨bound, _⟩ := List.getElem?_eq_some_iff.mp found
    have shorter := List.length_eraseIdx_of_lt bound
    cases fate with
    | sent record => simp only [Flow.settle_sent found]; omega
    | dropped => simp only [Flow.settle_dropped found]; omega
    | deferred =>
      simp only [Flow.settle_deferred found, List.length_append, List.length_singleton]
      omega
    | failed =>
      simp only [Flow.settle_failed found, List.length_cons]
      omega

theorem settle_point (state : Handoff τ ρ) (index : Nat) (fate : Fate ρ) :
    (state.settle index fate).point = state.point ∧
      (state.settle index fate).nrScheduled = state.nrScheduled ∧
      (state.settle index fate).heldDeferred = state.heldDeferred ∧
      (state.settle index fate).flow = state.flow.settle index fate := by
  unfold Handoff.settle
  split
  next found => simp [Flow.settle, found]
  next task found => cases fate <;> exact ⟨rfl, rfl, rfl, rfl⟩

theorem handoffPublished_step (step : HandoffStep config state next)
    (published : HandoffPublished config state) : HandoffPublished config next := by
  cases step with
  | submit task room => exact published.of_same rfl rfl rfl rfl
  | need => exact published.of_same rfl rfl rfl rfl
  | drain inserts => exact published.of_same rfl rfl rfl rfl
  | testNeeded =>
    simp only [Handoff.testNeeded]
    split <;> exact published.of_same rfl rfl rfl rfl
  | testScheduled checking =>
    simp only [Handoff.testScheduled]
    split <;> exact published.of_same rfl rfl rfl rfl
  | testQueued querying =>
    simp only [Handoff.testQueued]
    split <;> exact published.of_same rfl rfl rfl rfl
  | replenish running => exact published.of_same rfl rfl rfl rfl
  | move decided => exact published.of_same rfl rfl rfl rfl
  | preempt running => exact published.of_same rfl rfl rfl rfl
  | block running => exact published.of_same rfl rfl rfl rfl
  | wake blocked => exact published.of_same rfl rfl rfl rfl
  | receive running here front =>
    have none : state.flow.deferred = [] ∧ state.heldDeferred = [] := by
      rcases here with here | here <;> simp only [HandoffPublished, here] at published
      · exact ⟨published.1, published.2.1⟩
      · exact published
    exact none
  | stopReceiving running here =>
    have none : state.flow.deferred = [] ∧ state.heldDeferred = [] := by
      rcases here with here | here <;> simp only [HandoffPublished, here] at published
      · exact ⟨published.1, published.2.1⟩
      · exact published
    exact none
  | publish running here =>
    simp only [HandoffPublished, here] at published
    simp [HandoffPublished, Handoff.publishScheduled, published]
  | settle running here going room =>
    rename_i index fate
    obtain ⟨point, scheduled, held, flow⟩ := settle_point state index fate
    have shorter := settle_kept_length state.flow index fate
    simp only [HandoffPublished, here] at published
    simp only [HandoffPublished, point, here, scheduled, held, flow]
    exact ⟨published.1, le_trans shorter published.2⟩
  | hold running here enabled empty left =>
    simp only [HandoffPublished, here] at published
    simp only [HandoffPublished, Handoff.holdDeferred, published.1, List.nil_append]
    exact ⟨trivial, published.2, fun _ => enabled⟩
  | extend running here =>
    simp only [HandoffPublished, here] at published
    simp only [HandoffPublished, Handoff.extendPending, Flow.requeue, published.1,
      List.length_append, List.length_nil]
    exact ⟨trivial, by omega, fun left => absurd rfl left⟩
  | notify running here =>
    simp only [HandoffPublished, here] at published
    exact ⟨published.1, rfl, published.2.2⟩
  | yield running here =>
    simp only [HandoffPublished, here] at published
    simp only [HandoffPublished, Handoff.yieldNow]
    cases held : state.heldDeferred with
    | nil => simp [published.1, published.2.1]
    | cons task rest => exact ⟨published.1, published.2.2 (by simp [held])⟩
  | sleep running here =>
    simp only [HandoffPublished, here] at published
    exact published
  | release running here =>
    simp only [HandoffPublished, here] at published
    exact ⟨published.1, rfl, published.2⟩
  | republish running here =>
    simp only [HandoffPublished, here] at published
    exact ⟨published.1, published.2.1, rfl⟩

theorem HandoffReachable.published (reachable : HandoffReachable config state) :
    HandoffPublished config state := by
  induction reachable with
  | refl => exact ⟨rfl, rfl, rfl⟩
  | tail _ step published => exact handoffPublished_step step published

namespace LoopPoint

/-- The loop took tasks out of the ring and did not publish them yet. -/
def Receiving (point : LoopPoint) : Prop := point = .draining ∨ point = .publishing

/-- The stall filler runs, or the loop published before it released the tasks. -/
def Holding (point : LoopPoint) : Prop :=
  point = .yielding ∨ point = .sleeping ∨ point = .releasing ∨ point = .republishing

end LoopPoint

/-- Where the kernel sees no work, the ring is empty, and the scheduler has tasks
only in the windows of the main loop. -/
theorem HandoffReachable.unseen (reachable : HandoffReachable config state)
    (unseen : state.workVisible = false) :
    state.queued = [] ∧
      (state.kept = [] ∨ state.point.Receiving ∨
        config.stallFiller = true ∧ state.point.Holding) := by
  have published := reachable.published
  obtain ⟨scheduled, queued⟩ : state.nrScheduled = 0 ∧ state.queued = [] := by
    simpa [Handoff.workVisible] using unseen
  refine ⟨queued, ?_⟩
  cases point : state.point with
  | top =>
    simp only [HandoffPublished, point, scheduled] at published
    have pending := List.length_eq_zero_iff.mp published.2.2.symm
    exact .inl (by simp [Handoff.kept, pending, published.1, published.2.1])
  | draining => exact .inr (.inl (.inl rfl))
  | publishing => exact .inr (.inl (.inr rfl))
  | dispatching =>
    simp only [HandoffPublished, point, scheduled, Nat.le_zero, Nat.add_eq_zero_iff,
      List.length_eq_zero_iff] at published
    exact .inl (by simp [Handoff.kept, published])
  | notifying =>
    simp only [HandoffPublished, point, scheduled, Nat.le_zero, Nat.add_eq_zero_iff,
      List.length_eq_zero_iff] at published
    exact .inl (by simp [Handoff.kept, published.1, published.2.1])
  | yielding =>
    simp only [HandoffPublished, point, scheduled] at published
    have pending := List.length_eq_zero_iff.mp published.2.1.symm
    cases held : state.heldDeferred with
    | nil => exact .inl (by simp [Handoff.kept, pending, held, published.1])
    | cons task rest => exact .inr (.inr ⟨published.2.2 (by simp [held]), .inl rfl⟩)
  | sleeping =>
    simp only [HandoffPublished, point] at published
    exact .inr (.inr ⟨published.2, .inr (.inl rfl)⟩)
  | releasing =>
    simp only [HandoffPublished, point] at published
    exact .inr (.inr ⟨published.2, .inr (.inr (.inl rfl))⟩)
  | republishing =>
    simp only [HandoffPublished, point] at published
    exact .inr (.inr ⟨published.2.2, .inr (.inr (.inr rfl))⟩)

/-- The scheduler loses its CPU between `dequeue_task` and `publish_scheduled`. -/
def preemptedReceiver : Handoff Nat Nat :=
  let notified := ((({} : Handoff Nat Nat).submit 7).setUserschedNeeded).testNeeded
  { notified.moveScheduler.receive 7 [] with status := .waiting }

theorem preemptedReceiver_reachable : HandoffReachable ⟨4, 4, false⟩ preemptedReceiver := by
  have submitted : HandoffReachable ⟨4, 4, false⟩ (({} : Handoff Nat Nat).submit 7) :=
    .single (.submit {} 7 (by decide))
  have notified := (submitted.tail (.need _)).tail (.testNeeded _)
  have moved := notified.tail (.move _ (by decide))
  exact (moved.tail (.receive _ rfl (.inl rfl) rfl)).tail (.preempt _ rfl)

/-- The window is real: a scheduler that waits with a task that no test sees. -/
theorem preemptedReceiver_unseen :
    preemptedReceiver.status = .waiting ∧ preemptedReceiver.userschedNeeded = false ∧
      preemptedReceiver.kept = [7] ∧ preemptedReceiver.queued = [] ∧
      (preemptedReceiver.kept = [] ∨ preemptedReceiver.point.Receiving ∨
        (⟨4, 4, false⟩ : HandoffConfig).stallFiller = true ∧ preemptedReceiver.point.Holding) :=
  ⟨rfl, rfl, rfl, preemptedReceiver_reachable.unseen rfl⟩

/-! ## Wake-ups -/

/-- A step after which the scheduler does not run. -/
def HandoffIdleStep (config : HandoffConfig) (state next : Handoff τ ρ) : Prop :=
  HandoffStep config state next ∧ next.status ≠ .onCpu

/-- What holds from `start` on while the scheduler waits with visible work. -/
structure HandoffStarving (start state : Handoff τ ρ) : Prop where
  waiting : state.status = .waiting
  kept : state.kept = start.kept
  /-- A test can only miss when it passed the read of `nr_scheduled` before. -/
  missed : (state.nrScheduled ≠ 0 ∧
      state.history.missed + state.querying ≤ start.history.missed + start.querying) ∨
    (state.queued ≠ [] ∧ state.history.missed ≤ start.history.missed)
  tests : state.history.tests + (start.decided + start.checking + start.querying +
      start.history.missed) =
    start.history.tests + (state.decided + state.checking + state.querying + state.history.missed)

theorem handoffStarving_start (waiting : state.status = .waiting)
    (work : state.workVisible = true) : HandoffStarving state state where
  waiting := waiting
  kept := rfl
  missed := by
    simp only [Handoff.workVisible, Bool.or_eq_true, bne_iff_ne, Bool.not_eq_true',
      List.isEmpty_eq_false_iff] at work
    exact work.imp (fun scheduled => ⟨scheduled, le_rfl⟩) fun queued => ⟨queued, le_rfl⟩
  tests := rfl

theorem handoffStarving_step {start : Handoff τ ρ} (step : HandoffIdleStep config state next)
    (starving : HandoffStarving start state) : HandoffStarving start next := by
  obtain ⟨step, idle⟩ := step
  have waiting := starving.waiting
  have stopped : state.status ≠ .onCpu := by simp [waiting]
  cases step with
  | submit task room =>
    exact ⟨waiting, starving.kept, starving.missed.imp id fun queued => ⟨by simp [Handoff.submit],
      queued.2⟩, starving.tests⟩
  | need => exact ⟨waiting, starving.kept, starving.missed, starving.tests⟩
  | drain inserts => exact ⟨waiting, starving.kept, starving.missed, starving.tests⟩
  | testNeeded =>
    have tests := starving.tests
    simp only [Handoff.testNeeded]
    split
    · exact ⟨waiting, starving.kept, starving.missed, by dsimp only; omega⟩
    · exact ⟨waiting, starving.kept, starving.missed, by dsimp only; omega⟩
  | testScheduled checking =>
    have tests := starving.tests
    simp only [Handoff.testScheduled]
    split
    next scheduled =>
      exact ⟨waiting, starving.kept, starving.missed, by dsimp only; omega⟩
    next scheduled =>
      have queued := starving.missed.resolve_left fun published => scheduled published.1
      exact ⟨waiting, starving.kept, .inr queued, by dsimp only; omega⟩
  | testQueued querying =>
    have tests := starving.tests
    simp only [Handoff.testQueued]
    split
    next queued =>
      refine ⟨waiting, starving.kept, starving.missed.imp (fun published => ⟨published.1, ?_⟩) id,
        by dsimp only; omega⟩
      have bound := published.2
      dsimp only
      omega
    next queued =>
      have published := starving.missed.resolve_right fun left => queued (by simp [left.1])
      refine ⟨waiting, starving.kept, .inl ⟨published.1, ?_⟩, by dsimp only; omega⟩
      have bound := published.2
      dsimp only
      omega
  | move decided => exact absurd (by simp [Handoff.moveScheduler, waiting]) idle
  | wake blocked => exact absurd (waiting.symm.trans blocked) (by decide)
  | replenish running => exact absurd running stopped
  | preempt running => exact absurd running stopped
  | block running => exact absurd running stopped
  | receive running here front => exact absurd running stopped
  | stopReceiving running here => exact absurd running stopped
  | publish running here => exact absurd running stopped
  | settle running here going room => exact absurd running stopped
  | hold running here enabled empty left => exact absurd running stopped
  | extend running here => exact absurd running stopped
  | notify running here => exact absurd running stopped
  | yield running here => exact absurd running stopped
  | sleep running here => exact absurd running stopped
  | release running here => exact absurd running stopped
  | republish running here => exact absurd running stopped

/-- No wake-up is lost: until it runs, a scheduler with visible work keeps
waiting, keeps its tasks, and every test that starts meanwhile and ends decides
to run it. -/
theorem handoff_wakes {later : Handoff τ ρ} (waiting : state.status = .waiting)
    (work : state.workVisible = true)
    (run : Relation.ReflTransGen (HandoffIdleStep config) state later) :
    later.status = .waiting ∧ later.workVisible = true ∧ later.kept = state.kept ∧
      later.moveScheduler.status = .onCpu ∧
      later.history.tests + state.decided + state.checking ≤
        state.history.tests + later.decided + later.checking + later.querying := by
  have starving : HandoffStarving state later := by
    induction run with
    | refl => exact handoffStarving_start waiting work
    | tail _ step starving => exact handoffStarving_step step starving
  have tests := starving.tests
  refine ⟨starving.waiting, ?_, starving.kept, by simp [Handoff.moveScheduler, starving.waiting],
    ?_⟩
  · rcases starving.missed with published | queued
    · simp [Handoff.workVisible, published.1]
    · simp [Handoff.workVisible, queued.1]
  · have missed : later.history.missed ≤ state.history.missed + state.querying := by
      rcases starving.missed with published | queued
      · have bound := published.2
        omega
      · have bound := queued.2
        omega
    omega

/-- A waiting scheduler with a task in the ring, and the whole test of one CPU. -/
theorem handoff_wakes_submit :
    ∃ later : Handoff Nat Nat, later.decided = 1 ∧ later.status = .waiting ∧
      later.moveScheduler.status = .onCpu := by
  let start : Handoff Nat Nat := ({} : Handoff Nat Nat).submit 7
  have checked : HandoffIdleStep ⟨4, 4, false⟩ start start.testNeeded :=
    ⟨.testNeeded _, by decide⟩
  have queried : HandoffIdleStep ⟨4, 4, false⟩ start.testNeeded start.testNeeded.testScheduled :=
    ⟨.testScheduled _ (by decide), by decide⟩
  have found : HandoffIdleStep ⟨4, 4, false⟩ start.testNeeded.testScheduled
      start.testNeeded.testScheduled.testQueued := ⟨.testQueued _ (by decide), by decide⟩
  have run := ((Relation.ReflTransGen.single checked).tail queried).tail found
  have woken := handoff_wakes (show start.status = .waiting from rfl)
    (show start.workVisible = true from rfl) run
  exact ⟨_, rfl, woken.1, woken.2.2.2.1⟩

/-! ## The dispatch loop -/

section DispatchLoop

open Dispatch

variable {config : HandoffConfig} {start state : Handoff QueuedTask Handover}
  {first burst : Burst}

/-- The handoff from `start` has come as far as the loop has. -/
structure Mirrors (config : HandoffConfig) (start : Handoff QueuedTask Handover) (first : Burst)
    (state : Handoff QueuedTask Handover) (burst : Burst) : Prop where
  run : Relation.ReflTransGen (HandoffStep config) start state
  running : state.status = .onCpu
  here : state.point = .dispatching
  flow : state.flow = burst.flow
  room : state.dispatched.length + state.flow.pending.length ≤ config.dispatchedRoom
  sent : ∃ new, burst.flow.sent = first.flow.sent ++ new ∧
    state.dispatched = start.dispatched ++ new

theorem settle_status (state : Handoff QueuedTask Handover) (index : Nat) (fate : Fate Handover) :
    (state.settle index fate).status = state.status := by
  unfold Handoff.settle
  split
  · rfl
  · cases fate <;> rfl

/-- A settled task is in the ring exactly when the round counts it as sent. -/
theorem settle_ring {task : QueuedTask} (found : state.flow.pending[0]? = some task)
    (fate : Fate Handover) :
    ∃ new, (state.flow.settle 0 fate).sent = state.flow.sent ++ new ∧
      (state.settle 0 fate).dispatched = state.dispatched ++ new ∧
      new.length + (state.flow.settle 0 fate).pending.length ≤ state.flow.pending.length := by
  obtain ⟨bound, _⟩ := List.getElem?_eq_some_iff.mp found
  have shorter := List.length_eraseIdx_of_lt bound
  cases fate with
  | sent record =>
    refine ⟨[(task, record)], by rw [Flow.settle_sent found], by simp [Handoff.settle, found], ?_⟩
    simp only [Flow.settle_sent found, List.length_singleton]
    omega
  | deferred =>
    refine ⟨[], by simp [Flow.settle_deferred found], by simp [Handoff.settle, found], ?_⟩
    simp only [Flow.settle_deferred found, List.length_nil]
    omega
  | dropped =>
    refine ⟨[], by simp [Flow.settle_dropped found], by simp [Handoff.settle, found], ?_⟩
    simp only [Flow.settle_dropped found, List.length_nil]
    omega
  | failed =>
    refine ⟨[], by simp [Flow.settle_failed found], by simp [Handoff.settle, found], ?_⟩
    simp only [Flow.settle_failed found, List.length_nil, List.length_cons]
    omega

/-- An iteration of the loop is a step of the handoff, or nothing. -/
theorem Mirrors.advance (round : DispatchRound) (attempt : Attempt)
    (mirrors : Mirrors config start first state burst) :
    ∃ later, Mirrors config start first later (dispatchNext round attempt burst) := by
  rcases dispatchNext_cases round attempt burst with
    ⟨_, same⟩ | ⟨task, rest, after, fate, front, going, _, next⟩
  · exact ⟨state, by rw [same]; exact mirrors⟩
  · have flow := mirrors.flow
    have found : state.flow.pending[0]? = some task := by rw [flow, front]; rfl
    obtain ⟨new, sentNew, ringNew, length⟩ := settle_ring found fate
    obtain ⟨point, _, _, settled⟩ := settle_point state 0 fate
    have filled : 0 < state.flow.pending.length := by rw [flow, front]; exact Nat.succ_pos _
    have room := mirrors.room
    have step : HandoffStep config state (state.settle 0 fate) :=
      .settle state mirrors.running mirrors.here (by rw [flow]; exact going)
        fun _ _ => by omega
    refine ⟨state.settle 0 fate, mirrors.run.tail step, ?_, ?_, ?_, ?_, ?_⟩
    · rw [settle_status, mirrors.running]
    · rw [point, mirrors.here]
    · rw [next, settled, flow]
    · rw [ringNew, settled, List.length_append]
      omega
    · obtain ⟨earlier, sentEarlier, ringEarlier⟩ := mirrors.sent
      refine ⟨earlier ++ new, ?_, ?_⟩
      · rw [next, ← flow, sentNew, flow, sentEarlier, List.append_assoc]
      · rw [ringNew, ringEarlier, List.append_assoc]

/-- The dispatch loop of a round is a run of the handoff, and exactly what it
sends goes into the ring, in the same order. -/
theorem dispatchLoop_handoff (config : HandoffConfig) (round : DispatchRound)
    (attempts : Nat → Attempt)
    (start : Handoff QueuedTask Handover) (burst : Burst) (running : start.status = .onCpu)
    (here : start.point = .dispatching) (flow : start.flow = burst.flow)
    (room : start.dispatched.length + burst.flow.pending.length ≤ config.dispatchedRoom) :
    ∃ later sent, Relation.ReflTransGen (HandoffStep config) start later ∧
      later.flow = (dispatchLoop round attempts burst).flow ∧
      (dispatchLoop round attempts burst).flow.sent = burst.flow.sent ++ sent ∧
      later.dispatched = start.dispatched ++ sent := by
  have mirrored : ∃ later, Mirrors config start burst later (dispatchLoop round attempts burst) := by
    refine iterate_invariant (fun reached => ∃ later, Mirrors config start burst later reached)
      ⟨start, .refl, running, here, flow, by rw [flow]; exact room, [], by simp, by simp⟩ ?_ _
    intro count before
    obtain ⟨state, mirrors⟩ := before
    exact mirrors.advance round _
  obtain ⟨later, mirrors⟩ := mirrored
  obtain ⟨sent, sentEq, ring⟩ := mirrors.sent
  exact ⟨later, sent, mirrors.run, mirrors.flow, sentEq, ring⟩

theorem dispatchLoop_handoff_stranded :
    ∃ later sent, Relation.ReflTransGen (HandoffStep ⟨16, 16, false⟩)
        { status := .onCpu, point := .dispatching, flow := strandedRound.burst.flow } later ∧
      later.flow =
        (dispatchLoop strandedRound.round (fun _ => ⟨1000, true⟩) strandedRound.burst).flow ∧
      later.dispatched = sent := by
  obtain ⟨later, sent, run, flow, _, ring⟩ := dispatchLoop_handoff ⟨16, 16, false⟩
    strandedRound.round (fun _ => ⟨1000, true⟩)
    { status := .onCpu, point := .dispatching, flow := strandedRound.burst.flow }
    strandedRound.burst rfl rfl rfl (by decide)
  exact ⟨later, sent, run, flow, by simpa using ring⟩

end DispatchLoop

end CSwitch.Bpf
