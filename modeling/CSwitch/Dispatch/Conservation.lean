import CSwitch.Arcas.Loop
import CSwitch.Nsdi.Loop

/-! Conservation of tasks: at the end of a round of any of the three dispatch
loops every pending task was sent once, is pending once, or was dropped because
its affinity could not be read. Sent are exactly the tasks that the kernel took; the
one that it refused is at the front of the queue. -/

set_option autoImplicit false

namespace CSwitch.Dispatch

open Std (TreeMap TreeSet)
open Policy Library

/-! ## Affinity reads -/

theorem collectAllowedCpus_none {skips : QueuedTask → Bool}
    {allowedCpus : Nat → Option (TreeSet Nat)} {collected : CpuSetMap} {entry : Nat × QueuedTask}
    {tid : Nat} (missing : (collectAllowedCpus skips allowedCpus collected entry)[tid]? = none) :
    collected[tid]? = none ∧ (skips entry.2 = false → entry.2.key = tid →
      readableCpus (allowedCpus entry.1) = none) := by
  unfold collectAllowedCpus at missing
  split at missing
  next skipped =>
    refine ⟨missing, fun reads key => ?_⟩
    rw [reads, Bool.false_or, key, TreeMap.contains_eq_isSome_getElem?, missing] at skipped
    simp at skipped
  · split at missing
    next unreadable => exact ⟨missing, fun _ _ => unreadable⟩
    next cpus _ =>
      rw [TreeMap.getElem?_insert] at missing
      split at missing
      · simp at missing
      next other =>
        refine ⟨missing, fun _ key => ?_⟩
        exact absurd (by rw [key]; exact Std.ReflCmp.compare_self) other

/-- A tid without a collected set had no readable affinity at any of its tasks. -/
theorem collectAllowedCpusWith_none {skips : QueuedTask → Bool} {pending : List QueuedTask}
    {allowedCpus : Nat → Option (TreeSet Nat)} {tid : Nat}
    (missing : (collectAllowedCpusWith skips pending allowedCpus)[tid]? = none) {index : Nat}
    {task : QueuedTask} (found : pending[index]? = some task) (read : skips task = false)
    (same : task.key = tid) : readableCpus (allowedCpus index) = none := by
  have folded : ∀ (entries : List (Nat × QueuedTask)) (collected : CpuSetMap),
      (entries.foldl (collectAllowedCpus skips allowedCpus) collected)[tid]? = none →
      collected[tid]? = none ∧ ∀ entry ∈ entries, skips entry.2 = false → entry.2.key = tid →
        readableCpus (allowedCpus entry.1) = none := by
    intro entries
    induction entries with
    | nil => intro collected missing; exact ⟨missing, by simp⟩
    | cons entry rest ih =>
        intro collected missing
        obtain ⟨after, later⟩ := ih _ missing
        obtain ⟨before, here⟩ := collectAllowedCpus_none after
        exact ⟨before, List.forall_mem_cons.mpr ⟨here, later⟩⟩
  obtain ⟨bound, rfl⟩ := List.getElem?_eq_some_iff.mp found
  refine (folded _ ∅ missing).2 (index, pending[index]) ?_ read same
  exact List.mem_mapIdx.mpr ⟨index, bound, rfl⟩

/-! ## The default loop -/

/-- The queue and the deferred tasks after some of the old queue was popped. -/
structure PoppedInOrder (pending : List QueuedTask) (attempts : Nat → Attempt) (popped : Nat)
    (flow : Flow QueuedTask Handover) : Prop where
  queue : flow.pending = pending.drop popped
  deferred : flow.deferred.Sublist (pending.take popped)
  failed : flow.halted = true → popped < pending.length ∧ (attempts popped).accepted = false

namespace PoppedInOrder

variable {pending rest : List QueuedTask} {attempts : Nat → Attempt} {popped : Nat}
  {flow : Flow QueuedTask Handover} {task : QueuedTask}

theorem front (before : PoppedInOrder pending attempts popped flow)
    (found : flow.pending = task :: rest) : pending[popped]? = some task := by
  rw [← List.head?_drop, ← before.queue, found, List.head?_cons]

theorem behind (before : PoppedInOrder pending attempts popped flow)
    (found : flow.pending = task :: rest) : pending.drop (popped + 1) = rest := by
  rw [← List.tail_drop, ← before.queue, found, List.tail_cons]

/-- A refused send puts the task back in front and stops the loop. -/
theorem refuse (before : PoppedInOrder pending attempts popped flow)
    (found : flow.pending = task :: rest) (refused : (attempts popped).accepted = false) :
    PoppedInOrder pending attempts popped (flow.settle 0 .failed) := by
  obtain ⟨bound, _⟩ := List.getElem?_eq_some_iff.mp (before.front found)
  have first : flow.pending[0]? = some task := by rw [found]; rfl
  rw [Flow.settle_failed first]
  refine ⟨?_, before.deferred, fun _ => ⟨bound, refused⟩⟩
  rw [← before.queue, found]
  rfl

/-- Every other fate takes the task out of the queue; only a deferred one is kept. -/
theorem pop (before : PoppedInOrder pending attempts popped flow)
    (found : flow.pending = task :: rest) (running : flow.halted = false) {fate : Fate Handover}
    (settled : fate ≠ .failed) :
    PoppedInOrder pending attempts (popped + 1) (flow.settle 0 fate) := by
  have first : flow.pending[0]? = some task := by rw [found]; rfl
  have advance : flow.pending.eraseIdx 0 = pending.drop (popped + 1) := by
    rw [found, before.behind found]
    rfl
  have grown : pending.take (popped + 1) = pending.take popped ++ [task] := by
    rw [List.take_add_one, before.front found, Option.toList_some]
  have kept : flow.deferred.Sublist (pending.take (popped + 1)) := by
    rw [grown]
    exact before.deferred.trans (List.sublist_append_left _ _)
  have still : flow.halted = true → popped + 1 < pending.length ∧
      (attempts (popped + 1)).accepted = false := by
    rw [running]
    simp
  cases fate with
  | sent record =>
      rw [Flow.settle_sent first]
      exact ⟨advance, kept, still⟩
  | deferred =>
      rw [Flow.settle_deferred first]
      refine ⟨advance, ?_, still⟩
      rw [grown]
      exact before.deferred.append (List.Sublist.refl _)
  | dropped =>
      rw [Flow.settle_dropped first]
      exact ⟨advance, kept, still⟩
  | failed => exact absurd rfl settled

end PoppedInOrder

/-! ## Offers to the kernel -/

/-- Whether an iteration hands the task to `bpf.dispatch_task`. -/
def DispatchRound.offers (round : DispatchRound) (state : DispatchState) (task : QueuedTask)
    (attempt : Attempt) : Bool :=
  task.group == round.userschedPid ||
    (round.allowedCpusByTid[task.key]?).any fun allowedCpus =>
      !(round.settleTask state task allowedCpus attempt.nowNs).decision.deferDispatch

/-- The queue index of the task that an iteration hands to the kernel, if any. -/
def Burst.offered (round : DispatchRound) (attempt : Attempt) (burst : Burst) : Option Nat :=
  if burst.flow.halted then none
  else (burst.flow.pending.head?.filter (round.offers burst.state · attempt)).map fun _ => 0

section Offer

variable {round : DispatchRound} {attempt : Attempt} {burst : Burst} {task : QueuedTask}
  {rest : List QueuedTask}

theorem offered_idle (idle : burst.flow.active = false) : burst.offered round attempt = none := by
  unfold Burst.offered
  cases halted : burst.flow.halted with
  | true => rfl
  | false =>
      have empty : burst.flow.pending = [] := by simpa [Flow.active, halted] using idle
      simp [empty]

theorem offered_front (running : burst.flow.halted = false)
    (front : burst.flow.pending = task :: rest) :
    burst.offered round attempt =
      if round.offers burst.state task attempt then some 0 else none := by
  unfold Burst.offered
  rw [running, front, List.head?_cons, if_neg Bool.false_ne_true]
  cases offers : round.offers burst.state task attempt with
  | true => simp [Option.filter, offers]
  | false => simp [Option.filter, offers]

/-- What a step does with the task tells whether the kernel was asked, and its answer. -/
theorem TaskStep.offers {state after : DispatchState} {fate : Fate Handover}
    (step : TaskStep round state task attempt after fate) :
    if round.offers state task attempt then
      if attempt.accepted then ∃ handover, HandsOver task handover ∧ fate = .sent handover
      else fate = .failed
    else fate = .deferred ∨ fate = .dropped := by
  unfold DispatchRound.offers
  cases step with
  | usersched own accepted => simp [own, accepted, HandsOver, userschedDispatch, DispatchedTask.new]
  | userschedFailed own refused => simp [own, refused]
  | dropped managed unread => simp [managed, unread]
  | failed managed read taken held refused =>
      subst taken
      simp [read, held, refused]
  | deferred managed read taken put =>
      subst taken
      simp [managed, read, put]
  | sent managed read taken held accepted =>
      subst taken
      simp only [read, Option.any_some, held, Bool.not_false, Bool.or_true, if_true, accepted]
      refine ⟨_, ?_, rfl⟩
      exact rfl

theorem dispatchNext_offer {index : Nat} (choice : burst.offered round attempt = some index) :
    ∃ task, burst.flow.pending[index]? = some task ∧
      if attempt.accepted then
        ∃ handover, HandsOver task handover ∧
          (dispatchNext round attempt burst).flow = burst.flow.settle index (.sent handover)
      else (dispatchNext round attempt burst).flow = burst.flow.settle index .failed := by
  cases dispatchNext_cases round attempt burst with
  | inl idle =>
      rw [offered_idle idle.1] at choice
      cases choice
  | inr moved =>
      obtain ⟨task, rest, state, fate, front, running, step, next⟩ := moved
      have answer := step.offers
      rw [offered_front running front] at choice
      split at choice
      next asked =>
        obtain rfl := Option.some.inj choice
        rw [if_pos asked] at answer
        refine ⟨task, by rw [front]; rfl, ?_⟩
        rw [next]
        cases accepted : attempt.accepted with
        | true =>
            rw [accepted, if_pos rfl] at answer
            obtain ⟨handover, own, rfl⟩ := answer
            exact ⟨handover, own, rfl⟩
        | false =>
            rw [accepted, if_neg Bool.false_ne_true] at answer
            rw [answer, if_neg Bool.false_ne_true]
      · cases choice

theorem dispatchNext_silent (silent : burst.offered round attempt = none) :
    (dispatchNext round attempt burst).flow.sent = burst.flow.sent := by
  cases dispatchNext_cases round attempt burst with
  | inl idle => rw [idle.2]
  | inr moved =>
      obtain ⟨task, rest, state, fate, front, running, step, next⟩ := moved
      have found : burst.flow.pending[0]? = some task := by rw [front]; rfl
      have answer := step.offers
      rw [offered_front running front] at silent
      split at silent
      · cases silent
      next unasked =>
        rw [if_neg unasked] at answer
        rw [next]
        cases answer with
        | inl deferred => rw [deferred, Flow.settle_deferred found]
        | inr dropped => rw [dropped, Flow.settle_dropped found]

end Offer

def DroppedUnread (round : DispatchRound) (flow : Flow QueuedTask Handover) : Prop :=
  ∀ task ∈ flow.dropped, round.allowedCpusByTid[task.key]? = none

section Default

variable (round : DispatchRound) (attempts : Nat → Attempt) (burst : Burst)

theorem iterate_dispatchNext_items (count : Nat) :
    (iterate (dispatchNext round) attempts burst count).flow.items = burst.flow.items := by
  refine iterate_invariant (fun point : Burst => point.flow.items = burst.flow.items) rfl ?_ count
  intro count same
  rcases dispatchNext_cases round (attempts count)
      (iterate (dispatchNext round) attempts burst count) with
    ⟨_, idle⟩ | ⟨_, _, _, fate, _, _, _, next⟩
  · rwa [idle]
  · rw [next, ← same]
    exact Flow.items_settle _ 0 fate

theorem iterate_dispatchNext_dropped (fresh : burst.flow.dropped = []) (count : Nat) :
    DroppedUnread round (iterate (dispatchNext round) attempts burst count).flow := by
  refine iterate_invariant (fun point : Burst => DroppedUnread round point.flow)
    (by simp [DroppedUnread, fresh]) ?_ count
  intro count before
  rcases dispatchNext_cases round (attempts count)
      (iterate (dispatchNext round) attempts burst count) with
    ⟨_, idle⟩ | ⟨task, rest, state, fate, front, _, step, next⟩
  · rwa [idle]
  have found : (iterate (dispatchNext round) attempts burst count).flow.pending[0]? = some task := by
    rw [front]
    rfl
  rw [next]
  cases step with
  | usersched own accepted => rw [Flow.settle_sent found]; exact before
  | userschedFailed own refused => rw [Flow.settle_failed found]; exact before
  | dropped managed unread =>
      rw [Flow.settle_dropped found]
      intro other member
      rcases List.mem_append.mp member with earlier | here
      · exact before other earlier
      · rw [List.mem_singleton.mp here]
        exact unread
  | failed managed read taken held refused => rw [Flow.settle_failed found]; exact before
  | deferred managed read taken put => rw [Flow.settle_deferred found]; exact before
  | sent managed read taken held accepted => rw [Flow.settle_sent found]; exact before

/-- The loop pops the queue in order: while it runs, one task per iteration. -/
theorem iterate_dispatchNext_order (fresh : burst.flow.deferred = [] ∧ burst.flow.halted = false)
    {count : Nat} (within : count ≤ burst.flow.pending.length) :
    ∃ popped, PoppedInOrder burst.flow.pending attempts popped
        (iterate (dispatchNext round) attempts burst count).flow ∧
      ((iterate (dispatchNext round) attempts burst count).flow.halted = false → popped = count) := by
  induction count with
  | zero =>
      refine ⟨0, ⟨rfl, by simp [iterate, fresh.1], ?_⟩, fun _ => rfl⟩
      simp [iterate, fresh.2]
  | succ count ih =>
      obtain ⟨popped, before, current⟩ := ih (by omega)
      rw [iterate]
      generalize iterate (dispatchNext round) attempts burst count = point at before current ⊢
      rcases dispatchNext_cases round (attempts count) point with
        ⟨idle, same⟩ | ⟨task, rest, state, fate, front, running, step, next⟩
      · rw [same]
        refine ⟨popped, before, fun running => ?_⟩
        -- the queue is not empty yet, so only a halted loop is idle here
        obtain rfl := current running
        have empty : point.flow.pending = [] := by
          simpa [Flow.active, running] using idle
        have ended := List.drop_eq_nil_iff.mp (before.queue.symm.trans empty)
        omega
      obtain rfl := current running
      have halts : (point.flow.settle 0 .failed).halted = true := by
        have first : point.flow.pending[0]? = some task := by rw [front]; rfl
        rw [Flow.settle_failed first]
      rw [next]
      dsimp only
      cases step with
      | usersched own accepted =>
          refine ⟨popped + 1, before.pop front running ?_, fun _ => rfl⟩
          simp
      | userschedFailed own refused =>
          exact ⟨popped, before.refuse front refused, fun still => by simp [halts] at still⟩
      | dropped managed unread =>
          refine ⟨popped + 1, before.pop front running ?_, fun _ => rfl⟩
          simp
      | failed managed read taken held refused =>
          exact ⟨popped, before.refuse front refused, fun still => by simp [halts] at still⟩
      | deferred managed read taken put =>
          refine ⟨popped + 1, before.pop front running ?_, fun _ => rfl⟩
          simp
      | sent managed read taken held accepted =>
          refine ⟨popped + 1, before.pop front running ?_, fun _ => rfl⟩
          simp

theorem iterate_dispatchNext_follows :
    FollowsAnswers
      (fun count => (iterate (dispatchNext round) attempts burst count).offered round (attempts count))
      (fun count => (attempts count).accepted) HandsOver
      (fun count => (iterate (dispatchNext round) attempts burst count).flow) where
  pending count index choice := by
    obtain ⟨_, found, _⟩ := dispatchNext_offer choice
    exact (List.getElem?_eq_some_iff.mp found).1
  sends count index item choice found accepted := by
    obtain ⟨task, same, answer⟩ := dispatchNext_offer choice
    obtain rfl := Option.some.inj (same.symm.trans found)
    rwa [if_pos accepted] at answer
  refuses count index choice refused := by
    obtain ⟨_, _, answer⟩ := dispatchNext_offer choice
    rwa [if_neg (by simp [refused])] at answer
  silent count none := dispatchNext_silent none

/-- The answers of the kernel to the offers of the whole loop. -/
def KernelAnswered : Prop :=
  Answered
    (fun count => (iterate (dispatchNext round) attempts burst count).offered round (attempts count))
    (fun count => (attempts count).accepted) HandsOver
    (fun count => (iterate (dispatchNext round) attempts burst count).flow)
    burst.flow.pending.length

theorem dispatchLoop_answered (fresh : burst.flow.sent = []) :
    KernelAnswered round attempts burst := by
  refine (iterate_dispatchNext_follows round attempts burst).answered fresh ?_ ?_
  · intro count late
    rw [iterate_dispatchNext_finished round attempts burst late]
    exact offered_idle (dispatchLoop_finished round attempts burst)
  · intro first last halted later
    have idle : (iterate (dispatchNext round) attempts burst first).flow.active = false := by
      simp [Flow.active, halted]
    exact congrArg Burst.flow
      (iterate_of_idle (fun attempt => dispatchNext_idle round attempt idle) later)

end Default

/-! ## All three loops -/

/-- The account of a finished round: every item of the old queue was sent, is
queued again, or was dropped, each as often as it was pending. -/
def Accounts {τ : Type} (pending queued : List τ) (flow : Flow τ Handover) : Prop :=
  (pending : Multiset τ) = queued + flow.sent.map Prod.fst + flow.dropped

theorem SelectLoop.run_accounts {τ σ ι : Type} (loop : SelectLoop τ σ ι) (inputs : Nat → ι) (state : σ)
    (pending : List τ) :
    Accounts pending (loop.run inputs ⟨state, { pending }⟩).flow.pending
      (loop.run inputs ⟨state, { pending }⟩).flow := by
  have conserves := loop.iterate_next_conserves inputs ⟨state, { pending }⟩ ⟨rfl, rfl⟩ pending.length
  have items := conserves.items
  unfold Flow.items at items
  rw [conserves.deferred] at items
  unfold Accounts SelectLoop.run
  simpa using items.symm

theorem dispatchLoops_conserve_tasks :
    (∀ (input : RoundInput) (attempts : Nat → Attempt),
      let flow := (dispatchLoop input.round attempts input.burst).flow
      flow.active = false ∧ Accounts input.pending flow.requeue flow ∧
        KernelAnswered input.round attempts input.burst ∧
        (∀ task ∈ flow.dropped, ∀ (index : Nat) (other : QueuedTask),
          input.pending[index]? = some other → other.key = task.key →
            readableCpus (input.allowedCpus index) = none) ∧
        ∃ popped, PoppedInOrder input.pending attempts popped flow ∧
          flow.requeue = input.pending.drop popped ++ flow.deferred) ∧
    (∀ (round : Nsdi.NsdiRound) (state : Nsdi.NsdiState) (pending : List Nsdi.PendingTask)
        (inputs : Nat → Nsdi.NsdiInput),
      let flow := (round.loop.run inputs ⟨state, { pending }⟩).flow
      flow.active = false ∧ Accounts pending flow.pending flow ∧
        round.loop.KernelAnswered inputs ⟨state, { pending }⟩ ∧
        ∀ item ∈ flow.dropped, ∃ count index,
          (iterate round.loop.next inputs ⟨state, { pending }⟩ count).flow.pending[index]? = some item ∧
            readableCpus ((inputs count).allowedCpus index) = none) ∧
    ∀ (round : Arcas.ArcasRound) (state : DispatchState) (pending : List QueuedTask)
        (allowedCpus : Nat → Option (TreeSet Nat)) (attempts : Nat → Attempt),
      let loop := (round.reading pending allowedCpus).loop
      let flow := (loop.run attempts ⟨state, { pending }⟩).flow
      flow.active = false ∧ Accounts pending flow.pending flow ∧
        loop.KernelAnswered attempts ⟨state, { pending }⟩ ∧
        ∀ task ∈ flow.dropped, task.group ≠ round.userschedPid ∧
          ∀ (index : Nat) (other : QueuedTask), pending[index]? = some other →
            other.group ≠ round.userschedPid → other.key = task.key →
              readableCpus (allowedCpus index) = none := by
  refine ⟨?_, ?_, ?_⟩
  · intro input attempts
    refine ⟨dispatchLoop_finished input.round attempts input.burst, ?_,
      dispatchLoop_answered input.round attempts input.burst rfl, ?_, ?_⟩
    · have items := iterate_dispatchNext_items input.round attempts input.burst input.pending.length
      unfold Flow.items at items
      unfold Accounts Flow.requeue dispatchLoop
      simpa [RoundInput.burst] using items.symm
    · intro task member index other found same
      have unread := iterate_dispatchNext_dropped input.round attempts input.burst rfl
        input.pending.length task member
      exact collectAllowedCpusWith_none unread found rfl same
    · obtain ⟨popped, order, _⟩ := iterate_dispatchNext_order input.round attempts input.burst
        ⟨rfl, rfl⟩ (Nat.le_refl _)
      exact ⟨popped, order, congrArg (· ++ _) order.queue⟩
  · intro round state pending inputs
    refine ⟨round.loop.run_finished inputs ⟨state, { pending }⟩,
      round.loop.run_accounts inputs state pending, round.loop.run_answered inputs _ rfl,
      fun item member => ?_⟩
    exact ((round.loop.iterate_next_conserves inputs ⟨state, { pending }⟩ ⟨rfl, rfl⟩
      pending.length).dropped item member).2
  · intro round state pending allowedCpus attempts loop
    refine ⟨loop.run_finished attempts ⟨state, { pending }⟩,
      loop.run_accounts attempts state pending, loop.run_answered attempts _ rfl,
      fun task member => ?_⟩
    obtain ⟨managed, _, _, _, unread⟩ := (loop.iterate_next_conserves attempts ⟨state, { pending }⟩
      ⟨rfl, rfl⟩ pending.length).dropped task member
    refine ⟨managed, fun index other found foreign same => ?_⟩
    have missing : (Arcas.collectAllowedCpusForPending pending round.userschedPid
        allowedCpus)[task.key]? = none := unread
    exact collectAllowedCpusWith_none missing found (by simpa using foreign) same

end CSwitch.Dispatch
