import CSwitch.Dispatch.Conservation
import CSwitch.Dispatch.FailedDispatch
import CSwitch.Dispatch.ThrottleRuns

/-! From the answer of the token bucket to what the kernel gets: the slice that
was charged is the slice that is handed over, and a deferred task is queued
again. -/

set_option autoImplicit false

namespace CSwitch.Dispatch

open Std (TreeMap TreeSet)
open Policy Planner Library

/-! ## What an iteration hands over -/

/-- The records that one iteration adds to those sent in the round. -/
def handedOver (round : DispatchRound) (attempt : Attempt) (burst : Burst) :
    List (QueuedTask × Handover) :=
  (dispatchNext round attempt burst).flow.sent.drop burst.flow.sent.length

section Grows

variable (round : DispatchRound) (attempts : Nat → Attempt) (burst : Burst)

theorem dispatchNext_grows (attempt : Attempt) :
    burst.flow.sent <+: (dispatchNext round attempt burst).flow.sent ∧
      burst.flow.deferred <+: (dispatchNext round attempt burst).flow.deferred := by
  rcases dispatchNext_cases round attempt burst with
    ⟨_, idle⟩ | ⟨_, _, _, fate, _, _, _, next⟩
  · rw [idle]
    exact ⟨List.prefix_rfl, List.prefix_rfl⟩
  · rw [next]
    exact Flow.settle_grows burst.flow 0 fate

theorem dispatchNext_sent (attempt : Attempt) :
    (dispatchNext round attempt burst).flow.sent =
      burst.flow.sent ++ handedOver round attempt burst := by
  obtain ⟨added, extended⟩ := (dispatchNext_grows round burst attempt).1
  unfold handedOver
  rw [← extended, List.drop_left]

/-- Everything sent was handed over in some iteration. -/
theorem iterate_dispatchNext_sent (fresh : burst.flow.sent = []) (count : Nat) :
    (iterate (dispatchNext round) attempts burst count).flow.sent =
      (List.range count).flatMap fun index =>
        handedOver round (attempts index) (iterate (dispatchNext round) attempts burst index) := by
  induction count with
  | zero => exact fresh
  | succ count ih =>
      rw [iterate, dispatchNext_sent, ih, List.range_succ, List.flatMap_append,
        List.flatMap_singleton]

theorem iterate_dispatchNext_deferred {first last : Nat} (later : first ≤ last) :
    (iterate (dispatchNext round) attempts burst first).flow.deferred <+:
      (iterate (dispatchNext round) attempts burst last).flow.deferred := by
  induction last, later using Nat.le_induction with
  | base => exact List.prefix_rfl
  | succ last _ ih => exact ih.trans (dispatchNext_grows round _ (attempts last)).2

end Grows

/-! ## The charge -/

/-- The tokens a granted slice costs: the slice itself, or, when it ends a
deferral that has lasted to its bound, the fewer tokens that are left. -/
inductive Charged (refilled charged : ManagedThreadState) (sliceNs nowNs : Nat) : Prop where
  | slice : charged.throttleTokensNs + sliceNs = refilled.throttleTokensNs →
      Charged refilled charged sliceNs nowNs
  | forced : refilled.throttleTokensNs < sliceNs → charged.throttleTokensNs = 0 →
      refilled.throttleDeferStartedNs ≠ 0 →
      villainDeferUpperBoundNs ≤ nowNs - refilled.throttleDeferStartedNs →
      Charged refilled charged sliceNs nowNs

theorem applyVillainTokenThrottle_charged {entry : ManagedThreadState} {linkId nowNs : Nat}
    {policy : PolicyConfig} {sliceNs tokensNs : Nat}
    (granted : (applyVillainTokenThrottle entry linkId nowNs policy).2 = .reslice sliceNs tokensNs) :
    Charged (refillVillainTokens entry linkId nowNs policy)
      (applyVillainTokenThrottle entry linkId nowNs policy).1 sliceNs nowNs := by
  rcases applyVillainTokenThrottle_cases entry linkId nowNs policy with
    ⟨enough, result⟩ | ⟨short, waiting, late, result⟩ | ⟨_, _, _, _, result⟩
  · rw [result] at granted ⊢
    cases granted
    exact .slice (Nat.sub_add_cancel enough)
  · rw [result] at granted ⊢
    cases granted
    exact .forced short rfl waiting late
  · rw [result] at granted
    cases granted

/-- A control is the answer of the bucket of its link. -/
theorem maybeApplyVillainTokenThrottle_some {entry : ManagedThreadState}
    {currentVillain : Option (Nat × LinkContender)} {isTickTrigger : Bool} {nowNs : Nat}
    {policy : PolicyConfig} {control : VillainThrottleControl}
    (answer : (maybeApplyVillainTokenThrottle entry currentVillain isTickTrigger nowNs
      policy).2 = some control) :
    control.action = (applyVillainTokenThrottle entry control.linkId nowNs policy).2 ∧
      (maybeApplyVillainTokenThrottle entry currentVillain isTickTrigger nowNs policy).1 =
        (applyVillainTokenThrottle entry control.linkId nowNs policy).1 := by
  unfold maybeApplyVillainTokenThrottle at answer ⊢
  dsimp only at answer ⊢
  cases active : policy.signatureSnapshots && policy.csVillainThrottle && isTickTrigger with
  | false => simp [active] at answer
  | true =>
      have enabled : policy.csVillainThrottle = true := by
        simp only [Bool.and_eq_true] at active
        exact active.1.2
      rw [active] at answer
      rw [if_neg (by simp)] at answer ⊢
      cases currentVillain with
      | none => cases answer
      | some villain =>
          -- a villain under an enabled throttle is not reset first
          have kept : ¬ ((some villain).isNone || !policy.csVillainThrottle) = true := by
            simp [enabled]
          rw [if_neg kept] at answer ⊢
          obtain rfl := Option.some.inj answer
          exact ⟨rfl, rfl⟩

/-! ## The verdict through the settling of a task -/

section Settle

variable {round : DispatchRound} {state : DispatchState} {task : QueuedTask} {nowNs : Nat}
  {control : VillainThrottleControl} {sliceNs tokensNs : Nat}

theorem overrideCpu_sliceNs (round : DispatchRound) (ctx : PlacementContext)
    (decision : PlacementDecision) : (round.overrideCpu ctx decision).sliceNs = decision.sliceNs := by
  unfold DispatchRound.overrideCpu
  split
  · rfl
  · split <;> rfl

theorem settleTask_sliceNs (answer : (round.throttled state task nowNs).2 = some control)
    (granted : control.action = .reslice sliceNs tokensNs) (allowedCpus : TreeSet Nat) :
    (round.settleTask state task allowedCpus nowNs).dispatched.sliceNs = sliceNs := by
  have decided : (round.settleTask state task allowedCpus nowNs).decision.sliceNs = sliceNs := by
    rw [settleTask_decision, overrideCpu_sliceNs, DispatchRound.controlled, answer]
    simp [applyControl, granted]
  exact decided

theorem settleTask_defers (answer : (round.throttled state task nowNs).2 = some control)
    (allowedCpus : TreeSet Nat) :
    (round.settleTask state task allowedCpus nowNs).decision.deferDispatch = control.defers := by
  rw [settleTask_deferDispatch, answer]
  rfl

/-- The record of the thread keeps the tokens that the bucket left. -/
theorem settleTask_tokens (allowedCpus : TreeSet Nat) :
    (round.settleTask state task allowedCpus nowNs).entry.throttleTokensNs =
      (round.throttled state task nowNs).1.throttleTokensNs := by
  have holdoff : ∀ (entry : ManagedThreadState) (decision : PlacementDecision),
      (nextTickHoldoffTicks entry task decision).1.throttleTokensNs = entry.throttleTokensNs := by
    intro entry decision
    unfold nextTickHoldoffTicks
    split <;> rfl
  exact holdoff _ _

theorem recordDecision_tokens (entry : ManagedThreadState) (task : QueuedTask)
    (decision : PlacementDecision) (nowNs : Nat) (dfStates : List (Option CcmDfStateValue))
    (cfg : PolicyConfig) :
    (recordDecision entry task decision nowNs dfStates cfg).throttleTokensNs =
      entry.throttleTokensNs := by
  have moved : ∀ seen : ManagedThreadState,
      (recordMigration seen task decision nowNs cfg).throttleTokensNs = seen.throttleTokensNs := by
    intro seen
    unfold recordMigration
    split <;> rfl
  unfold recordDecision
  dsimp only
  split
  · exact moved _
  · exact moved _

theorem threadEntry_insert (threads : ThreadMap) (tid : Nat) (entry : ManagedThreadState) :
    threadEntry (threads.insert tid entry) tid = entry := by
  simp [threadEntry]

end Settle

/-! ## The round -/

/-- What becomes of a queue entry on which the bucket has answered. -/
structure FollowsVerdict (round : DispatchRound) (attempt : Attempt) (before final : Burst)
    (task : QueuedTask) (control : VillainThrottleControl) : Prop where
  own : ∀ record ∈ handedOver round attempt before, record.1 = task
  resliced : ∀ sliceNs tokensNs, control.action = .reslice sliceNs tokensNs →
    (∀ record ∈ handedOver round attempt before, record.2.dispatched.sliceNs = sliceNs) ∧
      Charged
        (refillVillainTokens (threadEntry before.state.threads task.key) control.linkId
          attempt.nowNs round.cfg)
        (threadEntry (dispatchNext round attempt before).state.threads task.key) sliceNs
        attempt.nowNs
  deferred : ∀ tokensNs, control.action = .defer tokensNs →
    handedOver round attempt before = [] ∧
      before.flow.deferred ++ [task] <+: final.flow.deferred ∧ task ∈ final.flow.requeue

/-- An entry that keeps the tokens of the throttled one has paid for its slice. -/
theorem charged_of_throttled {round : DispatchRound} {state : DispatchState} {task : QueuedTask}
    {control : VillainThrottleControl} {entry : ManagedThreadState} {nowNs sliceNs tokensNs : Nat}
    (answer : (round.throttled state task nowNs).2 = some control)
    (granted : control.action = .reslice sliceNs tokensNs)
    (same : entry.throttleTokensNs = (round.throttled state task nowNs).1.throttleTokensNs) :
    Charged (refillVillainTokens (threadEntry state.threads task.key) control.linkId nowNs
      round.cfg) entry sliceNs nowNs := by
  obtain ⟨action, charged⟩ := maybeApplyVillainTokenThrottle_some answer
  have paid := applyVillainTokenThrottle_charged (action.symm.trans granted)
  unfold DispatchRound.throttled DispatchRound.throttle at same
  rw [charged] at same
  cases paid with
  | slice exact' => exact .slice (same ▸ exact')
  | forced short empty waiting late => exact .forced short (same.trans empty) waiting late

/-- One iteration on a queue entry with an answer of the bucket. -/
theorem dispatchNext_followsVerdict {round : DispatchRound} {attempt : Attempt} {before : Burst}
    {task : QueuedTask} {rest : List QueuedTask} {allowedCpus : TreeSet Nat}
    {control : VillainThrottleControl} (front : before.flow.pending = task :: rest)
    (running : before.flow.halted = false) (managed : task.group ≠ round.userschedPid)
    (read : round.allowedCpusByTid[task.key]? = some allowedCpus)
    (answer : (round.throttled before.state task attempt.nowNs).2 = some control) (final : Burst)
    (later : (dispatchNext round attempt before).flow.deferred <+: final.flow.deferred) :
    FollowsVerdict round attempt before final task control := by
  have found : before.flow.pending[0]? = some task := by
    rw [front]
    rfl
  have defers := settleTask_defers answer allowedCpus
  rcases dispatchNext_cases round attempt before with
    ⟨idle, _⟩ | ⟨popped, others, state, fate, queue, _, step, next⟩
  · simp [Flow.active, running, front] at idle
  obtain ⟨rfl, rfl⟩ := List.cons.inj (front.symm.trans queue)
  have added : handedOver round attempt before =
      (before.flow.settle 0 fate).sent.drop before.flow.sent.length := by
    unfold handedOver
    rw [next]
  have left : (dispatchNext round attempt before).state = state := by rw [next]
  cases step with
  | usersched own accepted => exact absurd own managed
  | userschedFailed own refused => exact absurd own managed
  | dropped _ unread =>
      rw [read] at unread
      cases unread
  | failed _ taken settled held refused =>
      obtain rfl := Option.some.inj (read.symm.trans taken)
      have nothing : handedOver round attempt before = [] := by
        rw [added, Flow.settle_failed found]
        exact List.drop_length
      subst settled
      refine ⟨by simp [nothing], ?_, ?_⟩
      · intro sliceNs tokensNs granted
        refine ⟨by simp [nothing], charged_of_throttled answer granted ?_⟩
        rw [left, threadEntry_insert]
        exact settleTask_tokens allowedCpus
      · intro tokensNs put
        rw [defers, VillainThrottleControl.defers, put] at held
        cases held
  | deferred _ taken settled put =>
      obtain rfl := Option.some.inj (read.symm.trans taken)
      have nothing : handedOver round attempt before = [] := by
        rw [added, Flow.settle_deferred found]
        exact List.drop_length
      have queued : before.flow.deferred ++ [task] <+: final.flow.deferred := by
        rwa [next, Flow.settle_deferred found] at later
      subst settled
      refine ⟨by simp [nothing], ?_, ?_⟩
      · intro sliceNs tokensNs granted
        rw [defers, VillainThrottleControl.defers, granted] at put
        cases put
      · intro tokensNs _
        refine ⟨nothing, queued, List.mem_append_right _ ?_⟩
        exact queued.subset (List.mem_append_right _ List.mem_cons_self)
  | @sent _ settled _ taken same held accepted =>
      obtain rfl := Option.some.inj (read.symm.trans taken)
      have one : handedOver round attempt before =
          [(task, ⟨settled.dispatched, some settled.decision, attempt.nowNs⟩)] := by
        rw [added, Flow.settle_sent found]
        exact List.drop_left
      subst same
      refine ⟨by simp [one], ?_, ?_⟩
      · intro sliceNs tokensNs granted
        refine ⟨?_, charged_of_throttled answer granted ?_⟩
        · intro record member
          rw [one, List.mem_singleton] at member
          rw [member]
          exact settleTask_sliceNs answer granted allowedCpus
        · rw [left, commitDecision_threads, threadEntry_insert, recordDecision_tokens]
          exact settleTask_tokens allowedCpus
      · intro tokensNs put
        rw [defers, VillainThrottleControl.defers, put] at held
        cases held

/-- In every round, on every queue entry that the round reaches: a granted slice
is what the kernel gets and what the bucket is charged for, a deferred task stays
with the scheduler. What is sent in the round is what its iterations hand over. -/
theorem dispatchLoop_followsVerdict (input : RoundInput) (attempts : Nat → Attempt) (index : Nat)
    (task : QueuedTask) (allowedCpus : TreeSet Nat) (control : VillainThrottleControl)
    (entry : input.pending[index]? = some task)
    (reached : (iterate (dispatchNext input.round) attempts input.burst index).flow.halted = false)
    (managed : task.group ≠ input.userschedPid)
    (read : input.allowedCpusByTid[task.key]? = some allowedCpus)
    (answer : (input.round.throttled
      (iterate (dispatchNext input.round) attempts input.burst index).state task
      (attempts index).nowNs).2 = some control) :
    (dispatchLoop input.round attempts input.burst).flow.sent =
        ((List.range input.pending.length).flatMap fun index =>
          handedOver input.round (attempts index)
            (iterate (dispatchNext input.round) attempts input.burst index)) ∧
      FollowsVerdict input.round (attempts index)
        (iterate (dispatchNext input.round) attempts input.burst index)
        (dispatchLoop input.round attempts input.burst) task control := by
  refine ⟨iterate_dispatchNext_sent input.round attempts input.burst rfl _, ?_⟩
  have bound : index < input.pending.length := (List.getElem?_eq_some_iff.mp entry).1
  obtain ⟨popped, order, current⟩ :=
    iterate_dispatchNext_order input.round attempts input.burst ⟨rfl, rfl⟩ bound.le
  obtain rfl := current reached
  have front : (iterate (dispatchNext input.round) attempts input.burst popped).flow.pending =
      task :: input.pending.drop (popped + 1) := by
    refine order.queue.trans ?_
    obtain ⟨_, rfl⟩ := List.getElem?_eq_some_iff.mp entry
    exact List.drop_eq_getElem_cons bound
  exact dispatchNext_followsVerdict front reached managed read answer _
    (iterate_dispatchNext_deferred input.round attempts input.burst bound)

/-- One villain on a tick; its bucket is empty and it has been deferred for as
long as a deferral may last. -/
def villainRound : RoundInput :=
  { tickRound with
    cfg := { samplePolicy with signatureSnapshots := true }
    threads := (∅ : ThreadMap).insert 7
      { strandedThread with
        throttleLinkId := some 0
        throttleLastRefillNs := 2000000000
        throttleDeferStartedNs := 1000000000 }
    effectiveLinkVillains := [some { tid := 7, score := 100, contenderCount := 1 }] }

def villainAttempts (_ : Nat) : Attempt := ⟨2000000000, true⟩

def villainControl : VillainThrottleControl where
  linkId := 0
  score := 100
  action := .reslice 1000000 0
  tokenCapacityNs := 1000000

theorem dispatchLoop_followsVerdict_villain :
    FollowsVerdict villainRound.round (villainAttempts 0) villainRound.burst
      (dispatchLoop villainRound.round villainAttempts villainRound.burst)
      { strandedTask with trigger := 1 } villainControl := by
  refine (dispatchLoop_followsVerdict villainRound villainAttempts 0
    { strandedTask with trigger := 1 } (.ofList [0, 1]) villainControl ?_ ?_ ?_ ?_ ?_).2
  · rfl
  · rfl
  · decide
  · rfl
  · rfl

/-- The slice that ends a deferral is not paid for. -/
theorem dispatchLoop_forced_unpaid :
    (villainRound.round.throttled villainRound.burst.state { strandedTask with trigger := 1 }
        2000000000).2 = some villainControl ∧
    (handedOver villainRound.round (villainAttempts 0) villainRound.burst).map
        (fun record => record.2.dispatched.sliceNs) = [1000000] ∧
    ¬ ∀ record ∈ handedOver villainRound.round (villainAttempts 0) villainRound.burst,
      (threadEntry (dispatchNext villainRound.round (villainAttempts 0)
          villainRound.burst).state.threads 7).throttleTokensNs + record.2.dispatched.sliceNs =
        (refillVillainTokens (threadEntry villainRound.threads 7) 0 2000000000
          villainRound.cfg).throttleTokensNs :=
  ⟨rfl, by decide +kernel⟩

end CSwitch.Dispatch
