import CSwitch.Dispatch.Loop

/-! What one iteration of the dispatch loop can do. `TaskStep` lists the ways a
popped task can end, `Decided` the ways its placement can be decided; the run
results case on these two. -/

set_option autoImplicit false

namespace CSwitch.Dispatch

open Std (TreeMap TreeSet)
open Policy Planner Library

/-! ## The final decision -/

/-- Where a placement comes from: an executed plan entry or the fallback policy. -/
inductive Decided (round : DispatchRound) (ctx : PlacementContext) : PlacementDecision → Prop where
  | planned {plan : PlacementPlan} {entry : PlacementPlanEntry} {decision : PlacementDecision}
      (active : round.activePlan = some plan)
      (current : planIsCurrent plan round.latestDfSweepEpoch = true)
      (listed : plan.entries[ctx.task.key]? = some entry)
      (accepted : planRejection ctx entry.targetDomain = none)
      (domain : decision.selectedDomain = some entry.targetDomain)
      (reason : decision.reason = planReason ctx entry.targetDomain)
      (used : decision.planUsed = true) : Decided round ctx decision
  | policy {answer decision : PlacementDecision} (outcome : PolicyOutcome ctx answer)
      (domain : decision.selectedDomain = answer.selectedDomain)
      (reason : decision.reason = answer.reason)
      (unplanned : decision.planUsed = false) : Decided round ctx decision

/-- What every later stage keeps of a decision that is dispatched. -/
structure SamePlacement (first final : PlacementDecision) : Prop where
  domain : final.selectedDomain = first.selectedDomain
  reason : final.reason = first.reason
  planUsed : final.planUsed = first.planUsed
  deferDispatch : final.deferDispatch = first.deferDispatch

theorem SamePlacement.refl (decision : PlacementDecision) : SamePlacement decision decision :=
  ⟨rfl, rfl, rfl, rfl⟩

theorem SamePlacement.trans {first second third : PlacementDecision}
    (left : SamePlacement first second) (right : SamePlacement second third) :
    SamePlacement first third :=
  ⟨right.domain.trans left.domain, right.reason.trans left.reason,
    right.planUsed.trans left.planUsed, right.deferDispatch.trans left.deferDispatch⟩

theorem SamePlacement.isCrossDomainMove {first final : PlacementDecision}
    (same : SamePlacement first final) (task : QueuedTask) :
    isCrossDomainMove task final = isCrossDomainMove task first := by
  unfold Dispatch.isCrossDomainMove
  rw [same.domain, same.reason, same.deferDispatch]

theorem Decided.of_same {round : DispatchRound} {ctx : PlacementContext}
    {first final : PlacementDecision} (decided : Decided round ctx first)
    (same : SamePlacement first final) : Decided round ctx final := by
  cases decided with
  | planned active current listed accepted domain reason used =>
      exact .planned active current listed accepted (same.domain.trans domain)
        (same.reason.trans reason) (same.planUsed.trans used)
  | policy outcome domain reason unplanned =>
      exact .policy outcome (same.domain.trans domain) (same.reason.trans reason)
        (same.planUsed.trans unplanned)

theorem fallbackDecision_same (round : DispatchRound) (ctx : PlacementContext)
    (reason : PlanRejection) :
    SamePlacement (choosePlacementWithPlannedCpus ctx) (round.fallbackDecision ctx reason) ∧
      (round.fallbackDecision ctx reason).selectedCpu =
        (choosePlacementWithPlannedCpus ctx).selectedCpu ∧
      (round.fallbackDecision ctx reason).trigger = (choosePlacementWithPlannedCpus ctx).trigger ∧
      (round.fallbackDecision ctx reason).tickDecision =
        (choosePlacementWithPlannedCpus ctx).tickDecision := by
  unfold DispatchRound.fallbackDecision
  split
  · exact ⟨⟨rfl, rfl, rfl, rfl⟩, rfl, rfl, rfl⟩
  · dsimp only
    split <;> exact ⟨⟨rfl, rfl, rfl, rfl⟩, rfl, rfl, rfl⟩

theorem firstDecision_cases (round : DispatchRound) (ctx : PlacementContext) :
    (∃ plan entry cpu, round.activePlan = some plan ∧
      planIsCurrent plan round.latestDfSweepEpoch = true ∧
      plan.entries[ctx.task.key]? = some entry ∧ planRejection ctx entry.targetDomain = none ∧
      round.firstDecision ctx = planDecision ctx entry cpu) ∨
    ∃ reason, round.firstDecision ctx = round.fallbackDecision ctx reason := by
  unfold DispatchRound.firstDecision
  cases active : round.activePlan with
  | none => exact .inr ⟨_, rfl⟩
  | some plan =>
      simp only
      cases planned : plannedDecision ctx plan round.latestDfSweepEpoch with
      | error reason => exact .inr ⟨reason, rfl⟩
      | ok decision =>
          obtain ⟨current, entry, cpu, listed, accepted, rfl⟩ := plannedDecision_ok planned
          exact .inl ⟨plan, entry, cpu, rfl, current, listed, accepted, rfl⟩

theorem firstDecision_decided (round : DispatchRound) (ctx : PlacementContext) :
    Decided round ctx (round.firstDecision ctx) ∧
      (round.firstDecision ctx).deferDispatch = false := by
  rcases firstDecision_cases round ctx with
    ⟨plan, entry, cpu, active, current, listed, accepted, decision⟩ | ⟨reason, decision⟩
  · rw [decision]
    exact ⟨.planned active current listed accepted rfl rfl rfl, rfl⟩
  · have outcome := choosePlacement_outcome ctx
    have same := (fallbackDecision_same round ctx reason).1
    rw [decision]
    exact ⟨.policy outcome same.domain same.reason (same.planUsed.trans outcome.not_planned),
      same.deferDispatch.trans outcome.not_deferred⟩

/-- The throttle writes nothing that the policy reads. -/
theorem throttle_view (round : DispatchRound) (task : QueuedTask) (threads : ThreadMap)
    (nowNs : Nat) :
    SameThreadView threads[task.key]?
      (some (round.throttle task (threadEntry threads task.key) nowNs).1) := by
  obtain ⟨fields, written⟩ := maybeApplyVillainTokenThrottle_frame
    (threadEntry threads task.key) (round.currentVillain task.key)
    (QueueTrigger.fromU32 task.trigger).isTick nowNs round.cfg
  have view := sameThreadFields_withThrottle (threadEntry threads task.key) fields
  unfold DispatchRound.throttle
  rw [written]
  cases known : threads[task.key]? with
  | none =>
      rw [threadEntry, known, Option.getD_none] at view ⊢
      exact sameThreadView_fresh view
  | some entry =>
      rw [threadEntry, known, Option.getD_some] at view ⊢
      exact ⟨fun task capacity => (view.view.effect task capacity).symm,
        fun current candidate now => (view.view.reverse current candidate now).symm,
        fun task => (view.view.young task).symm, view.view.settle.symm,
        view.view.sampleCount.symm, view.view.confidence.symm, view.view.stable.symm⟩

theorem applyControl_deferDispatch {control : VillainThrottleControl}
    (defers : control.defers = true) (task : QueuedTask) (decision : PlacementDecision) :
    (applyControl task decision control).deferDispatch = true := by
  cases action : control.action with
  | defer tokensNs => simp [applyControl, action]
  | reslice sliceNs tokensNs => simp [VillainThrottleControl.defers, action] at defers

theorem applyControl_same {control : VillainThrottleControl} (runs : control.defers = false)
    (task : QueuedTask) (decision : PlacementDecision) :
    SamePlacement decision (applyControl task decision control) ∧
      (applyControl task decision control).selectedCpu = decision.selectedCpu := by
  cases action : control.action with
  | defer tokensNs => simp [VillainThrottleControl.defers, action] at runs
  | reslice sliceNs tokensNs =>
      simp only [applyControl, action]
      exact ⟨⟨rfl, rfl, rfl, rfl⟩, trivial⟩

theorem applyControl_planUsed (task : QueuedTask) (decision : PlacementDecision)
    (control : VillainThrottleControl) :
    (applyControl task decision control).planUsed = decision.planUsed := by
  unfold applyControl
  dsimp only
  split <;> rfl

/-- Asking the policy again changes nothing. -/
theorem revalidate_eq {ctx : PlacementContext} {decision : PlacementDecision}
    (same : decision.planUsed = true ∨ isCrossDomainMove ctx.task decision = false ∨
      (SamePlacement (choosePlacementWithPlannedCpus ctx) decision ∧
        decision.selectedCpu = (choosePlacementWithPlannedCpus ctx).selectedCpu)) :
    revalidate ctx decision = decision := by
  unfold revalidate
  split
  next asked =>
    simp only [Bool.and_eq_true, Bool.not_eq_true'] at asked
    rcases same with used | still | ⟨same, cpu⟩
    · rw [used] at asked
      exact absurd asked.1 (by simp)
    · rw [still] at asked
      exact absurd asked.2 (by simp)
    · have move := same.isCrossDomainMove ctx.task
      rw [asked.2] at move
      simp [← move, same.domain, cpu]
  · rfl

theorem overrideCpu_same (round : DispatchRound) (ctx : PlacementContext)
    (decision : PlacementDecision) : SamePlacement decision (round.overrideCpu ctx decision) := by
  unfold DispatchRound.overrideCpu
  split
  · exact .refl _
  · split <;> exact ⟨rfl, rfl, rfl, rfl⟩

section Settle

variable (round : DispatchRound) (state : DispatchState) (task : QueuedTask)
  (allowedCpus : TreeSet Nat) (nowNs : Nat)

def DispatchRound.throttled : ManagedThreadState × Option VillainThrottleControl :=
  round.throttle task (threadEntry state.threads task.key) nowNs

/-- The decision before a reserved CPU replaces the chosen one. -/
def DispatchRound.controlled : PlacementDecision :=
  let first := round.firstDecision (round.context state task allowedCpus nowNs)
  ((round.throttled state task nowNs).2.map (applyControl task first)).getD first

/-- The throttle has the last word: no second look at the policy undoes it. -/
theorem settleTask_decision :
    (round.settleTask state task allowedCpus nowNs).decision =
      round.overrideCpu ((round.context state task allowedCpus nowNs).withThread
        (some (round.throttled state task nowNs).1)) (round.controlled state task allowedCpus nowNs) := by
  have unchanged : revalidate ((round.context state task allowedCpus nowNs).withThread
      (some (round.throttled state task nowNs).1)) (round.controlled state task allowedCpus nowNs) =
        round.controlled state task allowedCpus nowNs := by
    apply revalidate_eq
    have view := PlacementContext.choosePlacement_congr (throttle_view round task state.threads nowNs)
      (round.context state task allowedCpus nowNs)
    have original : (round.context state task allowedCpus nowNs).withThread state.threads[task.key]? =
        round.context state task allowedCpus nowNs := rfl
    rw [original] at view
    unfold DispatchRound.controlled DispatchRound.throttled
    dsimp only
    rw [← view]
    rcases firstDecision_cases round (round.context state task allowedCpus nowNs) with
      ⟨plan, entry, cpu, _, _, _, _, decision⟩ | ⟨reason, decision⟩
    · refine .inl ?_
      rw [decision]
      cases (round.throttle task (threadEntry state.threads task.key) nowNs).2 with
      | none => rfl
      | some control => exact applyControl_planUsed task _ control
    · obtain ⟨same, chosen, _⟩ :=
        fallbackDecision_same round (round.context state task allowedCpus nowNs) reason
      rw [decision]
      cases (round.throttle task (threadEntry state.threads task.key) nowNs).2 with
      | none => exact .inr (.inr ⟨same, chosen⟩)
      | some control =>
          cases defers : control.defers with
          | true =>
              have put := applyControl_deferDispatch defers task
                (round.fallbackDecision (round.context state task allowedCpus nowNs) reason)
              exact .inr (.inl (by simp [isCrossDomainMove, put]))
          | false =>
              obtain ⟨kept, cpu⟩ := applyControl_same defers task
                (round.fallbackDecision (round.context state task allowedCpus nowNs) reason)
              exact .inr (.inr ⟨same.trans kept, cpu.trans chosen⟩)
  unfold DispatchRound.settleTask
  dsimp only
  exact congrArg _ unchanged

theorem settleTask_deferDispatch :
    (round.settleTask state task allowedCpus nowNs).decision.deferDispatch =
      ((round.throttled state task nowNs).2.map VillainThrottleControl.defers).getD false := by
  rw [settleTask_decision, (overrideCpu_same round _ _).deferDispatch]
  have runs := (firstDecision_decided round (round.context state task allowedCpus nowNs)).2
  unfold DispatchRound.controlled
  dsimp only
  cases (round.throttled state task nowNs).2 with
  | none => exact runs
  | some control =>
      cases defers : control.defers with
      | true => simp [applyControl_deferDispatch defers, defers]
      | false => simp [(applyControl_same defers task _).1.deferDispatch, runs, defers]

theorem settleTask_same
    (held : (round.settleTask state task allowedCpus nowNs).decision.deferDispatch = false) :
    SamePlacement (round.firstDecision (round.context state task allowedCpus nowNs))
      (round.settleTask state task allowedCpus nowNs).decision := by
  rw [settleTask_decision] at held ⊢
  have override := overrideCpu_same round ((round.context state task allowedCpus nowNs).withThread
    (some (round.throttled state task nowNs).1)) (round.controlled state task allowedCpus nowNs)
  rw [override.deferDispatch] at held
  refine SamePlacement.trans ?_ override
  unfold DispatchRound.controlled at held ⊢
  dsimp only at held ⊢
  cases controlled : (round.throttled state task nowNs).2 with
  | none => exact .refl _
  | some control =>
      cases defers : control.defers with
      | true =>
          simp only [controlled, Option.map_some, Option.getD_some,
            applyControl_deferDispatch defers] at held
          exact absurd held (by simp)
      | false => exact (applyControl_same defers task _).1

theorem settleTask_decided
    (held : (round.settleTask state task allowedCpus nowNs).decision.deferDispatch = false) :
    Decided round (round.context state task allowedCpus nowNs)
      (round.settleTask state task allowedCpus nowNs).decision :=
  (firstDecision_decided round _).1.of_same (settleTask_same round state task allowedCpus nowNs held)

end Settle

/-! ## One iteration -/

inductive TaskStep (round : DispatchRound) (state : DispatchState) (task : QueuedTask)
    (attempt : Attempt) : DispatchState → Fate Handover → Prop where
  | usersched (own : task.group = round.userschedPid) (accepted : attempt.accepted = true) :
      TaskStep round state task attempt state
        (.sent ⟨userschedDispatch task, none, attempt.nowNs⟩)
  | userschedFailed (own : task.group = round.userschedPid) (refused : attempt.accepted = false) :
      TaskStep round state task attempt state .failed
  | dropped (managed : task.group ≠ round.userschedPid)
      (unread : round.allowedCpusByTid[task.key]? = none) :
      TaskStep round state task attempt state .dropped
  | failed {allowedCpus : TreeSet Nat} {settled : SettledTask}
      (managed : task.group ≠ round.userschedPid)
      (read : round.allowedCpusByTid[task.key]? = some allowedCpus)
      (taken : settled = round.settleTask state task allowedCpus attempt.nowNs)
      (held : settled.decision.deferDispatch = false) (refused : attempt.accepted = false) :
      TaskStep round state task attempt
        { state with threads := state.threads.insert task.key settled.entry } .failed
  | deferred {allowedCpus : TreeSet Nat} {settled : SettledTask}
      (managed : task.group ≠ round.userschedPid)
      (read : round.allowedCpusByTid[task.key]? = some allowedCpus)
      (taken : settled = round.settleTask state task allowedCpus attempt.nowNs)
      (put : settled.decision.deferDispatch = true) :
      TaskStep round state task attempt
        { state with threads := state.threads.insert task.key (recordDecision settled.entry task
          settled.decision attempt.nowNs round.dfStates round.cfg) } .deferred
  | sent {allowedCpus : TreeSet Nat} {settled : SettledTask}
      (managed : task.group ≠ round.userschedPid)
      (read : round.allowedCpusByTid[task.key]? = some allowedCpus)
      (taken : settled = round.settleTask state task allowedCpus attempt.nowNs)
      (held : settled.decision.deferDispatch = false) (accepted : attempt.accepted = true) :
      TaskStep round state task attempt
        (round.commitDecision { state with threads := state.threads.insert task.key (recordDecision
          settled.entry task settled.decision attempt.nowNs round.dfStates round.cfg) } task
          settled.decision attempt.nowNs)
        (.sent ⟨settled.dispatched, some settled.decision, attempt.nowNs⟩)

theorem dispatchTask_step (round : DispatchRound) (state : DispatchState) (task : QueuedTask)
    (attempt : Attempt) :
    TaskStep round state task attempt (round.dispatchTask state task attempt).1
      (round.dispatchTask state task attempt).2 := by
  unfold DispatchRound.dispatchTask
  split
  next own =>
    cases accepted : attempt.accepted with
    | true => exact .usersched own accepted
    | false => exact .userschedFailed own accepted
  next managed =>
    split
    next unread => exact .dropped managed unread
    next allowedCpus read =>
      unfold DispatchRound.dispatchManaged
      dsimp only
      cases put : (round.settleTask state task allowedCpus attempt.nowNs).decision.deferDispatch with
      | true =>
          simp only [Bool.not_true, Bool.false_and, Bool.false_eq_true, if_false, if_true]
          exact .deferred managed read rfl put
      | false =>
          cases accepted : attempt.accepted with
          | false =>
              simp only [Bool.not_false, Bool.and_self, if_true]
              exact .failed managed read rfl put accepted
          | true =>
              simp only [Bool.not_false, Bool.not_true, Bool.and_false, Bool.false_eq_true, if_false]
              exact .sent managed read rfl put accepted

/-- An iteration does nothing, or settles the front task of the queue. -/
theorem dispatchNext_cases (round : DispatchRound) (attempt : Attempt) (burst : Burst) :
    (burst.flow.active = false ∧ dispatchNext round attempt burst = burst) ∨
      ∃ task rest state fate, burst.flow.pending = task :: rest ∧ burst.flow.halted = false ∧
        TaskStep round burst.state task attempt state fate ∧
        dispatchNext round attempt burst = ⟨state, burst.flow.settle 0 fate⟩ := by
  unfold dispatchNext
  cases halted : burst.flow.halted with
  | true => exact .inl ⟨by simp [Flow.active, halted], by simp⟩
  | false =>
      rw [if_neg (by simp)]
      split
      next empty => exact .inl ⟨by simp [Flow.active, empty], rfl⟩
      next task rest front =>
        exact .inr ⟨task, rest, _, _, front, rfl, dispatchTask_step round burst.state task attempt,
          rfl⟩

/-! ## The end of the loop -/

theorem dispatchNext_idle (round : DispatchRound) (attempt : Attempt) {burst : Burst}
    (idle : burst.flow.active = false) : dispatchNext round attempt burst = burst := by
  rcases dispatchNext_cases round attempt burst with
    ⟨_, same⟩ | ⟨task, rest, state, fate, front, running, _, _⟩
  · exact same
  · simp [Flow.active, running, front] at idle

theorem dispatchLoop_finished (round : DispatchRound) (attempts : Nat → Attempt) (burst : Burst) :
    (dispatchLoop round attempts burst).flow.active = false := by
  refine iterate_finished Burst.flow ?_ (fun attempt burst => dispatchNext_idle round attempt)
  intro attempt burst active
  rcases dispatchNext_cases round attempt burst with
    ⟨idle, _⟩ | ⟨task, rest, state, fate, front, _, _, next⟩
  · rw [idle] at active
    exact absurd active (by simp)
  · have found : burst.flow.pending[0]? = some task := by rw [front]; rfl
    rw [next]
    rcases Flow.settle_progress found fate with halted | shorter
    · exact .inl halted
    · exact .inr (by dsimp only; omega)

theorem iterate_dispatchNext_finished (round : DispatchRound) (attempts : Nat → Attempt)
    (burst : Burst) {count : Nat} (later : burst.flow.pending.length ≤ count) :
    iterate (dispatchNext round) attempts burst count = dispatchLoop round attempts burst :=
  iterate_of_idle (fun attempt =>
    dispatchNext_idle round attempt (dispatchLoop_finished round attempts burst)) later

@[simp] theorem commitDecision_threads (round : DispatchRound) (state : DispatchState)
    (task : QueuedTask) (decision : PlacementDecision) (nowNs : Nat) :
    (round.commitDecision state task decision nowNs).threads = state.threads := by
  unfold DispatchRound.commitDecision
  dsimp only
  split <;> rfl

end CSwitch.Dispatch
