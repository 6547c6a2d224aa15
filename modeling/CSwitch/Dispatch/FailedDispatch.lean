import CSwitch.Dispatch.LoopProperties

/-! A task whose hand-over fails goes back to the front of the queue. The thread
record is not restored: the throttle and the tick hold-off have already written
to it. These results say when that leaves no trace. -/

set_option autoImplicit false

namespace CSwitch.Dispatch

open Std (TreeMap TreeSet)
open Policy Planner Library

section Failed

variable (round : DispatchRound) (state : DispatchState) (task : QueuedTask)
  (allowedCpus : TreeSet Nat) (nowNs : Nat)

/-- The task is kept on a tick where it is: no control is applied to it, and
the plan or the policy, with the reserved CPU, leaves it on its current CPU. -/
def DispatchRound.keepsOnTick : Bool :=
  let ctx := round.context state task allowedCpus nowNs
  (round.throttled state task nowNs).2.isNone &&
    isTickStay task (round.overrideCpu ctx (round.firstDecision ctx))

theorem overrideCpu_trigger (ctx : PlacementContext) (decision : PlacementDecision) :
    (round.overrideCpu ctx decision).trigger = decision.trigger := by
  unfold DispatchRound.overrideCpu
  split
  · rfl
  · split <;> rfl

theorem settleTask_isTickStay :
    isTickStay task (round.settleTask state task allowedCpus nowNs).decision =
      round.keepsOnTick state task allowedCpus nowNs := by
  rw [settleTask_decision]
  unfold DispatchRound.keepsOnTick DispatchRound.controlled
  dsimp only
  cases (round.throttled state task nowNs).2 with
  | none => rfl
  | some control =>
      have trigger : ∀ decision, (applyControl task decision control).trigger = .villainReslice := by
        intro decision
        unfold applyControl
        dsimp only
        split <;> rfl
      simp [isTickStay, overrideCpu_trigger, trigger]

/-- The two writes before the hand-over cannot cancel each other. -/
theorem settleTask_entry_eq_iff {entry : ManagedThreadState}
    (known : state.threads[task.key]? = some entry)
    (held : (round.settleTask state task allowedCpus nowNs).decision.deferDispatch = false) :
    (round.settleTask state task allowedCpus nowNs).entry = entry ↔
      ThrottleQuiet entry (round.currentVillain task.key) (QueueTrigger.fromU32 task.trigger).isTick
          nowNs round.cfg ∧
        entry.tickStayBackoffExp = if round.keepsOnTick state task allowedCpus nowNs then
          maxTickStayBackoffExp else 0 := by
  have record : threadEntry state.threads task.key = entry := by rw [threadEntry, known]; rfl
  have written : (round.settleTask state task allowedCpus nowNs).entry =
      (nextTickHoldoffTicks (round.throttled state task nowNs).1 task
        (round.settleTask state task allowedCpus nowNs).decision).1 := rfl
  have quiet : (round.throttled state task nowNs).1 = entry ↔ ThrottleQuiet entry
      (round.currentVillain task.key) (QueueTrigger.fromU32 task.trigger).isTick nowNs
      round.cfg := by
    have runs := settleTask_deferDispatch round state task allowedCpus nowNs
    rw [held] at runs
    unfold DispatchRound.throttled DispatchRound.throttle at runs ⊢
    rw [record] at runs ⊢
    refine maybeApplyVillainTokenThrottle_eq_iff ?_
    intro control applied
    simpa [applied] using runs.symm
  obtain ⟨fields, frame⟩ : ∃ fields,
      (round.throttled state task nowNs).1 = withThrottle entry fields := by
    obtain ⟨fields, frame⟩ := maybeApplyVillainTokenThrottle_frame entry
      (round.currentVillain task.key) (QueueTrigger.fromU32 task.trigger).isTick nowNs round.cfg
    refine ⟨fields, ?_⟩
    unfold DispatchRound.throttled DispatchRound.throttle
    rw [record, frame]
  rw [written, ← quiet, ← settleTask_isTickStay, ← nextTickHoldoffTicks_eq_iff]
  generalize (round.settleTask state task allowedCpus nowNs).decision = decision
  constructor
  · intro same
    have bucket : throttleFields (nextTickHoldoffTicks (round.throttled state task nowNs).1 task
        decision).1 = throttleFields (round.throttled state task nowNs).1 := by
      unfold nextTickHoldoffTicks
      split <;> rfl
    rw [same, frame] at bucket
    have still : (round.throttled state task nowNs).1 = entry := by
      rw [frame]
      exact (withThrottle_eq_iff entry fields).mpr bucket
    exact ⟨still, still ▸ same⟩
  · rintro ⟨still, same⟩
    rw [still]
    exact same

end Failed

def LeavesNoTrace (round : DispatchRound) (state : DispatchState) (task : QueuedTask)
    (allowedCpus : TreeSet Nat) (nowNs : Nat) : Prop :=
  ∃ entry, state.threads[task.key]? = some entry ∧
    ThrottleQuiet entry (round.currentVillain task.key) (QueueTrigger.fromU32 task.trigger).isTick
      nowNs round.cfg ∧
    entry.tickStayBackoffExp =
      if round.keepsOnTick state task allowedCpus nowNs then maxTickStayBackoffExp else 0

/-- A failed hand-over puts the task back, and restores every thread record
exactly when neither control had anything to write. -/
theorem dispatchNext_failed_iff {round : DispatchRound} {attempt : Attempt} {burst : Burst}
    {task : QueuedTask} {rest : List QueuedTask} {allowedCpus : TreeSet Nat}
    (running : burst.flow.halted = false) (front : burst.flow.pending = task :: rest)
    (managed : task.group ≠ round.userschedPid)
    (read : round.allowedCpusByTid[task.key]? = some allowedCpus)
    (held : (round.settleTask burst.state task allowedCpus attempt.nowNs).decision.deferDispatch =
      false) (refused : attempt.accepted = false) :
    ((dispatchNext round attempt burst).flow.pending = task :: rest ∧
      ∀ tid : Nat, (dispatchNext round attempt burst).state.threads[tid]? = burst.state.threads[tid]?) ↔
        LeavesNoTrace round burst.state task allowedCpus attempt.nowNs := by
  have next : dispatchNext round attempt burst =
      { state := { burst.state with
          threads := burst.state.threads.insert task.key
            (round.settleTask burst.state task allowedCpus attempt.nowNs).entry }
        flow := burst.flow.settle 0 .failed } := by
    simp [dispatchNext, running, front, DispatchRound.dispatchTask, managed, read,
      DispatchRound.dispatchManaged, held, refused]
  have found : burst.flow.pending[0]? = some task := by rw [front]; rfl
  have pending : (dispatchNext round attempt burst).flow.pending = task :: rest := by
    rw [next, Flow.settle_failed found, front]
    rfl
  have records : (∀ tid : Nat, (dispatchNext round attempt burst).state.threads[tid]? =
      burst.state.threads[tid]?) ↔ burst.state.threads[task.key]? =
        some (round.settleTask burst.state task allowedCpus attempt.nowNs).entry := by
    rw [next]
    constructor
    · intro same
      rw [← same task.key, TreeMap.getElem?_insert_self]
    · intro same tid
      rw [TreeMap.getElem?_insert]
      split
      next here => rw [← same, compare_eq_iff_eq.mp here]
      · rfl
  rw [records]
  unfold LeavesNoTrace
  constructor
  · rintro ⟨_, same⟩
    exact ⟨_, same, (settleTask_entry_eq_iff round burst.state task allowedCpus attempt.nowNs same
      held).mp rfl⟩
  · rintro ⟨entry, known, quiet⟩
    refine ⟨pending, ?_⟩
    rw [known, (settleTask_entry_eq_iff round burst.state task allowedCpus attempt.nowNs known
      held).mpr quiet]

theorem dispatchNext_failed_stranded :
    LeavesNoTrace strandedRound.round strandedRound.burst.state strandedTask (.ofList [1]) 1000 ∧
      (dispatchNext strandedRound.round ⟨1000, false⟩ strandedRound.burst).flow.pending =
        [strandedTask] ∧
      ∀ tid : Nat, (dispatchNext strandedRound.round ⟨1000, false⟩
        strandedRound.burst).state.threads[tid]? = strandedRound.burst.state.threads[tid]? := by
  have quiet : LeavesNoTrace strandedRound.round strandedRound.burst.state strandedTask
      (.ofList [1]) 1000 := ⟨strandedThread, rfl, by decide +kernel, by decide +kernel⟩
  refine ⟨quiet, (dispatchNext_failed_iff ?_ ?_ ?_ ?_ ?_ ?_).mpr quiet⟩
  · rfl
  · rfl
  · decide +kernel
  · rfl
  · decide +kernel
  · rfl

def tickRound : RoundInput :=
  { strandedRound with
    pending := [{ strandedTask with trigger := 1 }]
    allowedCpus := fun _ => some (.ofList [0, 1])
    activePlan := none }

/-- A tick that keeps the task in place doubles its hold-off even though the
hand-over failed. -/
theorem dispatchNext_failed_doubles_holdoff :
    ¬ ∀ tid : Nat, (dispatchNext tickRound.round ⟨1000, false⟩ tickRound.burst).state.threads[tid]? =
      tickRound.burst.state.threads[tid]? := by
  intro same
  have holdoff := congrArg (Option.map (·.tickStayBackoffExp)) (same 7)
  exact absurd holdoff (by decide +kernel)

end CSwitch.Dispatch
