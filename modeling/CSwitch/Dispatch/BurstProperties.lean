import CSwitch.Dispatch.LoopProperties

/-! What the reservation ledger guarantees over a whole burst: the migration
budgets, and when it follows the dispatches. -/

set_option autoImplicit false

namespace CSwitch.Dispatch

open Std (TreeMap TreeSet)
open Policy Planner Library

/-! ## Moves that are committed -/

theorem isCrossDomainMove_iff {task : QueuedTask} {decision : PlacementDecision} :
    isCrossDomainMove task decision = true ↔
      ∃ domain, decision.selectedDomain = some domain ∧ taskCurrentDomain task ≠ some domain ∧
        (decision.reason = .moveCoolerDomain ∨ decision.reason = .excludedDomainEscape) ∧
        decision.deferDispatch = false := by
  unfold isCrossDomainMove
  cases decision.selectedDomain with
  | none => simp
  | some domain => simp [and_assoc, eq_comm (a := some domain)]

/-- A committed move out of a domain that is not excluded found both budgets open. -/
theorem Decided.budgets {round : DispatchRound} {ctx : PlacementContext}
    {decision : PlacementDecision} {target : Nat} (decided : Decided round ctx decision)
    (move : isCrossDomainMove ctx.task decision = true)
    (selected : decision.selectedDomain = some target) (known : ctx.currentExcluded = false) :
    (∀ state, ctx.currentPlan = some state → state.outgoingMigrations < state.migrationBudget) ∧
      ctx.destinationBudgetExhausted target = false := by
  obtain ⟨domain, chosen, elsewhere, reasons, _⟩ := isCrossDomainMove_iff.mp move
  obtain rfl := Option.some.inj (chosen.symm.trans selected)
  cases decided with
  | planned active current listed accepted target reason used =>
      obtain rfl := Option.some.inj (target.symm.trans selected)
      have passed := planRejection_none accepted elsewhere
      exact ⟨passed.sourceBudget known, passed.destinationBudget⟩
  | policy outcome target reason unplanned =>
      rw [target] at selected
      rw [reason] at reasons
      cases outcome with
      | spread spread => exact absurd reasons (by simp [PlacementContext.spreadDecision,
          PlacementContext.decide, placementDecision])
      | stay calm stays => exact absurd (ctx.staySelectedDomain_eq.symm.trans selected) elsewhere
      | move calm known' settled warm signed budget admitted =>
          obtain ⟨df, llc, admits⟩ := admitted
          obtain rfl := Option.some.inj selected
          refine ⟨?_, admits.budget known⟩
          intro state found
          simpa [PlacementContext.sourceBudgetExhausted, known, found] using budget
      | escape calm excluded admitted =>
          rw [known] at excluded
          exact absurd excluded (by simp)

/-! ## Migration budgets -/

def WithinBudget (states : List PlannedDomainState) : Prop :=
  ∀ state ∈ states, state.incomingMigrations ≤ state.migrationBudget ∧
    state.outgoingMigrations ≤ state.migrationBudget

theorem withinBudget_modify {states : List PlannedDomainState} {domain : Nat}
    {update : PlannedDomainState → PlannedDomainState} (within : WithinBudget states)
    (kept : ∀ state, states[domain]? = some state →
      (update state).incomingMigrations ≤ (update state).migrationBudget ∧
        (update state).outgoingMigrations ≤ (update state).migrationBudget) :
    WithinBudget (states.modify domain update) := by
  intro state member
  obtain ⟨index, found⟩ := List.mem_iff_getElem?.mp member
  rw [List.getElem?_modify] at found
  split at found
  next here =>
    subst here
    obtain ⟨before, stored, rfl⟩ := Option.map_eq_some_iff.mp found
    exact kept before stored
  · rw [id_map'] at found
    exact within state (List.mem_of_getElem? found)

section Sides

variable (effect : TaskSignatureEffect) (stable : Bool) (state : PlannedDomainState)

@[simp] theorem leaveDomain_migrations :
    (leaveDomain effect stable state).incomingMigrations = state.incomingMigrations ∧
      (leaveDomain effect stable state).outgoingMigrations = satAdd32 state.outgoingMigrations 1 ∧
      (leaveDomain effect stable state).migrationBudget = state.migrationBudget := by
  unfold leaveDomain
  dsimp only
  split <;> exact ⟨rfl, rfl, rfl⟩

@[simp] theorem enterDomain_migrations :
    (enterDomain effect stable state).incomingMigrations = satAdd32 state.incomingMigrations 1 ∧
      (enterDomain effect stable state).outgoingMigrations = state.outgoingMigrations ∧
      (enterDomain effect stable state).migrationBudget = state.migrationBudget := by
  unfold enterDomain
  dsimp only
  split <;> exact ⟨rfl, rfl, rfl⟩

end Sides

theorem migrateStates_withinBudget {states : List PlannedDomainState} {source target : Nat}
    (within : WithinBudget states) (distinct : source ≠ target)
    (sourceOpen : ∀ state, states[source]? = some state →
      state.outgoingMigrations < state.migrationBudget)
    (targetOpen : ∀ state, states[target]? = some state →
      state.incomingMigrations < state.migrationBudget)
    (task : QueuedTask) (thread : Option ManagedThreadState) (mapping : MappingInfo) :
    WithinBudget (migrateStates states (some source) task thread mapping target) := by
  unfold migrateStates
  dsimp only
  apply withinBudget_modify
  · apply withinBudget_modify within
    intro state found
    obtain ⟨incoming, outgoing, budget⟩ := leaveDomain_migrations
      (taskSignatureEffect task thread (mapping.dfCapacityMibSX100 source))
      ((thread.map (·.signature.stable)).getD false) state
    rw [incoming, outgoing, budget]
    have spare := sourceOpen state found
    exact ⟨(within state (List.mem_of_getElem? found)).1, (Nat.min_le_left _ _).trans spare⟩
  · intro state found
    rw [List.getElem?_modify_ne _ _ distinct] at found
    obtain ⟨incoming, outgoing, budget⟩ := enterDomain_migrations
      (taskSignatureEffect task thread (mapping.dfCapacityMibSX100 target))
      ((thread.map (·.signature.stable)).getD false) state
    rw [incoming, outgoing, budget]
    have spare := targetOpen state found
    exact ⟨(Nat.min_le_left _ _).trans spare, (within state (List.mem_of_getElem? found)).2⟩

def Unmoved (states : List PlannedDomainState) : Prop :=
  ∀ state ∈ states, state.incomingMigrations = 0 ∧ state.outgoingMigrations = 0

theorem fromSnapshot_withinBudget (topo : TopologyLayout) (threads : ThreadMap)
    (pending : List QueuedTask) (domainTargets cpuTargets : TreeMap Nat Nat) :
    WithinBudget (DispatchBatchReservations.fromSnapshot topo threads pending domainTargets
      cpuTargets).domainStates := by
  have update : ∀ (states : List PlannedDomainState) (domain : Option Nat)
      (change : PlannedDomainState → PlannedDomainState),
      (∀ state, (change state).incomingMigrations = state.incomingMigrations ∧
        (change state).outgoingMigrations = state.outgoingMigrations) →
      Unmoved states → Unmoved (updateDomain states domain change) := by
    intro states domain change keeps unmoved
    cases domain with
    | none => exact unmoved
    | some domain =>
        intro state member
        obtain ⟨index, found⟩ := List.mem_iff_getElem?.mp member
        rw [updateDomain, List.getElem?_modify] at found
        obtain ⟨before, stored, rfl⟩ := Option.map_eq_some_iff.mp found
        have zero := unmoved before (List.mem_of_getElem? stored)
        split
        · rw [(keeps before).1, (keeps before).2]
          exact zero
        · exact zero
  have empty : Unmoved (List.replicate topo.domains.length {}) := by
    intro state member
    rw [(List.mem_replicate.mp member).2]
    exact ⟨rfl, rfl⟩
  have known := List.foldlRecOn threads.toList (fun states entry => updateDomain states
      ((overlay (buildPlannedThreadDomains threads pending) domainTargets)[entry.1]?.or
        (threadDomain entry.2)) (countThread entry.2)) (motive := Unmoved) empty
    (fun states unmoved entry _ => update _ _ _ (fun state => by
      unfold countThread
      dsimp only
      split <;> exact ⟨rfl, rfl⟩) unmoved)
  have all := List.foldlRecOn (pending.filter fun task => !threads.contains task.key)
    (fun states task => updateDomain states (taskCurrentDomain task) countUnknownTask)
    (motive := Unmoved) known (fun states unmoved task _ =>
      update _ _ _ (fun state => ⟨rfl, rfl⟩) unmoved)
  intro state member
  obtain ⟨before, counted, rfl⟩ := List.mem_map.mp member
  obtain ⟨incoming, outgoing⟩ := all before counted
  simp only [incoming, outgoing]
  exact ⟨Nat.zero_le _, Nat.zero_le _⟩

theorem reserveBurstTargetCpus_domains (reservations : DispatchBatchReservations)
    (pending : List QueuedTask) (view : BurstView) (fixedCpuTargets : TreeMap Nat Nat) :
    (reservations.reserveBurstTargetCpus pending view fixedCpuTargets).reservations.domainStates =
        reservations.domainStates ∧
      (reservations.reserveBurstTargetCpus pending view fixedCpuTargets).reservations.domainByTid =
        reservations.domainByTid :=
  List.foldlRecOn _ _ (motive := fun targets : BurstTargets =>
    targets.reservations.domainStates = reservations.domainStates ∧
      targets.reservations.domainByTid = reservations.domainByTid) ⟨rfl, rfl⟩
    (fun targets kept candidate _ => by
      unfold reserveCandidate
      split
      · exact kept
      · exact kept)

theorem commitDecision_domains (round : DispatchRound) (state : DispatchState) (task : QueuedTask)
    (decision : PlacementDecision) (nowNs : Nat) :
    (∃ domain, decision.selectedDomain = some domain ∧ isCrossDomainMove task decision = true ∧
      (round.commitDecision state task decision nowNs).reservations.domainStates =
        (state.reservations.commitDomainDecision task state.threads[task.key]? round.mapping
          domain).domainStates ∧
      (round.commitDecision state task decision nowNs).reservations.domainByTid =
        state.reservations.domainByTid.insert task.key domain) ∨
    (isCrossDomainMove task decision = false ∧
      (round.commitDecision state task decision nowNs).reservations.domainStates =
        state.reservations.domainStates ∧
      (round.commitDecision state task decision nowNs).reservations.domainByTid =
        state.reservations.domainByTid) := by
  unfold DispatchRound.commitDecision
  dsimp only
  cases move : isCrossDomainMove task decision with
  | false =>
      refine .inr ⟨rfl, ?_⟩
      have none : (recordedDomain task decision).filter (fun _ => false) = none := by
        cases recordedDomain task decision <;> rfl
      rw [none]
      split <;> exact ⟨rfl, rfl⟩
  | true =>
      obtain ⟨domain, selected, _⟩ := isCrossDomainMove_iff.mp move
      have found : (recordedDomain task decision).filter (fun _ => true) = some domain := by
        simp [recordedDomain, selected]
      rw [found]
      refine .inl ⟨domain, selected, rfl, ?_⟩
      split <;> exact ⟨rfl, rfl⟩

def HomeKnown (mapping : MappingInfo) (task : QueuedTask) : Prop :=
  ∃ domain, taskCurrentDomain task = some domain ∧ domain ∉ mapping.excludedDomains

theorem dispatchNext_withinBudget {round : DispatchRound} {attempt : Attempt} {burst : Burst}
    (known : ∀ task ∈ burst.flow.pending, task.group ≠ round.userschedPid →
      HomeKnown round.mapping task)
    (within : WithinBudget burst.state.reservations.domainStates) :
    WithinBudget (dispatchNext round attempt burst).state.reservations.domainStates := by
  rcases dispatchNext_cases round attempt burst with
    ⟨_, same⟩ | ⟨task, rest, state, fate, front, _, step, next⟩
  · rw [same]
    exact within
  rw [next]
  cases step with
  | usersched own accepted => exact within
  | userschedFailed own refused => exact within
  | dropped managed unread => exact within
  | failed managed read taken held refused => exact within
  | deferred managed read taken put => exact within
  | @sent allowedCpus settled managed read taken held accepted =>
      obtain ⟨source, home, included⟩ := known task (front ▸ List.mem_cons_self) managed
      subst taken
      have decided := settleTask_decided round burst.state task allowedCpus attempt.nowNs held
      rcases commitDecision_domains round _ task
          (round.settleTask burst.state task allowedCpus attempt.nowNs).decision attempt.nowNs with
        ⟨target, selected, move, states, _⟩ | ⟨_, states, _⟩
      · have excluded : (round.context burst.state task allowedCpus
            attempt.nowNs).currentExcluded = false := by
          have absent : round.mapping.excludedDomains.contains source = false :=
            Bool.eq_false_iff.mpr (mt TreeSet.contains_iff_mem.mp included)
          simp only [PlacementContext.currentExcluded, PlacementContext.currentDomain,
            DispatchRound.context, home, Option.map_some, Option.getD_some, absent]
        obtain ⟨sourceOpen, targetOpen⟩ := decided.budgets move selected excluded
        obtain ⟨other, chosen, elsewhere, _⟩ := isCrossDomainMove_iff.mp move
        obtain rfl := Option.some.inj (chosen.symm.trans selected)
        have distinct : source ≠ other := fun same => elsewhere (same ▸ home)
        have moved : migrationSource burst.state.reservations.domainByTid task = some source := by
          rw [migrationSource, home, Option.some_or]
        rw [states]
        simp only [DispatchBatchReservations.commitDomainDecision, moved, Option.some.injEq, distinct,
          if_false]
        refine migrateStates_withinBudget within distinct ?_ ?_ task _ round.mapping
        · intro state found
          refine sourceOpen state ?_
          simp only [PlacementContext.currentPlan, PlacementContext.currentDomain,
            DispatchRound.context, home, Option.bind_some, found]
        · intro state found
          simpa [PlacementContext.destinationBudgetExhausted, DispatchRound.context, found]
            using targetOpen
      · rw [states]
        exact within

/-- At every point of a burst whose managed tasks all have a known domain that
is not excluded, no domain has used more than its migration budget. -/
theorem dispatchLoop_withinBudget (input : RoundInput) (attempts : Nat → Attempt)
    (known : ∀ task ∈ input.pending, task.group ≠ input.userschedPid →
      HomeKnown input.mapping task) (count : Nat) :
    WithinBudget (iterate (dispatchNext input.round) attempts input.burst
      count).state.reservations.domainStates := by
  suffices invariant : WithinBudget (iterate (dispatchNext input.round) attempts input.burst
      count).state.reservations.domainStates ∧ ∀ task ∈ (iterate (dispatchNext input.round) attempts
        input.burst count).flow.pending, task ∈ input.pending from invariant.1
  refine iterate_invariant (fun burst : Burst => WithinBudget burst.state.reservations.domainStates ∧
    ∀ task ∈ burst.flow.pending, task ∈ input.pending) ?_ ?_ count
  · refine ⟨?_, fun task member => member⟩
    have domains := (reserveBurstTargetCpus_domains (DispatchBatchReservations.fromSnapshot
      input.topo input.threads input.pending (initialDomainTargets input.activePlan
        input.latestDfSweepEpoch) (initialCpuTargets input.activePlan input.latestDfSweepEpoch))
      input.pending
      { topo := input.topo, mapping := input.mapping, cpuStates := input.cpuStates
        cpuUtilsX100 := input.cpuUtilsX100, allowedCpusByTid := input.allowedCpusByTid
        cfg := input.cfg } (initialCpuTargets input.activePlan input.latestDfSweepEpoch)).1
    exact domains ▸ fromSnapshot_withinBudget _ _ _ _ _
  · intro count ⟨within, listed⟩
    refine ⟨dispatchNext_withinBudget (fun task member => known task (listed task member)) within, ?_⟩
    intro task member
    rcases dispatchNext_cases input.round (attempts count)
        (iterate (dispatchNext input.round) attempts input.burst count) with
      ⟨_, same⟩ | ⟨_, _, _, _, _, _, _, next⟩
    · rw [same] at member
      exact listed task member
    · rw [next] at member
      exact listed task (Flow.mem_of_mem_settle_pending member)

/-- The planned move of the stranded thread uses one migration on each side. -/
theorem dispatchLoop_withinBudget_stranded :
    ((iterate (dispatchNext strandedRound.round) (fun _ => ⟨1000, true⟩) strandedRound.burst
      1).state.reservations.domainStates.map fun state =>
        (state.incomingMigrations, state.outgoingMigrations, state.migrationBudget)) =
      [(0, 1, 1), (1, 0, 1)] ∧
    WithinBudget (iterate (dispatchNext strandedRound.round) (fun _ => ⟨1000, true⟩)
      strandedRound.burst 1).state.reservations.domainStates :=
  ⟨by decide +kernel, dispatchLoop_withinBudget strandedRound (fun _ => ⟨1000, true⟩)
    (by
      intro task member _
      obtain rfl := List.mem_singleton.mp member
      exact ⟨0, by decide, by decide⟩) 1⟩

/-! ## The ledger and the dispatches -/

/-- The domain that the latest dispatch of a tid selected. -/
def placedDomain (sent : List (QueuedTask × Handover)) (tid : Nat) : Option Nat :=
  sent.reverse.findSome? fun entry =>
    if entry.1.key = tid then entry.2.decision.bind (·.selectedDomain) else none

/-- The ledger holds every domain that was given out in this burst. -/
def LedgerFollows (burst : Burst) : Prop :=
  ∀ tid domain, placedDomain burst.flow.sent tid = some domain →
    burst.state.reservations.domainByTid[tid]? = some domain

def DispatchRound.executed (round : DispatchRound) (ctx : PlacementContext) :
    Option PlacementDecision :=
  round.activePlan.bind fun plan => (plannedDecision ctx plan round.latestDfSweepEpoch).toOption

/-- The ledger entry of a task is right whatever is decided for it: a task kept
in place is reserved in its current domain, and a task spread to an idle CPU in
the domain of that CPU. Committed moves need nothing. -/
def SlotRecorded (round : DispatchRound) (ctx : PlacementContext) (reserved : Option Nat) : Prop :=
  match round.executed ctx with
  | some decision => decision.selectedDomain = ctx.currentDomain → reserved = ctx.currentDomain
  | none =>
      match ctx.idleSpread with
      | some (domain, _) => reserved = some domain
      | none => (choosePlacementWithPlannedCpus ctx).selectedDomain = ctx.currentDomain →
          ctx.currentDomain = none ∨ reserved = ctx.currentDomain

/-- `SlotRecorded` for the task that the next iteration dispatches, if any. -/
def SlotReady (round : DispatchRound) (attempt : Attempt) (burst : Burst) : Prop :=
  ∀ task rest allowedCpus, burst.flow.halted = false → burst.flow.pending = task :: rest →
    task.group ≠ round.userschedPid → round.allowedCpusByTid[task.key]? = some allowedCpus →
    attempt.accepted = true →
    ((round.throttled burst.state task attempt.nowNs).2.map VillainThrottleControl.defers).getD
      false = false →
    SlotRecorded round (round.context burst.state task allowedCpus attempt.nowNs)
      burst.state.reservations.domainByTid[task.key]?

theorem firstDecision_executed {round : DispatchRound} {ctx : PlacementContext}
    {decision : PlacementDecision} (executed : round.executed ctx = some decision) :
    round.firstDecision ctx = decision ∧ ∃ entry cpu, decision = planDecision ctx entry cpu := by
  unfold DispatchRound.executed at executed
  obtain ⟨plan, active, executed⟩ := Option.bind_eq_some_iff.mp executed
  unfold DispatchRound.firstDecision
  rw [active]
  cases planned : plannedDecision ctx plan round.latestDfSweepEpoch with
  | error reason => simp [planned, Except.toOption] at executed
  | ok answer =>
      simp only [planned, Except.toOption, Option.some.injEq] at executed
      subst executed
      obtain ⟨_, entry, cpu, _, _, record⟩ := plannedDecision_ok planned
      exact ⟨by simp only [planned], entry, cpu, record⟩

theorem firstDecision_fallback {round : DispatchRound} {ctx : PlacementContext}
    (rejected : round.executed ctx = none) :
    ∃ reason, round.firstDecision ctx = round.fallbackDecision ctx reason := by
  unfold DispatchRound.executed at rejected
  unfold DispatchRound.firstDecision
  cases active : round.activePlan with
  | none => exact ⟨_, rfl⟩
  | some plan =>
      simp only
      cases planned : plannedDecision ctx plan round.latestDfSweepEpoch with
      | error reason => exact ⟨reason, rfl⟩
      | ok answer => simp [active, planned, Except.toOption] at rejected

theorem isCrossDomainMove_current {task : QueuedTask} {decision : PlacementDecision}
    (stays : decision.selectedDomain = taskCurrentDomain task) :
    isCrossDomainMove task decision = false := by
  cases move : isCrossDomainMove task decision with
  | false => rfl
  | true =>
      obtain ⟨domain, selected, elsewhere, _⟩ := isCrossDomainMove_iff.mp move
      exact absurd (stays.symm.trans selected) elsewhere

/-- The slot of a decision that is a committed move unless it selects the current
domain. -/
theorem slot_iff_of_reasons {ctx : PlacementContext} {decision : PlacementDecision}
    (reserved : Option Nat) (runs : decision.deferDispatch = false)
    (reasons : decision.selectedDomain ≠ ctx.currentDomain → decision.reason = .moveCoolerDomain ∨
      decision.reason = .excludedDomainEscape) :
    (∀ domain, decision.selectedDomain = some domain →
        isCrossDomainMove ctx.task decision = true ∨ reserved = some domain) ↔
      (decision.selectedDomain = ctx.currentDomain →
        ctx.currentDomain = none ∨ reserved = ctx.currentDomain) := by
  by_cases stays : decision.selectedDomain = ctx.currentDomain
  · rw [isCrossDomainMove_current stays, stays]
    cases ctx.currentDomain with
    | none => simp
    | some domain => simp
  · refine iff_of_true ?_ (fun same => absurd same stays)
    intro domain selected
    refine .inl (isCrossDomainMove_iff.mpr ⟨domain, selected, ?_, reasons stays, runs⟩)
    exact fun same => stays (selected.trans same.symm)

theorem slotRecorded_iff (round : DispatchRound) (ctx : PlacementContext) (reserved : Option Nat) :
    SlotRecorded round ctx reserved ↔
      ∀ domain, (round.firstDecision ctx).selectedDomain = some domain →
        isCrossDomainMove ctx.task (round.firstDecision ctx) = true ∨ reserved = some domain := by
  unfold SlotRecorded
  cases executed : round.executed ctx with
  | some decision =>
      obtain ⟨first, entry, cpu, record⟩ := firstDecision_executed executed
      simp only
      rw [first]
      have known : decision.selectedDomain = ctx.currentDomain → ctx.currentDomain ≠ none := by
        intro same
        rw [← same, record]
        exact Option.some_ne_none _
      refine Iff.trans ?_ (slot_iff_of_reasons reserved (by rw [record]; rfl) ?_).symm
      · exact ⟨fun slot same => .inr (slot same),
          fun slot same => (slot same).resolve_left (known same)⟩
      · intro moves
        rw [record] at moves ⊢
        change planReason ctx entry.targetDomain = _ ∨ planReason ctx entry.targetDomain = _
        unfold planReason
        rw [if_neg (fun same => moves same.symm)]
        split
        · exact .inr rfl
        · exact .inl rfl
  | none =>
      obtain ⟨reason, first⟩ := firstDecision_fallback executed
      have same := (fallbackDecision_same round ctx reason).1
      simp only
      rw [first, same.domain, same.isCrossDomainMove]
      have outcome := choosePlacement_outcome ctx
      generalize choosePlacementWithPlannedCpus ctx = answer at outcome ⊢
      cases outcome with
      | @spread domain cpu target =>
          have still : isCrossDomainMove ctx.task (ctx.spreadDecision domain cpu) = false := by
            simp [isCrossDomainMove, PlacementContext.spreadDecision, PlacementContext.decide,
              placementDecision]
          simp only [target]
          rw [still]
          simp [PlacementContext.spreadDecision, PlacementContext.decide, placementDecision]
      | stay calm stays =>
          simp only [calm]
          exact (slot_iff_of_reasons reserved rfl fun moves =>
            absurd ctx.staySelectedDomain_eq moves).symm
      | move calm known settled warm signed budget admitted =>
          simp only [calm]
          exact (slot_iff_of_reasons reserved rfl fun _ => .inl rfl).symm
      | escape calm excluded admitted =>
          simp only [calm]
          exact (slot_iff_of_reasons reserved rfl fun _ => .inr rfl).symm

theorem placedDomain_append (sent : List (QueuedTask × Handover)) (task : QueuedTask)
    (handover : Handover) (tid : Nat) :
    placedDomain (sent ++ [(task, handover)]) tid =
      (if task.key = tid then handover.decision.bind (·.selectedDomain) else none).or
        (placedDomain sent tid) := by
  unfold placedDomain
  rw [List.reverse_append, List.reverse_singleton, List.singleton_append, List.findSome?_cons]
  generalize (if task.key = tid then handover.decision.bind (·.selectedDomain) else none) = latest
  cases latest <;> rfl

theorem ledgerFollows_sent {before after : Burst} {task : QueuedTask} {handover : Handover}
    {decision : PlacementDecision} (follows : LedgerFollows before)
    (sent : after.flow.sent = before.flow.sent ++ [(task, handover)])
    (decided : handover.decision = some decision)
    (ledger : (∃ domain, decision.selectedDomain = some domain ∧
        isCrossDomainMove task decision = true ∧ after.state.reservations.domainByTid =
          before.state.reservations.domainByTid.insert task.key domain) ∨
      (isCrossDomainMove task decision = false ∧
        after.state.reservations.domainByTid = before.state.reservations.domainByTid)) :
    LedgerFollows after ↔ ∀ domain, decision.selectedDomain = some domain →
      isCrossDomainMove task decision = true ∨
        before.state.reservations.domainByTid[task.key]? = some domain := by
  have own : ∀ domain, decision.selectedDomain = some domain →
      placedDomain after.flow.sent task.key = some domain := by
    intro domain selected
    rw [sent, placedDomain_append, if_pos rfl, decided, Option.bind_some, selected, Option.some_or]
  constructor
  · intro after domain selected
    have recorded := after task.key domain (own domain selected)
    rcases ledger with ⟨_, _, move, _⟩ | ⟨_, same⟩
    · exact .inl move
    · exact .inr (same ▸ recorded)
  · intro slot tid domain placed
    by_cases here : task.key = tid ∧ decision.selectedDomain.isSome
    · obtain ⟨rfl, some⟩ := here
      obtain ⟨selected, chosen⟩ := Option.isSome_iff_exists.mp some
      obtain rfl := Option.some.inj ((own selected chosen).symm.trans placed)
      rcases ledger with ⟨other, same, _, inserted⟩ | ⟨still, same⟩
      · obtain rfl := Option.some.inj (chosen.symm.trans same)
        rw [inserted, TreeMap.getElem?_insert_self]
      · rw [same]
        exact (slot selected chosen).resolve_left (by rw [still]; simp)
    · have earlier : placedDomain before.flow.sent tid = some domain := by
        rw [sent, placedDomain_append, decided, Option.bind_some] at placed
        split at placed
        next same =>
          have none : decision.selectedDomain = none := by
            cases chosen : decision.selectedDomain with
            | none => rfl
            | some _ => exact absurd ⟨same, by rw [chosen]; rfl⟩ here
          rwa [none, Option.none_or] at placed
        · rwa [Option.none_or] at placed
      have recorded := follows tid domain earlier
      rcases ledger with ⟨other, chosen, _, inserted⟩ | ⟨_, same⟩
      · have elsewhere : task.key ≠ tid := fun same => here ⟨same, by rw [chosen]; rfl⟩
        rw [inserted, TreeMap.getElem?_insert, if_neg (by simpa using elsewhere)]
        exact recorded
      · rw [same]
        exact recorded

/-- For a task that is sent, the slot is ready when it is recorded. -/
theorem slotReady_iff_of_sent {round : DispatchRound} {attempt : Attempt} {burst : Burst}
    {task : QueuedTask} {rest : List QueuedTask} {allowedCpus : TreeSet Nat}
    (running : burst.flow.halted = false) (front : burst.flow.pending = task :: rest)
    (managed : task.group ≠ round.userschedPid)
    (read : round.allowedCpusByTid[task.key]? = some allowedCpus)
    (held : (round.settleTask burst.state task allowedCpus attempt.nowNs).decision.deferDispatch =
      false) (accepted : attempt.accepted = true) :
    SlotReady round attempt burst ↔ SlotRecorded round
      (round.context burst.state task allowedCpus attempt.nowNs)
      burst.state.reservations.domainByTid[task.key]? := by
  constructor
  · intro ready
    exact ready task rest allowedCpus running front managed read accepted
      ((settleTask_deferDispatch round burst.state task allowedCpus attempt.nowNs) ▸ held)
  · intro recorded other others cpus _ same _ again _ _
    obtain ⟨rfl, rfl⟩ := List.cons.inj (same.symm.trans front)
    obtain rfl := Option.some.inj (again.symm.trans read)
    exact recorded

/-- One iteration keeps the ledger right exactly when its task's slot is recorded. -/
theorem dispatchNext_ledgerFollows {round : DispatchRound} {attempt : Attempt} {burst : Burst}
    (follows : LedgerFollows burst) :
    LedgerFollows (dispatchNext round attempt burst) ↔ SlotReady round attempt burst := by
  rcases dispatchNext_cases round attempt burst with
    ⟨idle, same⟩ | ⟨task, rest, state, fate, front, running, step, next⟩
  · rw [same]
    refine iff_of_true follows ?_
    intro task rest _ running front
    simp [Flow.active, running, front] at idle
  have found : burst.flow.pending[0]? = some task := by rw [front]; rfl
  rw [next]
  have popped : ∀ other others, burst.flow.pending = other :: others → other = task := by
    intro other others same
    exact (List.cons.inj (same.symm.trans front)).1
  cases step with
  | usersched own accepted =>
      rw [Flow.settle_sent found]
      refine iff_of_true ?_ ?_
      · intro tid domain placed
        rw [placedDomain_append] at placed
        refine follows tid domain ?_
        split at placed <;> simpa using placed
      · intro other others _ _ same managed
        exact absurd (popped other others same ▸ own) managed
  | userschedFailed own refused =>
      rw [Flow.settle_failed found]
      refine iff_of_true follows ?_
      intro other others _ _ same managed
      exact absurd (popped other others same ▸ own) managed
  | dropped managed unread =>
      rw [Flow.settle_dropped found]
      refine iff_of_true follows ?_
      intro other others _ _ same _ read
      rw [popped other others same, unread] at read
      exact absurd read (by simp)
  | failed managed read taken held refused =>
      rw [Flow.settle_failed found]
      refine iff_of_true follows ?_
      intro _ _ _ _ _ _ _ accepted
      exact absurd (refused.symm.trans accepted) (by simp)
  | @deferred allowedCpus settled managed read taken put =>
      rw [Flow.settle_deferred found]
      refine iff_of_true follows ?_
      intro other others _ _ same _ _ _ runs
      rw [popped other others same, ← settleTask_deferDispatch round burst.state task allowedCpus,
        ← taken, put] at runs
      exact absurd runs (by simp)
  | @sent allowedCpus settled managed read taken held accepted =>
      subst taken
      have same := settleTask_same round burst.state task allowedCpus attempt.nowNs held
      have slot := slotRecorded_iff round (round.context burst.state task allowedCpus attempt.nowNs)
        burst.state.reservations.domainByTid[task.key]?
      rw [← same.domain, ← same.isCrossDomainMove] at slot
      rw [slotReady_iff_of_sent running front managed read held accepted, slot,
        Flow.settle_sent found]
      refine ledgerFollows_sent follows rfl rfl ?_
      rcases commitDecision_domains round _ task
          (round.settleTask burst.state task allowedCpus attempt.nowNs).decision attempt.nowNs with
        ⟨domain, selected, move, _, ledger⟩ | ⟨still, _, ledger⟩
      · exact .inl ⟨domain, selected, move, ledger⟩
      · exact .inr ⟨still, ledger⟩

/-- The ledger follows the dispatches of a whole burst exactly when the slot of
every dispatched task is recorded as it is dispatched. -/
theorem dispatchLoop_ledgerFollows_iff (input : RoundInput) (attempts : Nat → Attempt) :
    (∀ count, LedgerFollows (iterate (dispatchNext input.round) attempts input.burst count)) ↔
      ∀ count, SlotReady input.round (attempts count)
        (iterate (dispatchNext input.round) attempts input.burst count) := by
  constructor
  · intro follows count
    exact (dispatchNext_ledgerFollows (follows count)).mp (follows (count + 1))
  · intro ready count
    refine iterate_invariant LedgerFollows ?_ ?_ count
    · intro tid domain placed
      simp [RoundInput.burst, placedDomain] at placed
    · intro count follows
      exact (dispatchNext_ledgerFollows follows).mpr (ready count)

/-- The stranded thread while it settles: its plan entry is rejected. -/
def settlingRound : RoundInput :=
  { strandedRound with threads := .ofList [(7, { strandedThread with settleUntilNs := 2000 })] }

/-- The task is sent to its own domain 0, but the ledger keeps the rejected
plan target 1. -/
theorem dispatchLoop_ledger_keeps_rejected_target :
    ¬ ∀ count, LedgerFollows (iterate (dispatchNext settlingRound.round) (fun _ => ⟨1000, true⟩)
      settlingRound.burst count) := by
  intro follows
  have placed : placedDomain (iterate (dispatchNext settlingRound.round) (fun _ => ⟨1000, true⟩)
      settlingRound.burst 1).flow.sent 7 = some 0 := by decide +kernel
  have recorded := follows 1 7 0 placed
  have reserved : (iterate (dispatchNext settlingRound.round) (fun _ => ⟨1000, true⟩)
      settlingRound.burst 1).state.reservations.domainByTid[7]? = some 1 := by decide +kernel
  exact absurd (reserved.symm.trans recorded) (by decide)

end CSwitch.Dispatch
