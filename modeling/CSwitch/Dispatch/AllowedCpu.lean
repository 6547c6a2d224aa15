import CSwitch.Dispatch.LoopProperties
import CSwitch.Policy.AllowedCpu

/-! The CPU a task is dispatched to against its affinity. Plan entries, moves and
reservations all pick from the allowed set; the stay of the fallback policy is
the one producer that does not have to. -/

set_option autoImplicit false

namespace CSwitch.Dispatch

open Std (TreeMap TreeSet)
open Policy Planner Library

/-- A stay has an allowed CPU to fall back to: one of the current domain, or the
current CPU itself. -/
def StayLegal (topo : TopologyLayout) (allowedCpus : TreeSet Nat) (task : QueuedTask) : Prop :=
  (∃ domain, taskCurrentDomain task = some domain ∧
    ∃ cpu ∈ allowedCpus, topo.domainOfCpu cpu = some domain) ∨
  ∀ cpu, taskCurrentCpu task = some cpu → (tryI32 cpu).getD rlCpuAny ≠ rlCpuAny → cpu ∈ allowedCpus

/-! ## The producers of a CPU -/

theorem allowedEligibleCpus_subset {allowedCpus : TreeSet Nat} {mapping : MappingInfo} :
    ∀ cpu ∈ allowedEligibleCpus allowedCpus mapping, cpu ∈ allowedCpus :=
  fun _ member => TreeSet.mem_of_mem_filter member

theorem mem_of_mem_candidateCpus {allowedCpus : TreeSet Nat} {targetDomain cpu : Nat}
    {topo : TopologyLayout} {mapping : MappingInfo}
    (candidate : cpu ∈ candidateCpusForTargetDomain allowedCpus targetDomain topo mapping) :
    cpu ∈ allowedCpus := by
  unfold candidateCpusForTargetDomain at candidate
  dsimp only at candidate
  split at candidate
  · exact allowedEligibleCpus_subset _ (mem_cpusInDomain.mp candidate).1
  · exact (mem_cpusInDomain.mp candidate).1

theorem candidateCpus_inDomain {allowedCpus : TreeSet Nat} {targetDomain cpu : Nat}
    {topo : TopologyLayout} {mapping : MappingInfo}
    (candidate : cpu ∈ candidateCpusForTargetDomain allowedCpus targetDomain topo mapping) :
    topo.domainOfCpu cpu = some targetDomain := by
  unfold candidateCpusForTargetDomain at candidate
  dsimp only at candidate
  split at candidate
  · exact (mem_cpusInDomain.mp candidate).2
  · exact (mem_cpusInDomain.mp candidate).2

/-- The chain of alternatives picks from a set once the choosers of the current
CPU do and the set covers what the domain lists. -/
theorem chooseCpuForPlannedDomain_within {view : CpuView} {task : QueuedTask}
    {targetDomain : Nat} {legal : TreeSet Nat}
    (current : ∀ cpus, (∀ cpu ∈ cpus, cpu ∈ view.allowedCpus) →
      ChosenFrom legal (currentCpuInDomain task.currentCpu targetDomain view.topo cpus))
    (listed : ∀ cpu ∈ domainCpusIn view.topo targetDomain view.allowedCpus, cpu ∈ legal) :
    ChosenFrom legal (chooseCpuForPlannedDomain view task targetDomain) := by
  have ofEligible := current view.allowedEligible allowedEligibleCpus_subset
  have ofAllowed := current view.allowedCpus fun _ member => member
  have listedEligible : ∀ cpu ∈ domainCpusIn view.topo targetDomain view.allowedEligible,
      cpu ∈ legal := by
    intro cpu member
    obtain ⟨inDomain, eligible⟩ := mem_domainCpusIn.mp member
    exact listed cpu (mem_domainCpusIn.mpr ⟨inDomain, allowedEligibleCpus_subset cpu eligible⟩)
  unfold chooseCpuForPlannedDomain
  dsimp only
  refine .or ?tick <| .or ?idle <| .or ?rebalance <| .or ?eligible <| .or ?allowed <| .or ?any ?last
  case tick =>
    split
    · exact ofEligible.or ofAllowed
    · exact .none _
  case idle =>
    exact ((currentIdleCpuInDomain_chosenFrom ofEligible).filter _).or
      ((currentIdleCpuInDomain_chosenFrom ofAllowed).filter _)
  case rebalance =>
    apply ChosenFrom.filter
    apply ChosenFrom.or
    · exact fun cpu chosen => listedEligible cpu (chooseIdleCpuInDomain_listed chosen)
    · exact fun cpu chosen => listed cpu (chooseIdleCpuInDomain_listed chosen)
  case eligible => exact (currentAcceptableCpuInDomain_chosenFrom ofEligible).filter _
  case allowed => exact (currentAcceptableCpuInDomain_chosenFrom ofAllowed).filter _
  case any => exact fun cpu chosen => listedEligible cpu (chooseCpuInDomain_listed chosen)
  case last => exact fun cpu chosen => listed cpu (chooseCpuInDomain_listed chosen)

theorem chooseCpuForPlannedDomain_chosenFrom (view : CpuView) (task : QueuedTask)
    (targetDomain : Nat) :
    ChosenFrom view.allowedCpus (chooseCpuForPlannedDomain view task targetDomain) := by
  apply chooseCpuForPlannedDomain_within
  · exact fun cpus subset => currentCpuInDomain_chosenFrom.mono subset
  · exact fun cpu member => (mem_domainCpusIn.mp member).2

/-- Where the domain table matches the CPU map, the CPU lies in the domain too. -/
theorem chooseCpuForPlannedDomain_inDomain {view : CpuView} (consistent : view.topo.Consistent)
    (task : QueuedTask) (targetDomain : Nat) :
    ChosenFrom (cpusInDomain view.topo view.allowedCpus targetDomain)
      (chooseCpuForPlannedDomain view task targetDomain) := by
  apply chooseCpuForPlannedDomain_within
  · intro cpus subset cpu chosen
    obtain ⟨member, inDomain⟩ := currentCpuInDomain_legal chosen
    exact mem_cpusInDomain.mpr ⟨subset cpu member, inDomain⟩
  · intro cpu member
    obtain ⟨inDomain, allowed⟩ := mem_domainCpusIn.mp member
    exact mem_cpusInDomain.mpr ⟨allowed, (consistent cpu targetDomain).mpr inDomain⟩

theorem plannedDecision_chosenFrom {ctx : PlacementContext} {plan : PlacementPlan}
    {latestDfSweepEpoch : Nat} {decision : PlacementDecision}
    (accepted : plannedDecision ctx plan latestDfSweepEpoch = .ok decision) :
    ChosenFrom ctx.allowedCpus decision.selectedCpu := by
  have planned : ∀ entry, ChosenFrom ctx.allowedCpus (planCpu ctx entry) := by
    intro entry
    refine .or ?_ (chooseCpuForPlannedDomain_chosenFrom (cpuViewOf ctx) ctx.task _)
    intro cpu chosen
    exact mem_of_mem_candidateCpus (TreeSet.contains_iff_mem.mp (Option.filter_eq_some_iff.mp chosen).2)
  unfold plannedDecision at accepted
  split at accepted
  · cases accepted
  · split at accepted
    · cases accepted
    next entry _ =>
      split at accepted
      · cases accepted
      · split at accepted
        · cases accepted
        next cpu chosen =>
          obtain rfl := Except.ok.inj accepted
          change ChosenFrom ctx.allowedCpus (some cpu)
          rw [← chosen]
          exact planned entry

/-- A reserved CPU is allowed and lies in the selected domain. -/
theorem preferredReservedCpu_legal {view : CpuView} {preferredCpu selectedDomain : Option Nat}
    {taskTid cpu : Nat}
    (reserved : preferredReservedCpuForSelectedDomain view preferredCpu selectedDomain taskTid =
      some cpu) :
    cpu ∈ view.allowedCpus ∧
      ∃ domain, selectedDomain = some domain ∧ view.topo.domainOfCpu cpu = some domain := by
  obtain ⟨preferred, _, reserved⟩ := Option.bind_eq_some_iff.mp reserved
  obtain ⟨domain, selected, reserved⟩ := Option.bind_eq_some_iff.mp reserved
  rcases Option.or_eq_some_iff.mp reserved with eligible | ⟨_, allowed⟩
  · obtain ⟨member, inDomain⟩ :=
      preferredCpuInDomain_legal (Option.filter_eq_some_iff.mp eligible).1
    exact ⟨allowedEligibleCpus_subset _ member, domain, selected, inDomain⟩
  · obtain ⟨member, inDomain⟩ :=
      preferredCpuInDomain_legal (Option.filter_eq_some_iff.mp allowed).1
    exact ⟨member, domain, selected, inDomain⟩

/-! ## The settled decision -/

theorem overrideCpu_selectedCpu (round : DispatchRound) (ctx : PlacementContext)
    (decision : PlacementDecision) :
    (round.overrideCpu ctx decision).selectedCpu = decision.selectedCpu ∨
      ∃ cpu domain, (round.overrideCpu ctx decision).selectedCpu = some cpu ∧
        cpu ∈ ctx.allowedCpus ∧ decision.selectedDomain = some domain ∧
        ctx.topo.domainOfCpu cpu = some domain := by
  unfold DispatchRound.overrideCpu
  split
  · exact .inl rfl
  · split
    · exact .inl rfl
    next cpu reserved =>
      obtain ⟨allowed, domain, selected, inDomain⟩ := preferredReservedCpu_legal reserved
      exact .inr ⟨cpu, domain, rfl, allowed, selected, inDomain⟩

theorem firstDecision_selectedCpu (round : DispatchRound) (ctx : PlacementContext) :
    ChosenFrom ctx.allowedCpus (round.firstDecision ctx).selectedCpu ∨
      (round.firstDecision ctx).selectedCpu = ctx.staySelectedCpu := by
  have fallback : ∀ reason, ChosenFrom ctx.allowedCpus
      (round.fallbackDecision ctx reason).selectedCpu ∨
      (round.fallbackDecision ctx reason).selectedCpu = ctx.staySelectedCpu := by
    intro reason
    rw [(fallbackDecision_same round ctx reason).2.1]
    exact (choosePlacement_outcome ctx).selectedCpu
  unfold DispatchRound.firstDecision
  split
  · exact fallback _
  · split
    next accepted => exact .inl (plannedDecision_chosenFrom accepted)
    · exact fallback _

section Settle

variable (round : DispatchRound) (state : DispatchState) (task : QueuedTask)
  (allowedCpus : TreeSet Nat) (nowNs : Nat)

theorem settleTask_selectedCpu
    (held : (round.settleTask state task allowedCpus nowNs).decision.deferDispatch = false) :
    ChosenFrom allowedCpus (round.settleTask state task allowedCpus nowNs).decision.selectedCpu ∨
      (round.settleTask state task allowedCpus nowNs).decision.selectedCpu =
        (round.context state task allowedCpus nowNs).staySelectedCpu := by
  have first := firstDecision_selectedCpu round (round.context state task allowedCpus nowNs)
  rw [settleTask_deferDispatch] at held
  have controlled : (round.controlled state task allowedCpus nowNs).selectedCpu =
      (round.firstDecision (round.context state task allowedCpus nowNs)).selectedCpu := by
    unfold DispatchRound.controlled
    dsimp only
    cases throttled : (round.throttled state task nowNs).2 with
    | none => rfl
    | some control =>
        have runs : control.defers = false := by simpa [throttled] using held
        exact (applyControl_same runs task _).2
  rw [settleTask_decision]
  rcases overrideCpu_selectedCpu round ((round.context state task allowedCpus nowNs).withThread
      (some (round.throttled state task nowNs).1)) (round.controlled state task allowedCpus nowNs) with
    kept | ⟨cpu, _, reserved, allowed, _, _⟩
  · rw [kept, controlled]
    exact first
  · refine .inl ?_
    rw [reserved]
    intro other same
    exact Option.some.inj same ▸ allowed

end Settle

/-- A stay of a task that has somewhere allowed to stay. -/
theorem staySelectedCpu_allowed {ctx : PlacementContext} {cpu : Nat}
    (consistent : ctx.topo.Consistent) (legal : StayLegal ctx.topo ctx.allowedCpus ctx.task)
    (chosen : ctx.staySelectedCpu = some cpu) (specific : (tryI32 cpu).getD rlCpuAny ≠ rlCpuAny) :
    cpu ∈ ctx.allowedCpus := by
  rcases Option.or_eq_some_iff.mp chosen with found | ⟨missing, current⟩
  · exact PlacementContext.stayCpu_chosenFrom cpu found
  · rcases legal with ⟨domain, home, other, allowed, inDomain⟩ | legal
    · have found := PlacementContext.stayCpu_isSome consistent home allowed inDomain
      rw [missing] at found
      cases found
    · exact legal cpu current specific

/-! ## A whole round -/

/-- A hand-over that names a CPU names an allowed one. -/
def CpuAllowed (allowedCpus : TreeSet Nat) (handover : Handover) : Prop :=
  handover.dispatched.cpu ≠ rlCpuAny → ∃ cpu ∈ allowedCpus, handover.dispatched.cpu = (cpu : Int)

theorem taskStep_cpuAllowed {round : DispatchRound} {state next : DispatchState}
    {task : QueuedTask} {attempt : Attempt} {handover : Handover} {allowedCpus : TreeSet Nat}
    (consistent : round.topo.Consistent) (read : round.allowedCpusByTid[task.key]? = some allowedCpus)
    (legal : StayLegal round.topo allowedCpus task)
    (step : TaskStep round state task attempt next (.sent handover)) :
    CpuAllowed allowedCpus handover := by
  intro specific
  cases step with
  | usersched own accepted => exact absurd rfl specific
  | @sent allowed settled managed known taken held accepted =>
      obtain rfl := Option.some.inj (read.symm.trans known)
      subst taken
      change ((round.settleTask state task allowedCpus attempt.nowNs).decision.selectedCpu.bind
        tryI32).getD rlCpuAny ≠ rlCpuAny at specific
      change ∃ cpu ∈ allowedCpus, ((round.settleTask state task allowedCpus
        attempt.nowNs).decision.selectedCpu.bind tryI32).getD rlCpuAny = (cpu : Int)
      have origin := settleTask_selectedCpu round state task allowedCpus attempt.nowNs held
      cases selected : (round.settleTask state task allowedCpus
          attempt.nowNs).decision.selectedCpu with
      | none =>
          rw [selected] at specific
          exact absurd rfl specific
      | some cpu =>
          rw [selected, Option.bind_some] at specific
          rw [selected] at origin
          have allowed : cpu ∈ allowedCpus := by
            rcases origin with chosen | stays
            · exact chosen cpu rfl
            · exact staySelectedCpu_allowed consistent legal stays.symm specific
          refine ⟨cpu, allowed, ?_⟩
          rw [Option.bind_some]
          unfold tryI32 at specific ⊢
          split at specific
          next small => rw [if_pos small, Option.getD_some]
          · exact absurd rfl specific

/-- Every hand-over of a round, for a task with somewhere allowed to stay. -/
theorem dispatchLoop_cpuAllowed (input : RoundInput) (attempts : Nat → Attempt)
    {task : QueuedTask} {allowedCpus : TreeSet Nat} {handover : Handover}
    (consistent : input.topo.Consistent)
    (read : input.allowedCpusByTid[task.key]? = some allowedCpus)
    (legal : StayLegal input.topo allowedCpus task)
    (sent : (task, handover) ∈ (dispatchLoop input.round attempts input.burst).flow.sent) :
    CpuAllowed allowedCpus handover := by
  refine iterate_invariant (fun burst : Burst =>
    ∀ handover, (task, handover) ∈ burst.flow.sent → CpuAllowed allowedCpus handover) ?_ ?_ _
    handover sent
  · intro handover impossible
    cases impossible
  · intro count earlier handover member
    rcases dispatchNext_cases input.round (attempts count)
        (iterate (dispatchNext input.round) attempts input.burst count) with
      ⟨_, same⟩ | ⟨front, rest, state, fate, pending, _, step, next⟩
    · rw [same] at member
      exact earlier handover member
    · rw [next] at member
      rcases Flow.mem_settle_sent member with old | ⟨found, rfl⟩
      · exact earlier handover old
      · obtain rfl : front = task := by simpa [pending] using found
        exact taskStep_cpuAllowed consistent read legal step

/-! ## A stay with nowhere to go -/

/-- A round before the first sample and the first plan, with one pending task. -/
def quietRound (topo : TopologyLayout) (mapping : MappingInfo) (cfg : PolicyConfig)
    (allowedCpus : TreeSet Nat) (task : QueuedTask) : RoundInput where
  topo
  mapping
  cfg
  llcStates := List.replicate topo.domains.length none
  dfStates := List.replicate topo.domains.length none
  cpuStates := List.replicate topo.nrCpuIds {}
  cpuUtilsX100 := List.replicate topo.nrCpuIds 0
  threads := ∅
  pending := [task]
  allowedCpus := fun _ => some allowedCpus
  activePlan := none
  latestDfSweepEpoch := 0
  effectiveLinkVillains := []
  userschedPid := task.group + 1

section Quiet

variable (topo : TopologyLayout) (mapping : MappingInfo) (cfg : PolicyConfig)
  (allowedCpus : TreeSet Nat) (task : QueuedTask)

theorem quietRound_read (nonempty : allowedCpus.isEmpty = false) :
    (quietRound topo mapping cfg allowedCpus task).allowedCpusByTid[task.key]? =
      some allowedCpus := by
  have readable : readableCpus (some allowedCpus) = some allowedCpus := by
    simp [readableCpus, Option.filter, nonempty]
  simp [RoundInput.allowedCpusByTid, quietRound, collectAllowedCpusForPending,
    collectAllowedCpusWith, collectAllowedCpus, readable]

theorem quietRound_first (nowNs : Nat) :
    let input := quietRound topo mapping cfg allowedCpus task
    let ctx := input.round.context input.burst.state task allowedCpus nowNs
    (input.round.firstDecision ctx).selectedCpu = ctx.staySelectedCpu ∧
      (input.round.firstDecision ctx).selectedDomain = taskCurrentDomain task := by
  intro input ctx
  have busy : ∀ cpu, ctx.idleCpu cpu = false := by
    intro cpu
    have state : cpuStateAt ctx.cpuStates cpu = {} := by
      change (List.replicate topo.nrCpuIds ({} : CpuStateValue))[cpu]?.getD {} = {}
      rw [List.getElem?_replicate]
      split <;> rfl
    simp [PlacementContext.idleCpu, effectivelyIdleCpu, state]
  have unsampled : ∀ domain, ctx.freshDf domain = none := by
    intro domain
    have missing : getFlat ctx.dfStates domain = none := by
      change (List.replicate topo.domains.length (none : Option CcmDfStateValue))[domain]?.join = none
      rw [List.getElem?_replicate]
      split <;> rfl
    unfold PlacementContext.freshDf
    rw [missing]
    rfl
  obtain ⟨same, cpu, _⟩ := fallbackDecision_same input.round ctx .noPlan
  obtain ⟨stays, home⟩ := (choosePlacement_outcome ctx).stays_of_quiet busy unsampled
  change (input.round.fallbackDecision ctx .noPlan).selectedCpu = _ ∧
    (input.round.fallbackDecision ctx .noPlan).selectedDomain = _
  exact ⟨cpu.trans stays, same.domain.trans home⟩

theorem quietRound_settled (consistent : topo.Consistent)
    (nowhere : ∀ domain, taskCurrentDomain task = some domain →
      ∀ cpu ∈ allowedCpus, topo.domainOfCpu cpu ≠ some domain) (nowNs : Nat) :
    let input := quietRound topo mapping cfg allowedCpus task
    let decision := (input.round.settleTask input.burst.state task allowedCpus nowNs).decision
    decision.deferDispatch = false ∧ decision.selectedCpu = taskCurrentCpu task := by
  intro input decision
  have unthrottled : (input.round.throttled input.burst.state task nowNs).2 = none := by
    unfold DispatchRound.throttled DispatchRound.throttle maybeApplyVillainTokenThrottle
    dsimp only
    split <;> rfl
  have first := quietRound_first topo mapping cfg allowedCpus task nowNs
  refine ⟨?_, ?_⟩
  · change (input.round.settleTask input.burst.state task allowedCpus nowNs).decision.deferDispatch =
      false
    rw [settleTask_deferDispatch, unthrottled]
    rfl
  · change (input.round.settleTask input.burst.state task allowedCpus nowNs).decision.selectedCpu = _
    have controlled : input.round.controlled input.burst.state task allowedCpus nowNs =
        input.round.firstDecision (input.round.context input.burst.state task allowedCpus nowNs) := by
      unfold DispatchRound.controlled
      dsimp only
      rw [unthrottled]
      rfl
    rw [settleTask_decision, controlled]
    rcases overrideCpu_selectedCpu input.round ((input.round.context input.burst.state task
        allowedCpus nowNs).withThread (some (input.round.throttled input.burst.state task nowNs).1))
        (input.round.firstDecision (input.round.context input.burst.state task allowedCpus nowNs)) with
      kept | ⟨cpu, domain, _, allowed, selected, inDomain⟩
    · rw [kept, first.1]
      have missing : (input.round.context input.burst.state task allowedCpus nowNs).stayCpu = none :=
        PlacementContext.stayCpu_eq_none consistent nowhere
      rw [PlacementContext.staySelectedCpu, missing]
      rfl
    · rw [first.2] at selected
      exact absurd inDomain (nowhere domain selected cpu allowed)

/-- The quiet round hands the task over to its current CPU. -/
theorem quietRound_sent (consistent : topo.Consistent) (nonempty : allowedCpus.isEmpty = false)
    (nowhere : ∀ domain, taskCurrentDomain task = some domain →
      ∀ cpu ∈ allowedCpus, topo.domainOfCpu cpu ≠ some domain) :
    let input := quietRound topo mapping cfg allowedCpus task
    ∃ handover, (task, handover) ∈
        (dispatchLoop input.round (fun _ => ⟨0, true⟩) input.burst).flow.sent ∧
      handover.dispatched.cpu = ((taskCurrentCpu task).bind tryI32).getD rlCpuAny := by
  intro input
  obtain ⟨held, selected⟩ :=
    quietRound_settled topo mapping cfg allowedCpus task consistent nowhere 0
  have managed : task.group ≠ input.round.userschedPid := (Nat.lt_succ_self _).ne
  have read : input.round.allowedCpusByTid[task.key]? = some allowedCpus :=
    quietRound_read topo mapping cfg allowedCpus task nonempty
  refine ⟨⟨(input.round.settleTask input.burst.state task allowedCpus 0).dispatched,
    some (input.round.settleTask input.burst.state task allowedCpus 0).decision, 0⟩, ?_, ?_⟩
  · have fate : (input.round.dispatchTask input.burst.state task ⟨0, true⟩).2 =
        .sent ⟨(input.round.settleTask input.burst.state task allowedCpus 0).dispatched,
          some (input.round.settleTask input.burst.state task allowedCpus 0).decision, 0⟩ := by
      unfold DispatchRound.dispatchTask
      rw [if_neg managed, read]
      dsimp only
      unfold DispatchRound.dispatchManaged
      dsimp only
      rw [show (input.round.settleTask input.burst.state task allowedCpus 0).decision.deferDispatch =
        false from held]
      rfl
    change _ ∈ ((input.burst.flow.settle 0
      (input.round.dispatchTask input.burst.state task ⟨0, true⟩).2).sent)
    rw [fate]
    exact List.mem_singleton.mpr rfl
  · change ((input.round.settleTask input.burst.state task allowedCpus 0).decision.selectedCpu.bind
      tryI32).getD rlCpuAny = _
    rw [show (input.round.settleTask input.burst.state task allowedCpus 0).decision.selectedCpu = _
      from selected]

/-- Whatever the load, the plan and the records, every hand-over of a task names
an allowed CPU, exactly when a stay of the task has an allowed CPU to use. -/
theorem dispatchLoop_cpuAllowed_iff (consistent : topo.Consistent)
    (nonempty : allowedCpus.isEmpty = false) :
    (∀ (input : RoundInput) (attempts : Nat → Attempt) (handover : Handover), input.topo = topo →
      input.mapping = mapping → input.cfg = cfg →
      input.allowedCpusByTid[task.key]? = some allowedCpus →
      (task, handover) ∈ (dispatchLoop input.round attempts input.burst).flow.sent →
      CpuAllowed allowedCpus handover) ↔
    StayLegal topo allowedCpus task := by
  constructor
  · intro always
    by_contra illegal
    simp only [StayLegal, not_or, not_exists, not_and, not_forall] at illegal
    obtain ⟨nowhere, cpu, current, specific, outside⟩ := illegal
    obtain ⟨handover, sent, target⟩ :=
      quietRound_sent topo mapping cfg allowedCpus task consistent nonempty nowhere
    rw [current, Option.bind_some] at target
    obtain ⟨other, allowed, same⟩ := always _ _ handover rfl rfl rfl
      (quietRound_read topo mapping cfg allowedCpus task nonempty) sent (by rw [target]; exact specific)
    rw [target] at same
    unfold tryI32 at same specific
    split at specific
    next small =>
      rw [if_pos small, Option.getD_some] at same
      exact outside (Int.ofNat_inj.mp same ▸ allowed)
    · exact absurd rfl specific
  · rintro legal input attempts handover rfl rfl rfl read sent
    exact dispatchLoop_cpuAllowed input attempts consistent read legal sent

end Quiet

theorem dispatchLoop_cpuAllowed_at_home :
    StayLegal sampleTopology (.ofList [0]) strandedTask ∧
      ∀ (input : RoundInput) (attempts : Nat → Attempt) (handover : Handover),
        input.topo = sampleTopology → input.mapping = sampleMapping → input.cfg = samplePolicy →
        input.allowedCpusByTid[strandedTask.key]? = some (.ofList [0]) →
        (strandedTask, handover) ∈ (dispatchLoop input.round attempts input.burst).flow.sent →
        CpuAllowed (.ofList [0]) handover := by
  have legal : StayLegal sampleTopology (.ofList [0]) strandedTask :=
    .inl ⟨0, by decide, 0, by simp, by decide⟩
  exact ⟨legal, (dispatchLoop_cpuAllowed_iff sampleTopology sampleMapping samplePolicy (.ofList [0])
    strandedTask sampleTopology_consistent (by decide)).mpr legal⟩

/-- The stranded thread is at home on CPU 0 and may only use CPU 1. With no plan
and no sample it is handed over to CPU 0. -/
theorem dispatchLoop_sends_to_disallowed_cpu :
    ¬ ∀ (input : RoundInput) (attempts : Nat → Attempt) (task : QueuedTask)
        (allowedCpus : TreeSet Nat) (handover : Handover), input.topo.Consistent →
      input.allowedCpusByTid[task.key]? = some allowedCpus → allowedCpus.isEmpty = false →
      (task, handover) ∈ (dispatchLoop input.round attempts input.burst).flow.sent →
      CpuAllowed allowedCpus handover := by
  intro claim
  have nonempty : (TreeSet.ofList [1] : TreeSet Nat).isEmpty = false := by decide
  obtain ⟨handover, sent, target⟩ := quietRound_sent sampleTopology sampleMapping samplePolicy
    (.ofList [1]) strandedTask sampleTopology_consistent nonempty (by
      intro domain home cpu allowed
      obtain rfl : 0 = domain := Option.some.inj home
      obtain rfl : 1 = cpu := by simpa using allowed
      decide)
  have current : handover.dispatched.cpu = 0 := target
  obtain ⟨cpu, allowed, same⟩ := claim _ _ strandedTask (.ofList [1]) handover
    sampleTopology_consistent (quietRound_read sampleTopology sampleMapping samplePolicy (.ofList [1])
      strandedTask nonempty) nonempty sent (by rw [current]; decide)
  obtain rfl : 1 = cpu := by simpa using allowed
  rw [current] at same
  exact absurd same (by decide)

end CSwitch.Dispatch
