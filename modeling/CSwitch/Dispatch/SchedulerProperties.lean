import CSwitch.Dispatch.BurstProperties
import CSwitch.Dispatch.Scheduler

/-! Migration hysteresis over runs. Only the dispatch of a task to another
domain writes the migration timers of its thread, so a timer that was set stays
in force until the thread exits or moves again. -/

set_option autoImplicit false

namespace CSwitch.Dispatch

open Std (TreeMap TreeSet)
open Policy Planner Library

/-! ## What a crossing dispatch passed -/

def LiveAboveCapacity (mapping : MappingInfo) (dfStates : List (Option CcmDfStateValue))
    (nowNs staleMs domain : Nat) : Prop :=
  ∃ sample, usableDf (getFlat dfStates domain) nowNs staleMs = some sample ∧
    mapping.dfCapacityMibSX100 domain < sample.bwX100

/-- A move straight back over the last recorded migration, inside its window. -/
structure ReversesEarly (thread : ManagedThreadState) (source target nowNs : Nat) : Prop where
  early : nowNs < thread.reverseProtectUntilNs
  back : thread.lastMigrationToDomain = some source
  forth : thread.lastMigrationFromDomain = some target

theorem timerRejection_none {thread : ManagedThreadState} {source target nowNs : Nat}
    (passed : timerRejection thread (some source) target nowNs = none) :
    thread.settleUntilNs ≤ nowNs ∧ ¬ ReversesEarly thread source target nowNs := by
  unfold timerRejection at passed
  split at passed
  · simp at passed
  next settled =>
    split at passed
    · simp at passed
    next forward =>
      exact ⟨Nat.not_lt.mp settled,
        fun reverses => forward ⟨reverses.early, reverses.back, reverses.forth⟩⟩

theorem admitted_reverse {ctx : PlacementContext} {candidate : CandidateEval}
    {thread : ManagedThreadState} {source : Nat} (admitted : ctx.Admitted candidate)
    (known : ctx.currentExcluded = false) (home : ctx.currentDomain = some source)
    (record : ctx.thread = some thread)
    (reverses : ReversesEarly thread source candidate.domain ctx.nowNs) :
    LiveAboveCapacity ctx.mapping ctx.dfStates ctx.nowNs ctx.cfg.dfStaleMs source := by
  obtain ⟨df, llc, admits⟩ := admitted
  have guarded := admits.guarded
  unfold PlacementContext.guardVerdict at guarded
  simp only [known, Bool.false_eq_true, if_false] at guarded
  split at guarded
  · simp at guarded
  next yields =>
    have blocked : reverseMoveBlocked ctx.thread ctx.currentDomain candidate.domain ctx.nowNs =
        true := by
      simp [reverseMoveBlocked, record, home, reverses.early, reverses.back, reverses.forth]
    rw [PlacementContext.reverseBlocks, ← admits.evaluated, blocked, Bool.true_and,
      Bool.not_eq_true, Bool.not_eq_false'] at yields
    unfold reverseHysteresisCanYield at yields
    split at yields
    · simp at yields
    next overloaded =>
      have above : ctx.mapping.dfCapacityMibSX100 source < ctx.liveSourceDfX100 := by
        simpa [PlacementContext.sourceDfCapacityMibSX100, home] using overloaded
      unfold PlacementContext.liveSourceDfX100 at above
      rw [PlacementContext.currentDf, home, Option.bind_some] at above
      cases sample : usableDf (getFlat ctx.dfStates source) ctx.nowNs ctx.cfg.dfStaleMs with
      | none => simp [sample] at above
      | some value => exact ⟨value, sample, by simpa [sample] using above⟩

/-- A crossing out of a known domain that is no spread waited for the settle
window, and goes back early only as an overloaded choice of the policy. -/
theorem Decided.timers {round : DispatchRound} {ctx : PlacementContext}
    {decision : PlacementDecision} {thread : ManagedThreadState} {source target : Nat}
    (decided : Decided round ctx decision) (known : ctx.currentExcluded = false)
    (home : ctx.currentDomain = some source) (selected : decision.selectedDomain = some target)
    (crosses : source ≠ target) (reason : decision.reason ≠ .idleSpread)
    (record : ctx.thread = some thread) :
    thread.settleUntilNs ≤ ctx.nowNs ∧ (ReversesEarly thread source target ctx.nowNs →
      decision.planUsed = false ∧
        LiveAboveCapacity ctx.mapping ctx.dfStates ctx.nowNs ctx.cfg.dfStaleMs source) := by
  have elsewhere : ctx.currentDomain ≠ some target := by
    rw [home]
    exact fun same => crosses (Option.some.inj same)
  cases decided with
  | planned active current listed accepted domain planned used =>
      obtain rfl := Option.some.inj (domain.symm.trans selected)
      have passed := (planRejection_none accepted elsewhere).timers known thread record
      rw [home] at passed
      obtain ⟨settled, forward⟩ := timerRejection_none passed
      exact ⟨settled, fun reverses => absurd reverses forward⟩
  | policy outcome domain same unplanned =>
      rw [domain] at selected
      rw [same] at reason
      cases outcome with
      | spread target => exact absurd rfl reason
      | stay calm stays => exact absurd (ctx.staySelectedDomain_eq.symm.trans selected) elsewhere
      | move calm known' settled warm signed budget admitted =>
          obtain rfl := Option.some.inj selected
          refine ⟨?_, fun reverses => ⟨unplanned, admitted_reverse admitted known home record reverses⟩⟩
          simpa [PlacementContext.inSettleWindow, record] using settled
      | escape calm excluded admitted =>
          rw [known] at excluded
          exact absurd excluded (by simp)

/-! ## The timers of a record -/

structure MigrationTimers where
  settleUntilNs : Nat
  fromDomain : Option Nat
  toDomain : Option Nat
  atNs : Nat
  reverseProtectUntilNs : Nat

def migrationTimers (thread : ManagedThreadState) : MigrationTimers where
  settleUntilNs := thread.settleUntilNs
  fromDomain := thread.lastMigrationFromDomain
  toDomain := thread.lastMigrationToDomain
  atNs := thread.lastMigrationAtNs
  reverseProtectUntilNs := thread.reverseProtectUntilNs

theorem settleTask_timers (round : DispatchRound) (state : DispatchState) (task : QueuedTask)
    (allowedCpus : TreeSet Nat) (nowNs : Nat) :
    migrationTimers (round.settleTask state task allowedCpus nowNs).entry =
      migrationTimers (threadEntry state.threads task.key) := by
  obtain ⟨fields, frame⟩ := maybeApplyVillainTokenThrottle_frame
    (threadEntry state.threads task.key) (round.currentVillain task.key)
    (QueueTrigger.fromU32 task.trigger).isTick nowNs round.cfg
  have written : (round.settleTask state task allowedCpus nowNs).entry =
      (nextTickHoldoffTicks (withThrottle (threadEntry state.threads task.key) fields) task
        (round.settleTask state task allowedCpus nowNs).decision).1 := by
    rw [← frame]
    rfl
  rw [written]
  unfold nextTickHoldoffTicks
  split <;> rfl

theorem recordDecision_timers (entry : ManagedThreadState) (task : QueuedTask)
    (decision : PlacementDecision) (nowNs : Nat) (dfStates : List (Option CcmDfStateValue))
    (cfg : PolicyConfig) :
    migrationTimers (recordDecision entry task decision nowNs dfStates cfg) =
      migrationTimers (recordMigration entry task decision nowNs cfg) := by
  unfold recordDecision recordMigration
  dsimp only
  split <;> split <;> rfl

def SettlesUntil (threads : ThreadMap) (tid bound : Nat) : Prop :=
  ∃ thread, threads[tid]? = some thread ∧ bound ≤ thread.settleUntilNs

/-- A record written over an older one without its timers shrinking. -/
theorem settlesUntil_insert {threads : ThreadMap} {tid bound key : Nat} {entry : ManagedThreadState}
    (settles : SettlesUntil threads tid bound)
    (longer : (threadEntry threads key).settleUntilNs ≤ entry.settleUntilNs ∨
      bound ≤ entry.settleUntilNs) : SettlesUntil (threads.insert key entry) tid bound := by
  obtain ⟨thread, found, reaches⟩ := settles
  by_cases same : key = tid
  · subst same
    refine ⟨entry, TreeMap.getElem?_insert_self, ?_⟩
    rw [threadEntry, found, Option.getD_some] at longer
    omega
  · refine ⟨thread, ?_, reaches⟩
    rw [TreeMap.getElem?_insert, if_neg (by simpa using same)]
    exact found

def settleNs (cfg : PolicyConfig) : Nat := cfg.migrateSettleMs * 1000000

section Steps

variable {cfg : PolicyConfig} {nowNs : Nat}
  (fits : nowNs + settleNs cfg ≤ u64Max)

include fits

theorem recordMigration_crossed {task : QueuedTask} {decision : PlacementDecision}
    (crossed : crossesDomains task decision = true) (entry : ManagedThreadState) :
    (recordMigration entry task decision nowNs cfg).settleUntilNs = nowNs + settleNs cfg := by
  have window : satMul64 cfg.migrateSettleMs 1000000 = settleNs cfg :=
    Nat.min_eq_left (by unfold settleNs at fits; omega)
  rw [recordMigration, if_pos crossed]
  simp only [window]
  exact wrapAdd64_of_lt (Nat.lt_succ_of_le fits)

theorem taskStep_settlesUntil {round : DispatchRound} {state after : DispatchState}
    {task : QueuedTask} {attempt : Attempt} {fate : Fate Handover} {tid bound : Nat}
    (policy : round.cfg = cfg) (clock : attempt.nowNs = nowNs) (reached : bound ≤ nowNs + settleNs cfg)
    (step : TaskStep round state task attempt after fate)
    (settles : SettlesUntil state.threads tid bound) : SettlesUntil after.threads tid bound := by
  have recorded : ∀ (allowedCpus : TreeSet Nat), SettlesUntil (state.threads.insert task.key
      (recordDecision (round.settleTask state task allowedCpus attempt.nowNs).entry task
        (round.settleTask state task allowedCpus attempt.nowNs).decision attempt.nowNs round.dfStates
        round.cfg)) tid bound := by
    intro allowedCpus
    apply settlesUntil_insert settles
    have timers := congrArg MigrationTimers.settleUntilNs (recordDecision_timers
      (round.settleTask state task allowedCpus attempt.nowNs).entry task
      (round.settleTask state task allowedCpus attempt.nowNs).decision attempt.nowNs round.dfStates
      round.cfg)
    have kept := congrArg MigrationTimers.settleUntilNs
      (settleTask_timers round state task allowedCpus attempt.nowNs)
    simp only [migrationTimers] at timers kept
    rw [timers, clock, policy]
    cases crossed : crossesDomains task
        (round.settleTask state task allowedCpus attempt.nowNs).decision with
    | true =>
        rw [clock] at crossed
        exact .inr (by rw [recordMigration_crossed fits crossed]; exact reached)
    | false =>
        rw [clock] at crossed kept
        exact .inl (by rw [recordMigration, if_neg (by simp [crossed]), kept])
  cases step with
  | usersched own accepted => exact settles
  | userschedFailed own refused => exact settles
  | dropped managed unread => exact settles
  | @failed allowedCpus settled managed read taken held refused =>
      subst taken
      exact settlesUntil_insert settles (.inl (congrArg MigrationTimers.settleUntilNs
        (settleTask_timers round state task allowedCpus attempt.nowNs)).ge)
  | @deferred allowedCpus settled managed read taken put =>
      subst taken
      exact recorded allowedCpus
  | @sent allowedCpus settled managed read taken held accepted =>
      subst taken
      rw [commitDecision_threads]
      exact recorded allowedCpus

end Steps

/-! ## Dispatches in a run -/

/-- A hand-over with a decision is the settled decision of the front task. -/
theorem dispatchNext_sends {round : DispatchRound} {attempt : Attempt} {burst : Burst}
    {task : QueuedTask} {decision : PlacementDecision} {dispatched : DispatchedTask}
    (sends : (dispatchNext round attempt burst).flow.sent =
      burst.flow.sent ++ [(task, ⟨dispatched, some decision, attempt.nowNs⟩)]) :
    ∃ allowedCpus,
      decision = (round.settleTask burst.state task allowedCpus attempt.nowNs).decision ∧
      decision.deferDispatch = false ∧ (dispatchNext round attempt burst).state.threads =
        burst.state.threads.insert task.key (recordDecision
          (round.settleTask burst.state task allowedCpus attempt.nowNs).entry task decision
          attempt.nowNs round.dfStates round.cfg) := by
  rcases dispatchNext_cases round attempt burst with
    ⟨_, same⟩ | ⟨front, rest, state, fate, pending, _, step, next⟩
  · rw [same] at sends
    simp at sends
  have found : burst.flow.pending[0]? = some front := by rw [pending]; rfl
  rw [next] at sends ⊢
  cases step with
  | usersched own accepted => simp [Flow.settle_sent found] at sends
  | userschedFailed own refused => simp [Flow.settle_failed found] at sends
  | dropped managed unread => simp [Flow.settle_dropped found] at sends
  | failed managed read taken held refused => simp [Flow.settle_failed found] at sends
  | deferred managed read taken put => simp [Flow.settle_deferred found] at sends
  | @sent allowedCpus settled managed read taken held accepted =>
      simp only [Flow.settle_sent found, List.append_cancel_left_eq, List.cons.injEq, Prod.mk.injEq,
        Handover.mk.injEq, Option.some.injEq] at sends
      obtain ⟨⟨rfl, _, rfl, _⟩, _⟩ := sends
      subst taken
      exact ⟨allowedCpus, rfl, held, commitDecision_threads round _ _ _ _⟩

namespace SchedulerConfig

variable {config : SchedulerConfig} {worlds : Nat → RoundWorld} {start : SchedulerState}

/-- Everything before the dispatch loop keeps the windows of threads that live. -/
theorem preparedThreads_settlesUntil {world : RoundWorld} {state : SchedulerState} {tid bound : Nat}
    (alive : world.exited tid = false) (settles : SettlesUntil state.threads tid bound) :
    SettlesUntil (config.preparedThreads world state) tid bound := by
  have pruned : SettlesUntil (pruneDeadThreads state.threads world.exited) tid bound := by
    obtain ⟨thread, found, reaches⟩ := settles
    refine ⟨thread, ?_, reaches⟩
    simp [pruneDeadThreads, found, alive]
  have refreshed : SettlesUntil (config.prepass world (pruneDeadThreads state.threads world.exited)
      (state.pending ++ world.dequeued)).threads tid bound := by
    unfold prepass
    dsimp only
    have folded := List.foldlRecOn (state.pending ++ world.dequeued) (config.prepassTask world)
      (motive := fun pass : PrepassState => SettlesUntil pass.threads tid bound)
      (b := { threads := pruneDeadThreads state.threads world.exited
              triggers := world.sweepComplete.toList.map PlannerTrigger.sweepComplete ++
                world.domainStateFlips.toList.map PlannerTrigger.domainStateFlip }) pruned ?_
    · split <;> exact folded
    · intro pass kept task _
      unfold prepassTask
      split
      · exact kept
      · refine settlesUntil_insert kept (.inl (Nat.le_of_eq ?_))
        unfold prepassEntry refreshThreadFromTask
        dsimp only
        split
        · split <;> rfl
        · rfl
  unfold preparedThreads applyCsEvidence
  split
  · obtain ⟨thread, found, reaches⟩ := refreshed
    refine ⟨{ thread with ioCsSignature := world.csEvidence tid thread }, ?_, reaches⟩
    simp [found]
  · exact refreshed

theorem runBurst_succ (index count : Nat) :
    config.runBurst worlds start index (count + 1) =
      dispatchNext (config.runInput worlds start index).round ((worlds index).attempts count)
        (config.runBurst worlds start index count) := rfl

theorem runBurst_zero_threads (index : Nat) :
    (config.runBurst worlds start index 0).state.threads =
      config.preparedThreads (worlds index) (config.schedulerRun worlds start index) := rfl

theorem schedulerRun_succ_threads (index : Nat) :
    (config.schedulerRun worlds start (index + 1)).threads = (config.runBurst worlds start index
      (config.runInput worlds start index).pending.length).state.threads := rfl

/-- The clock of a run never goes back and stays clear of overflow. -/
structure SteadyClock (cfg : PolicyConfig) (worlds : Nat → RoundWorld) : Prop where
  monotone : ∀ index count index' count', index < index' ∨ (index = index' ∧ count ≤ count') →
    runNow worlds index count ≤ runNow worlds index' count'
  fits : ∀ index count, runNow worlds index count + settleNs cfg ≤ u64Max

section Window

variable (steady : SteadyClock config.cfg worlds) {first last tid bound : Nat}

include steady

theorem runBurst_settlesUntil {index : Nat}
    (reached : ∀ count, first ≤ count → bound ≤ runNow worlds index count + settleNs config.cfg)
    (settles : SettlesUntil (config.runBurst worlds start index first).state.threads tid bound)
    (later : first ≤ last) :
    SettlesUntil (config.runBurst worlds start index last).state.threads tid bound := by
  induction last, later using Nat.le_induction with
  | base => exact settles
  | succ count after ih =>
      rw [runBurst_succ]
      rcases dispatchNext_cases (config.runInput worlds start index).round
          ((worlds index).attempts count) (config.runBurst worlds start index count) with
        ⟨_, same⟩ | ⟨task, rest, state, fate, _, _, step, next⟩
      · rw [same]
        exact ih
      · rw [next]
        exact taskStep_settlesUntil (steady.fits index count) rfl rfl (reached count after) step ih

/-- A window that holds at the start of a round holds at the start of every
later one, while the thread lives. -/
theorem schedulerRun_settlesUntil
    (reached : ∀ index count, first ≤ index →
      bound ≤ runNow worlds index count + settleNs config.cfg)
    (alive : ∀ index, first ≤ index → index < last → (worlds index).exited tid = false)
    (settles : SettlesUntil (config.schedulerRun worlds start first).threads tid bound)
    (later : first ≤ last) :
    SettlesUntil (config.schedulerRun worlds start last).threads tid bound := by
  induction last, later using Nat.le_induction with
  | base => exact settles
  | succ index after ih =>
      have before := ih fun other lower upper => alive other lower (by omega)
      have prepared : SettlesUntil (config.runBurst worlds start index 0).state.threads tid bound := by
        rw [runBurst_zero_threads]
        exact preparedThreads_settlesUntil (alive index after (by omega)) before
      rw [schedulerRun_succ_threads]
      exact runBurst_settlesUntil steady (fun count _ => reached index count after) prepared
        (Nat.zero_le _)

theorem sendsAt_settlesUntil {index count : Nat} {task : QueuedTask} {decision : PlacementDecision}
    (sends : config.SendsAt worlds start index count task decision)
    (crossed : crossesDomains task decision = true) :
    SettlesUntil (config.runBurst worlds start index (count + 1)).state.threads task.key
      (runNow worlds index count + settleNs config.cfg) := by
  obtain ⟨dispatched, sent⟩ := sends
  rw [runBurst_succ] at sent ⊢
  obtain ⟨allowedCpus, _, _, threads⟩ := dispatchNext_sends sent
  rw [threads]
  refine ⟨_, TreeMap.getElem?_insert_self, Nat.le_of_eq ?_⟩
  have timers := congrArg MigrationTimers.settleUntilNs (recordDecision_timers
    ((config.runInput worlds start index).round.settleTask
      (config.runBurst worlds start index count).state task allowedCpus
      (runNow worlds index count)).entry task decision (runNow worlds index count)
    (worlds index).dfStates config.cfg)
  rw [migrationTimers, migrationTimers, recordMigration_crossed (steady.fits index count) crossed]
    at timers
  exact timers.symm

/-- The window of a crossing dispatch is in force at every later point of the
run, while the thread lives. -/
theorem sendsAt_settlesUntil_later {index count index' count' : Nat} {task : QueuedTask}
    {decision : PlacementDecision} (sends : config.SendsAt worlds start index count task decision)
    (crossed : crossesDomains task decision = true)
    (later : index < index' ∨ (index = index' ∧ count < count'))
    (alive : ∀ between, index < between → between ≤ index' →
      (worlds between).exited task.key = false) :
    SettlesUntil (config.runBurst worlds start index' count').state.threads task.key
      (runNow worlds index count + settleNs config.cfg) := by
  have window := sendsAt_settlesUntil steady sends crossed
  have reached : ∀ other turn, index < other ∨ (index = other ∧ count ≤ turn) →
      runNow worlds index count + settleNs config.cfg ≤
        runNow worlds other turn + settleNs config.cfg := by
    intro other turn after
    exact Nat.add_le_add_right (steady.monotone index count other turn after) _
  have within : ∀ turn, count + 1 ≤ turn → SettlesUntil
      (config.runBurst worlds start index turn).state.threads task.key
      (runNow worlds index count + settleNs config.cfg) := by
    intro turn after
    refine runBurst_settlesUntil steady ?_ window after
    exact fun other from_ => reached index other (.inr ⟨rfl, by omega⟩)
  rcases later with later | ⟨rfl, later⟩
  · -- past the end of the queue the loop stands still, so the round ends in the window too
    have ended : SettlesUntil (config.schedulerRun worlds start (index + 1)).threads task.key
        (runNow worlds index count + settleNs config.cfg) := by
      have final := within
        (max (count + 1) (config.runInput worlds start index).burst.flow.pending.length)
        (Nat.le_max_left _ _)
      rw [runBurst, iterate_dispatchNext_finished (config.runInput worlds start index).round
        (worlds index).attempts (config.runInput worlds start index).burst (Nat.le_max_right _ _)]
        at final
      exact final
    have prepared : SettlesUntil (config.runBurst worlds start index' 0).state.threads task.key
        (runNow worlds index count + settleNs config.cfg) := by
      rw [runBurst_zero_threads]
      refine preparedThreads_settlesUntil (alive index' later (Nat.le_refl _)) ?_
      refine schedulerRun_settlesUntil steady ?_ ?_ ended later
      · exact fun other turn after => reached other turn (.inl after)
      · exact fun other lower upper => alive other lower (by omega)
    exact runBurst_settlesUntil steady (fun turn _ => reached index' turn (.inl later)) prepared
      (Nat.zero_le _)
  · exact within count' later

end Window

/-- Migration hysteresis: a thread that crossed domains crosses again, other
than by a spread or out of an excluded domain, only after the settle window;
and only the policy, on an overloaded source, takes it straight back early. -/
theorem schedulerRun_hysteresis (steady : SteadyClock config.cfg worlds)
    {index count index' count' : Nat} {task task' : QueuedTask}
    {decision decision' : PlacementDecision} {source target : Nat}
    (first : config.SendsAt worlds start index count task decision)
    (crossed : crossesDomains task decision = true)
    (second : config.SendsAt worlds start index' count' task' decision')
    (later : index < index' ∨ (index = index' ∧ count < count')) (same : task'.key = task.key)
    (alive : ∀ between, index < between → between ≤ index' →
      (worlds between).exited task.key = false)
    (home : taskCurrentDomain task' = some source)
    (included : source ∉ config.mapping.excludedDomains)
    (selected : decision'.selectedDomain = some target) (crosses : source ≠ target)
    (reason : decision'.reason ≠ .idleSpread) :
    runNow worlds index count + settleNs config.cfg ≤ runNow worlds index' count' ∧
      ∀ thread, (config.runBurst worlds start index' count').state.threads[task'.key]? =
          some thread →
        ReversesEarly thread source target (runNow worlds index' count') →
        decision'.planUsed = false ∧ LiveAboveCapacity config.mapping (worlds index').dfStates
          (runNow worlds index' count') config.cfg.dfStaleMs source := by
  obtain ⟨settled, found, reaches⟩ := sendsAt_settlesUntil_later steady first crossed later alive
  rw [← same] at found
  obtain ⟨dispatched, sent⟩ := second
  rw [runBurst_succ] at sent
  obtain ⟨allowedCpus, taken, held, _⟩ := dispatchNext_sends sent
  subst taken
  have known : ((config.runInput worlds start index').round.context
      (config.runBurst worlds start index' count').state task' allowedCpus
      (runNow worlds index' count')).currentExcluded = false := by
    have absent : config.mapping.excludedDomains.contains source = false :=
      Bool.eq_false_iff.mpr (mt TreeSet.contains_iff_mem.mp included)
    simp only [PlacementContext.currentExcluded, PlacementContext.currentDomain,
      DispatchRound.context, home, Option.map_some, Option.getD_some]
    exact absent
  have decided := settleTask_decided (config.runInput worlds start index').round
    (config.runBurst worlds start index' count').state task' allowedCpus (runNow worlds index' count')
    held
  obtain ⟨waited, _⟩ := decided.timers known home selected crosses reason found
  refine ⟨reaches.trans waited, ?_⟩
  intro thread record reverses
  exact (decided.timers known home selected crosses reason record).2 reverses

def sampleScheduler : SchedulerConfig where
  topo := sampleTopology
  mapping := sampleMapping
  cfg := samplePolicy
  userschedPid := 1

/-- A round in which the thread 7, on the CPU and domain `here`, is planned to
the other domain. -/
def shuttleWorld (here nowNs : Nat) : RoundWorld where
  exited := fun _ => false
  dequeued := [{ strandedTask with currentCpu := here, currentDomain := here }]
  sweepComplete := none
  domainStateFlips := ∅
  victimLinks := ∅
  prepassNowNs := nowNs
  llcStates := []
  dfStates := []
  cpuStates := []
  cpuUtilsX100 := []
  updateSignature := fun thread _ => (thread.signature, thread.dispatchSnapshot)
  csEvidence := fun _ thread => thread.ioCsSignature
  allowedCpus := fun _ => some (.ofList [1 - here])
  activePlan := some
    { builtFromSweepEpoch := 1
      entries := .ofList [(7, ({ targetDomain := 1 - here } : PlacementPlanEntry))] }
  latestDfSweepEpoch := 1
  effectiveLinkVillains := []
  attempts := fun _ => ⟨nowNs, true⟩

/-- There at time 1000, and back after the 80 ms window. -/
def shuttleWorlds : Nat → RoundWorld
  | 0 => shuttleWorld 0 1000
  | _ => shuttleWorld 1 80001000

def shuttleTask (here : Nat) : QueuedTask :=
  { strandedTask with currentCpu := here, currentDomain := here }

def shuttleDecision (index here : Nat) : PlacementDecision :=
  ((sampleScheduler.runInput shuttleWorlds {} index).round.settleTask
    (sampleScheduler.runBurst shuttleWorlds {} index 0).state (shuttleTask here) (.ofList [1 - here])
    (runNow shuttleWorlds index 0)).decision

theorem schedulerRun_hysteresis_shuttle :
    crossesDomains (shuttleTask 0) (shuttleDecision 0 0) = true ∧
      crossesDomains (shuttleTask 1) (shuttleDecision 1 1) = true ∧
      runNow shuttleWorlds 0 0 + settleNs samplePolicy ≤ runNow shuttleWorlds 1 0 := by
  have steady : SteadyClock samplePolicy shuttleWorlds := by
    refine ⟨?_, ?_⟩
    · intro index count index' count' order
      match index, index' with
      | 0, 0 => exact Nat.le_refl 1000
      | 0, _ + 1 => change 1000 ≤ 80001000; decide
      | _ + 1, 0 => omega
      | _ + 1, _ + 1 => exact Nat.le_refl 80001000
    · intro index count
      match index with
      | 0 => change 1000 + settleNs samplePolicy ≤ u64Max; decide
      | _ + 1 => change 80001000 + settleNs samplePolicy ≤ u64Max; decide
  have first : sampleScheduler.SendsAt shuttleWorlds {} 0 0 (shuttleTask 0) (shuttleDecision 0 0) :=
    ⟨⟨7, 1, 0, defaultSliceNs, 0, 0, 0⟩, by decide +kernel⟩
  have second : sampleScheduler.SendsAt shuttleWorlds {} 1 0 (shuttleTask 1) (shuttleDecision 1 1) :=
    ⟨⟨7, 0, 0, defaultSliceNs, 0, 0, 0⟩, by decide +kernel⟩
  have crossed : crossesDomains (shuttleTask 0) (shuttleDecision 0 0) = true := by decide +kernel
  have again : crossesDomains (shuttleTask 1) (shuttleDecision 1 1) = true := by decide +kernel
  have alive : ∀ between, 0 < between → between ≤ 1 →
      (shuttleWorlds between).exited (shuttleTask 0).key = false := by
    intro between _ _
    match between with
    | 0 => rfl
    | _ + 1 => rfl
  have selected : (shuttleDecision 1 1).selectedDomain = some 0 := by decide +kernel
  have reason : (shuttleDecision 1 1).reason ≠ .idleSpread := by decide +kernel
  exact ⟨crossed, again, (schedulerRun_hysteresis steady first crossed second (.inl (by decide)) rfl
    alive rfl (by decide) selected (by decide) reason).1⟩

end SchedulerConfig

end CSwitch.Dispatch
