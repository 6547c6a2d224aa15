import CSwitch.Arcas.Placement
import CSwitch.Dispatch.SelectLoop

/-! The dispatch loop of the ARCAS scheduler. Pending moves towards the
controller's target domains go first, the one with the most near-cache traffic
before the others; all other tasks follow in queue order. -/

set_option autoImplicit false

namespace CSwitch.Arcas

open Std (TreeMap TreeSet)
open Policy Dispatch Library

/-- The part of the controller's state that the loop reads. -/
structure ArcasControllerState where
  activeDomains : List Nat
  targetDomainByTid : TreeMap Nat Nat
  targetCpuByTid : TreeMap Nat Nat

structure ArcasRound where
  topo : TopologyLayout
  mapping : MappingInfo
  cfg : PolicyConfig
  llcStates : List (Option LlcStateValue)
  dfStates : List (Option CcmDfStateValue)
  cpuUtilsX100 : List Nat
  allowedCpusByTid : CpuSetMap
  controller : ArcasControllerState
  userschedPid : Nat

def collectAllowedCpusForPending (pending : List QueuedTask) (userschedPid : Nat)
    (allowedCpus : Nat → Option (TreeSet Nat)) : CpuSetMap :=
  collectAllowedCpusWith (fun task => task.group == userschedPid) pending allowedCpus

/-- The round with the affinities of its pending tasks. -/
def ArcasRound.reading (round : ArcasRound) (pending : List QueuedTask)
    (allowedCpus : Nat → Option (TreeSet Nat)) : ArcasRound :=
  { round with
    allowedCpusByTid := collectAllowedCpusForPending pending round.userschedPid allowedCpus }

/-- Unlike in the default loop the reason of a move does not matter here. -/
def isCrossDomainMove (task : QueuedTask) (decision : PlacementDecision) : Bool :=
  (decision.selectedDomain.map fun domain => some domain != taskCurrentDomain task).getD false &&
    !decision.deferDispatch

/-! ## Selection -/

structure BestMove where
  nearFillX100 : Nat
  index : Nat
  decision : PlacementDecision

structure ArcasScan where
  bestMove : Option BestMove := none
  firstRunnable : Option (Nat × PlacementDecision) := none
  dropIndex : Option Nat := none

/-- The move with more near-cache traffic; the earlier one at equal traffic. -/
def betterMove (best : Option BestMove) (move : BestMove) : BestMove :=
  match best with
  | none => move
  | some best =>
      if move.nearFillX100 > best.nearFillX100 ∨
          (move.nearFillX100 = best.nearFillX100 ∧ move.index < best.index) then move
      else best

namespace ArcasRound

variable (round : ArcasRound)

def context (state : DispatchState) (task : QueuedTask) (allowedCpus : TreeSet Nat) (nowNs : Nat) :
    PlacementContext where
  task
  thread := state.threads[task.key]?
  topo := round.topo
  mapping := round.mapping
  plannedStates := state.reservations.domainStates
  llcStates := round.llcStates
  dfStates := []
  cpuStates := state.cpuStates
  cpuUtilsX100 := round.cpuUtilsX100
  plannedCpuStates := state.reservations.cpuStates
  allowedCpus
  nowNs
  cfg := round.cfg

def scanTask (attempt : Attempt) (state : DispatchState) (scan : ArcasScan)
    (entry : Nat × QueuedTask) : ArcasScan :=
  let (index, task) := entry
  match round.allowedCpusByTid[task.key]? with
  | none => { scan with dropIndex := scan.dropIndex.or (some index) }
  | some allowedCpus =>
      let targetDomain := round.controller.targetDomainByTid[task.key]?
      let decision := choosePlacementWithTargets
        (round.context state task allowedCpus attempt.nowNs)
        { activeDomains := round.controller.activeDomains, targetDomain
          targetCpu := round.controller.targetCpuByTid[task.key]? }
      let targetMismatch := targetDomain.isSome && (taskCurrentDomain task).isSome &&
        targetDomain != taskCurrentDomain task
      if targetMismatch && isCrossDomainMove task decision then
        let nearFillX100 := task.lastFillBwMibSX100.get memSourceNearCache
        { scan with bestMove := some (betterMove scan.bestMove ⟨nearFillX100, index, decision⟩) }
      else { scan with firstRunnable := scan.firstRunnable.or (some (index, decision)) }

def scanPending (attempt : Attempt) (state : DispatchState) (pending : List QueuedTask) : ArcasScan :=
  (pending.mapIdx fun index task => (index, task)).foldl (round.scanTask attempt state) {}

def selectNextPending (attempt : Attempt) (state : DispatchState) (pending : List QueuedTask) :
    DispatchState × Option PendingSelection :=
  let scan := round.scanPending attempt state pending
  (state,
    match scan.bestMove, scan.firstRunnable with
    | some move, _ => some (.runnable move.index move.decision)
    | none, some (index, decision) => some (.runnable index decision)
    | none, none => scan.dropIndex.map .drop)

/-! ## Records -/

def tickHoldoff (state : DispatchState) (task : QueuedTask) (decision : PlacementDecision) :
    DispatchState × Nat :=
  let (entry, ticks) := nextTickHoldoffTicks (threadEntry state.threads task.key) task decision
  ({ state with threads := state.threads.insert task.key entry }, ticks)

/-- The thread record after a dispatch; there is no reverse protection here. -/
def recordEntry (entry : ManagedThreadState) (task : QueuedTask) (decision : PlacementDecision)
    (nowNs : Nat) : ManagedThreadState :=
  let seen := { entry with
    tid := task.key
    tgid := task.group
    comm := commToString task.comm
    lastSeenNs := nowNs
    lastClass := decision.threadClass
    lastSelectedDomain := recordedDomain task decision
    lastSelectedCpu := recordedCpu task decision
    lastObservedDomain := taskCurrentDomain task
    lastObservedCpu := taskCurrentCpu task }
  let moved :=
    if (taskCurrentDomain task).isSome && decision.selectedDomain.isSome &&
        taskCurrentDomain task != decision.selectedDomain then
      { seen with
        settleUntilNs := wrapAdd64 nowNs (satMul64 round.cfg.migrateSettleMs 1000000)
        lastMigrationFromDomain := taskCurrentDomain task
        lastMigrationToDomain := recordedDomain task decision
        lastMigrationAtNs := nowNs }
    else seen
  if round.cfg.signatureSnapshots then
    { moved with
      dispatchSnapshot := captureDispatchSnapshot round.dfStates nowNs round.cfg.dfStaleMs
        (recordedDomain task decision) (recordedCpu task decision) }
  else moved

def recordDispatch (state : DispatchState) (task : QueuedTask) (decision : PlacementDecision)
    (nowNs : Nat) : DispatchState :=
  let entry := round.recordEntry (threadEntry state.threads task.key) task decision nowNs
  let threads := state.threads.insert task.key entry
  let migrated :=
    match (recordedDomain task decision).filter fun _ => isCrossDomainMove task decision with
    | none => state.reservations
    | some domain =>
        state.reservations.commitDomainDecision task threads[task.key]? round.mapping domain
  match recordedCpu task decision with
  | none => { state with threads, reservations := migrated }
  | some cpu =>
      { threads
        reservations := migrated.commitCpuDecision task cpu
        cpuStates := occupyCpu state.cpuStates cpu task.key nowNs }

/-! ## The scan only answers pending indices -/

/-- What the scan has found lies in the queue, and a task marked to be dropped
has no allowed CPUs on record. -/
structure ScanSound (round : ArcasRound) (pending : List QueuedTask) (scan : ArcasScan) : Prop where
  move : ∀ move, scan.bestMove = some move → move.index < pending.length
  runnable : ∀ index decision, scan.firstRunnable = some (index, decision) → index < pending.length
  drop : ∀ index, scan.dropIndex = some index → ∃ task, pending[index]? = some task ∧
    round.allowedCpusByTid[task.key]? = none

variable {round} {attempt : Attempt} {state : DispatchState} {pending : List QueuedTask}

theorem scanTask_sound {scan : ArcasScan} {entry : Nat × QueuedTask}
    (sound : ScanSound round pending scan) (found : pending[entry.1]? = some entry.2) :
    ScanSound round pending (round.scanTask attempt state scan entry) := by
  obtain ⟨index, task⟩ := entry
  have bound : index < pending.length := (List.getElem?_eq_some_iff.mp found).1
  unfold scanTask
  dsimp only
  split
  next unread =>
    refine ⟨sound.move, sound.runnable, ?_⟩
    intro other marked
    rcases Option.or_eq_some_iff.mp marked with earlier | ⟨_, here⟩
    · exact sound.drop other earlier
    · obtain rfl := Option.some.inj here
      exact ⟨task, found, unread⟩
  · split
    · refine ⟨?_, sound.runnable, sound.drop⟩
      intro move chosen
      obtain rfl := Option.some.inj chosen
      unfold betterMove
      split
      · exact bound
      next best known =>
        split
        · exact bound
        · exact sound.move best known
    · refine ⟨sound.move, ?_, sound.drop⟩
      intro other decision marked
      rcases Option.or_eq_some_iff.mp marked with earlier | ⟨_, here⟩
      · exact sound.runnable other decision earlier
      · exact (Prod.mk.inj (Option.some.inj here)).1 ▸ bound

theorem scanPending_sound (attempt : Attempt) (state : DispatchState) :
    ScanSound round pending (round.scanPending attempt state pending) := by
  refine List.foldlRecOn _ _ (motive := ScanSound round pending) ⟨by simp, by simp, by simp⟩ ?_
  intro scan sound entry member
  refine scanTask_sound sound ?_
  obtain ⟨index, bound, rfl⟩ := List.mem_mapIdx.mp member
  exact List.getElem?_eq_getElem bound

def loop (round : ArcasRound) : SelectLoop QueuedTask DispatchState Attempt where
  userschedPid := round.userschedPid
  task := id
  attempt := id
  helperCpus _ task := round.allowedCpusByTid[task.key]?
  select := round.selectNextPending
  holdoff := tickHoldoff
  commit := round.recordDispatch
  Unreadable _ _ task := round.allowedCpusByTid[task.key]? = none
  select_pending := by
    intro attempt state pending selection chosen
    have sound : ScanSound round pending (round.scanPending attempt state pending) :=
      scanPending_sound attempt state
    unfold selectNextPending at chosen
    dsimp only at chosen
    split at chosen
    next move best =>
      obtain rfl := Option.some.inj chosen
      exact sound.move move best
    next index decision _ first =>
      obtain rfl := Option.some.inj chosen
      exact sound.runnable index decision first
    · obtain ⟨index, found, rfl⟩ := Option.map_eq_some_iff.mp chosen
      obtain ⟨task, listed, _⟩ := sound.drop index found
      exact (List.getElem?_eq_some_iff.mp listed).1
  drop_unreadable := by
    intro attempt state pending index item chosen found
    have sound : ScanSound round pending (round.scanPending attempt state pending) :=
      scanPending_sound attempt state
    unfold selectNextPending at chosen
    dsimp only at chosen
    split at chosen
    · simp at chosen
    · simp at chosen
    · obtain ⟨other, marked, same⟩ := Option.map_eq_some_iff.mp chosen
      obtain rfl := PendingSelection.drop.inj same
      obtain ⟨task, listed, unread⟩ := sound.drop other marked
      obtain rfl := Option.some.inj (listed.symm.trans found)
      exact unread

end ArcasRound

end CSwitch.Arcas
