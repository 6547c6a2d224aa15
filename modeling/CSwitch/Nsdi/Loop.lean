import CSwitch.Dispatch.SelectLoop
import CSwitch.Nsdi.Placement

/-! The dispatch loop of the NSDI scheduler. Tasks belong to applications, found
through the process tree; the first pending task that an application can place
on its own CPUs goes next. -/

set_option autoImplicit false

namespace CSwitch.Nsdi

open Std (TreeMap TreeSet)
open Policy Dispatch Library

structure PendingTask where
  task : QueuedTask
  queuedAtNs : Nat
  deriving DecidableEq

structure NsdiAppState where
  id : Nat
  rootPid : Nat
  ownedCpus : TreeSet Nat
  pendingTasks : Nat := 0
  pendingDelayEwmaUs : Nat := 0
  lastScaleAtNs : Nat := 0

/-! ## Applications of a process -/

/-- The walk up the process tree; `fuel` counts the 256 levels it may take. The
processes passed on the way are returned with the application. -/
def resolveLineage (pidToApp rootToApp : TreeMap Nat Nat) (parentLookup : Nat → Option Nat) :
    Nat → Option Nat → List Nat → Option (Nat × List Nat)
  | 0, _, _ => none
  | _ + 1, none, _ => none
  | fuel + 1, some pid, lineage =>
      match (pidToApp[pid]?).or rootToApp[pid]? with
      | some appId => some (appId, lineage)
      | none => resolveLineage pidToApp rootToApp parentLookup fuel (parentLookup pid)
          (lineage ++ [pid])

def resolveAppIdWithLookup (pid : Nat) (pidToApp rootToApp : TreeMap Nat Nat)
    (parentLookup : Nat → Option Nat) : TreeMap Nat Nat × Option Nat :=
  match pidToApp[pid]? with
  | some appId => (pidToApp, some appId)
  | none =>
      match resolveLineage pidToApp rootToApp parentLookup 256 (some pid) [] with
      | none => (pidToApp, none)
      | some (appId, lineage) =>
          ((lineage.foldl (fun known visited => known.insert visited appId) pidToApp).insert pid appId,
            some appId)

/-! ## Selection -/

structure NsdiRound where
  topo : TopologyLayout
  cfg : PolicyConfig
  llcStates : List (Option LlcStateValue)
  cpuUtilsX100 : List Nat
  appStates : List NsdiAppState
  rootToApp : TreeMap Nat Nat
  userschedPid : Nat

structure NsdiState where
  threads : ThreadMap
  plannedCpus : TreeMap Nat Nat
  plannedCpuStates : List PlannedCpuState
  cpuStates : List CpuStateValue
  pidToApp : TreeMap Nat Nat

/-- The outside of one iteration: clock and kernel, the affinity reads of the
scan by queue index, that of a launch helper by tid, and the process tree. -/
structure NsdiInput where
  attempt : Attempt
  allowedCpus : Nat → Option (TreeSet Nat)
  helperCpus : Nat → Option (TreeSet Nat)
  parentLookup : Nat → Option Nat

structure NsdiScan where
  pidToApp : TreeMap Nat Nat
  firstRunnable : Option (Nat × PlacementDecision) := none
  dropIndex : Option Nat := none

namespace NsdiRound

variable (round : NsdiRound)

/-- The decision for one pending task of a known application. Application ids
index the application table, whose own ids are all there are: one beyond it, where the
source would panic, does not occur and reads no CPUs here. -/
def placement (input : NsdiInput) (state : NsdiState) (task : QueuedTask)
    (allowedCpus : TreeSet Nat) (appId : Nat) : Option PlacementDecision :=
  choosePlacementWithOwnedCpus task state.threads[task.key]? round.topo round.llcStates
    { cpuStates := state.cpuStates, cpuUtilsX100 := round.cpuUtilsX100
      plannedCpuStates := state.plannedCpuStates, cfg := round.cfg }
    allowedCpus ((round.appStates[appId]?.map (·.ownedCpus)).getD ∅) input.attempt.nowNs

def scanTask (input : NsdiInput) (state : NsdiState) (scan : NsdiScan) (entry : Nat × PendingTask) :
    NsdiScan :=
  let (index, pendingTask) := entry
  match readableCpus (input.allowedCpus index) with
  | none => { scan with dropIndex := scan.dropIndex.or (some index) }
  | some allowedCpus =>
      let (pidToApp, appId) := resolveAppIdWithLookup pendingTask.task.group scan.pidToApp
        round.rootToApp input.parentLookup
      let scan := { scan with pidToApp }
      match appId.bind (round.placement input state pendingTask.task allowedCpus) with
      | none => scan
      | some decision => { scan with firstRunnable := scan.firstRunnable.or (some (index, decision)) }

def scanPending (input : NsdiInput) (state : NsdiState) (pending : List PendingTask) : NsdiScan :=
  (pending.mapIdx fun index task => (index, task)).foldl (round.scanTask input state)
    { pidToApp := state.pidToApp }

def selectNextPending (input : NsdiInput) (state : NsdiState) (pending : List PendingTask) :
    NsdiState × Option PendingSelection :=
  let scan := round.scanPending input state pending
  ({ state with pidToApp := scan.pidToApp },
    match scan.firstRunnable with
    | some (index, decision) => some (.runnable index decision)
    | none => scan.dropIndex.map .drop)

/-! ## Records -/

def tickHoldoff (state : NsdiState) (task : QueuedTask) (decision : PlacementDecision) :
    NsdiState × Nat :=
  let (entry, ticks) := nextTickHoldoffTicks (threadEntry state.threads task.key) task decision
  ({ state with threads := state.threads.insert task.key entry }, ticks)

def recordDispatch (state : NsdiState) (task : QueuedTask) (decision : PlacementDecision)
    (nowNs : Nat) : NsdiState :=
  let entry := { threadEntry state.threads task.key with
    tid := task.key
    tgid := task.group
    comm := commToString task.comm
    lastSeenNs := nowNs
    lastClass := decision.threadClass
    lastSelectedDomain := recordedDomain task decision
    lastSelectedCpu := recordedCpu task decision
    lastObservedDomain := taskCurrentDomain task
    lastObservedCpu := taskCurrentCpu task }
  let state := { state with threads := state.threads.insert task.key entry }
  match recordedCpu task decision with
  | none => state
  | some cpu =>
      let (plannedCpuStates, plannedCpus) :=
        applyPlannedCpuAssignment state.plannedCpuStates state.plannedCpus task cpu
      { state with
        plannedCpuStates
        plannedCpus
        cpuStates := occupyCpu state.cpuStates cpu task.key nowNs }

/-! ## The scan only answers pending indices -/

/-- What the scan has found lies in the queue, and a task marked to be dropped
had no readable affinity. -/
structure ScanSound (input : NsdiInput) (length : Nat) (scan : NsdiScan) : Prop where
  runnable : ∀ index decision, scan.firstRunnable = some (index, decision) → index < length
  drop : ∀ index, scan.dropIndex = some index →
    index < length ∧ readableCpus (input.allowedCpus index) = none

variable {round} {input : NsdiInput} {state : NsdiState}

theorem scanTask_sound {length : Nat} {scan : NsdiScan} {entry : Nat × PendingTask}
    (sound : ScanSound input length scan) (bound : entry.1 < length) :
    ScanSound input length (round.scanTask input state scan entry) := by
  obtain ⟨index, pendingTask⟩ := entry
  unfold scanTask
  dsimp only
  split
  next unreadable =>
    refine ⟨sound.runnable, ?_⟩
    intro other marked
    rcases Option.or_eq_some_iff.mp marked with earlier | ⟨_, here⟩
    · exact sound.drop other earlier
    · obtain rfl := Option.some.inj here
      exact ⟨bound, unreadable⟩
  · split
    · exact ⟨sound.runnable, sound.drop⟩
    next decision _ =>
      refine ⟨?_, sound.drop⟩
      intro other chosen marked
      rcases Option.or_eq_some_iff.mp marked with earlier | ⟨_, here⟩
      · exact sound.runnable other chosen earlier
      · exact (Prod.mk.inj (Option.some.inj here)).1 ▸ bound

theorem scanPending_sound (pending : List PendingTask) :
    ScanSound input pending.length (round.scanPending input state pending) := by
  refine List.foldlRecOn _ _ (motive := ScanSound input pending.length) ⟨by simp, by simp⟩ ?_
  intro scan sound entry member
  refine scanTask_sound sound ?_
  obtain ⟨index, bound, rfl⟩ := List.mem_mapIdx.mp member
  exact bound

def loop (round : NsdiRound) : SelectLoop PendingTask NsdiState NsdiInput where
  userschedPid := round.userschedPid
  task := PendingTask.task
  attempt := NsdiInput.attempt
  helperCpus input task := input.helperCpus task.key
  select := round.selectNextPending
  holdoff := tickHoldoff
  commit := recordDispatch
  Unreadable input index _ := readableCpus (input.allowedCpus index) = none
  select_pending := by
    intro input state pending selection chosen
    have sound : ScanSound input pending.length (round.scanPending input state pending) :=
      scanPending_sound pending
    unfold selectNextPending at chosen
    dsimp only at chosen
    split at chosen
    next index decision found =>
      obtain rfl := Option.some.inj chosen
      exact sound.runnable index decision found
    · obtain ⟨index, found, rfl⟩ := Option.map_eq_some_iff.mp chosen
      exact (sound.drop index found).1
  drop_unreadable := by
    intro input state pending index item chosen _
    have sound : ScanSound input pending.length (round.scanPending input state pending) :=
      scanPending_sound pending
    unfold selectNextPending at chosen
    dsimp only at chosen
    split at chosen
    · simp at chosen
    · obtain ⟨other, found, same⟩ := Option.map_eq_some_iff.mp chosen
      obtain rfl := PendingSelection.drop.inj same
      exact (sound.drop other found).2

end NsdiRound

end CSwitch.Nsdi
