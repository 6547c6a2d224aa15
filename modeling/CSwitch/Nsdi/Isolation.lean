import CSwitch.Nsdi.ControllerProperties
import CSwitch.Policy.AllowedCpu

/-! Applications are isolated: a task that goes next gets a CPU that its affinity
allows and that its application owns, so two applications never share a CPU
while the ownership stands. -/

set_option autoImplicit false

namespace CSwitch.Nsdi

open Std (TreeMap TreeSet)
open Policy Dispatch Library

/-! ## Placement -/

section Placement

variable {view : OwnedView} {cpus : TreeSet Nat}

theorem currentCpuUsable_chosenFrom (task : QueuedTask) :
    ChosenFrom cpus (view.currentCpuUsable task cpus) := by
  intro cpu chosen
  obtain ⟨current, _, chosen⟩ := Option.bind_eq_some_iff.mp chosen
  cases legal : cpus.contains current with
  | false =>
      rw [legal] at chosen
      cases chosen
  | true =>
      simp only [legal, Bool.not_true, Bool.false_eq_true, if_false] at chosen
      have same : current = cpu := by
        repeat' split at chosen
        all_goals first | exact Option.some.inj chosen | cases chosen
      exact same ▸ legal

theorem chooseIdleOwnedCpu_chosenFrom : ChosenFrom cpus (view.chooseIdleOwnedCpu cpus) := by
  intro cpu chosen
  exact TreeSet.mem_toList.mp (List.mem_filter.mp (List.argmin_mem chosen)).1

theorem chooseSpreadCpu_chosenFrom (taskTid : Nat) :
    ChosenFrom cpus (view.chooseSpreadCpu cpus taskTid) := by
  intro cpu chosen
  exact TreeSet.mem_toList.mp (List.argmin_mem chosen)

/-- The last selector finds a CPU whenever there is one. -/
theorem chooseSpreadCpu_isSome {cpu : Nat} (member : cpu ∈ cpus) (taskTid : Nat) :
    (view.chooseSpreadCpu cpus taskTid).isSome := by
  cases chosen : view.chooseSpreadCpu cpus taskTid with
  | some _ => rfl
  | none =>
      have listed := TreeSet.mem_toList.mpr member
      rw [List.argmin_eq_none.mp chosen] at listed
      cases listed

variable {task : QueuedTask} {thread : Option ManagedThreadState} {topo : TopologyLayout}
  {llcStates : List (Option LlcStateValue)} {allowedCpus ownedCpus : TreeSet Nat} {nowNs : Nat}

theorem mem_legalCpus {cpu : Nat} :
    (cpu ∈ allowedCpus.filter fun cpu => ownedCpus.contains cpu) ↔
      cpu ∈ allowedCpus ∧ cpu ∈ ownedCpus := by
  simp [TreeSet.mem_filter]

theorem choosePlacementWithOwnedCpus_selectedCpu {decision : PlacementDecision}
    (chosen : choosePlacementWithOwnedCpus task thread topo llcStates view allowedCpus ownedCpus
      nowNs = some decision) :
    ∃ cpu, decision.selectedCpu = some cpu ∧ cpu ∈ allowedCpus ∧ cpu ∈ ownedCpus := by
  unfold choosePlacementWithOwnedCpus at chosen
  dsimp only at chosen
  split at chosen
  · cases chosen
  · obtain ⟨cpu, selected, built⟩ := Option.bind_eq_some_iff.mp chosen
    obtain rfl := Option.some.inj built
    refine ⟨cpu, rfl, mem_legalCpus.mp ?_⟩
    exact (currentCpuUsable_chosenFrom task).or
      (chooseIdleOwnedCpu_chosenFrom.or (chooseSpreadCpu_chosenFrom _)) cpu selected

theorem choosePlacementWithOwnedCpus_isSome_iff :
    (choosePlacementWithOwnedCpus task thread topo llcStates view allowedCpus ownedCpus
      nowNs).isSome ↔ ∃ cpu, cpu ∈ allowedCpus ∧ cpu ∈ ownedCpus := by
  constructor
  · intro found
    obtain ⟨decision, chosen⟩ := Option.isSome_iff_exists.mp found
    obtain ⟨cpu, _, legal⟩ := choosePlacementWithOwnedCpus_selectedCpu chosen
    exact ⟨cpu, legal⟩
  · rintro ⟨cpu, legal⟩
    have member := mem_legalCpus.mpr legal
    unfold choosePlacementWithOwnedCpus
    dsimp only
    generalize (allowedCpus.filter fun cpu => ownedCpus.contains cpu) = legalCpus at member ⊢
    split
    next empty => exact absurd member (TreeSet.not_mem_of_isEmpty empty)
    · have answered : ((view.currentCpuUsable task legalCpus).or
          ((view.chooseIdleOwnedCpu legalCpus).or
            (view.chooseSpreadCpu legalCpus task.key))).isSome := by
        simp [Option.isSome_or, chooseSpreadCpu_isSome member]
      obtain ⟨selected, found⟩ := Option.isSome_iff_exists.mp answered
      rw [found]
      rfl

end Placement

/-! ## Resolution -/

section Resolution

variable {pidToApp rootToApp : TreeMap Nat Nat} {parentLookup : Nat → Option Nat}

/-- The processes passed on the way up were not cached. -/
theorem resolveLineage_uncached {fuel : Nat} {current : Option Nat} {lineage visited : List Nat}
    {appId : Nat} (uncached : ∀ pid ∈ lineage, pidToApp[pid]? = none)
    (resolved : resolveLineage pidToApp rootToApp parentLookup fuel current lineage =
      some (appId, visited)) :
    ∀ pid ∈ visited, pidToApp[pid]? = none := by
  induction fuel generalizing current lineage with
  | zero => cases resolved
  | succ fuel ih =>
      cases current with
      | none => cases resolved
      | some pid =>
          simp only [resolveLineage] at resolved
          split at resolved
          next found =>
            obtain ⟨rfl, rfl⟩ := Prod.mk.inj (Option.some.inj resolved)
            exact uncached
          next missing =>
            refine ih ?_ resolved
            intro other member
            rcases List.mem_append.mp member with before | here
            · exact uncached other before
            · obtain rfl := List.mem_singleton.mp here
              exact (Option.or_eq_none_iff.mp missing).1

theorem getElem?_foldl_insert (visited : List Nat) (appId pid : Nat) (known : TreeMap Nat Nat) :
    (visited.foldl (fun known pid => known.insert pid appId) known)[pid]? =
      if pid ∈ visited then some appId else known[pid]? := by
  induction visited generalizing known with
  | nil => rfl
  | cons head rest ih =>
      rw [List.foldl_cons, ih, TreeMap.getElem?_insert]
      by_cases later : pid ∈ rest
      · simp [later]
      · by_cases same : head = pid
        · simp [same]
        · simp [later, same, Ne.symm same]

/-- Resolving a process never changes the application of a cached one. -/
theorem resolveAppIdWithLookup_keeps {pid cached appId : Nat} (known : pidToApp[cached]? = some appId) :
    (resolveAppIdWithLookup pid pidToApp rootToApp parentLookup).1[cached]? = some appId := by
  unfold resolveAppIdWithLookup
  split
  · exact known
  next missing =>
    split
    · exact known
    next found visited resolved =>
      have elsewhere : cached ∉ visited := by
        intro member
        have uncached := resolveLineage_uncached (by simp) resolved cached member
        rw [known] at uncached
        cases uncached
      have different : pid ≠ cached := by
        rintro rfl
        rw [known] at missing
        cases missing
      rw [TreeMap.getElem?_insert, if_neg (compare_eq_iff_eq.not.mpr different),
        getElem?_foldl_insert, if_neg elsewhere]
      exact known

/-- A resolved process is cached with its application. -/
theorem resolveAppIdWithLookup_caches {pid appId : Nat}
    (resolved : (resolveAppIdWithLookup pid pidToApp rootToApp parentLookup).2 = some appId) :
    (resolveAppIdWithLookup pid pidToApp rootToApp parentLookup).1[pid]? = some appId := by
  unfold resolveAppIdWithLookup at resolved ⊢
  split
  next found =>
    rw [found] at resolved
    exact found.trans resolved
  next missing =>
    rw [missing] at resolved
    dsimp only at resolved
    split
    next unresolved =>
      rw [unresolved] at resolved
      cases resolved
    next found visited walked =>
      rw [walked] at resolved
      rw [TreeMap.getElem?_insert_self]
      exact resolved

end Resolution

/-! ## The scan -/

namespace NsdiRound

variable (round : NsdiRound) (input : NsdiInput) (state : NsdiState) (pending : List PendingTask)

/-- The application cache when the scan comes to an index. -/
def cacheAt (index : Nat) : TreeMap Nat Nat :=
  (round.scanPending input state (pending.take index)).pidToApp

/-- The application that the scan finds for the task at an index. -/
def resolvedApp (index : Nat) : Option Nat :=
  pending[index]?.bind fun entry => (resolveAppIdWithLookup entry.task.group
    (round.cacheAt input state pending index) round.rootToApp input.parentLookup).2

/-- The affinity of the task at an index allows a CPU that its application owns. -/
def Placeable (index : Nat) : Prop :=
  ∃ allowedCpus appId cpu, readableCpus (input.allowedCpus index) = some allowedCpus ∧
    round.resolvedApp input state pending index = some appId ∧ cpu ∈ allowedCpus ∧
    cpu ∈ ownedBy round.appStates appId

/-- The decision that the scan computes at an index. -/
def decisionAt (index : Nat) : Option PlacementDecision := do
  let entry ← pending[index]?
  let allowedCpus ← readableCpus (input.allowedCpus index)
  let appId ← round.resolvedApp input state pending index
  round.placement input state entry.task allowedCpus appId

variable {round input state pending}

theorem mem_ownedCpus {appId cpu : Nat} :
    cpu ∈ (round.appStates[appId]?.map (·.ownedCpus)).getD ∅ ↔
      cpu ∈ ownedBy round.appStates appId := by
  cases found : round.appStates[appId]? with
  | none => simp [ownedBy, found]
  | some app => simp [ownedBy, found]

theorem decisionAt_selectedCpu {index : Nat} {decision : PlacementDecision}
    (decided : round.decisionAt input state pending index = some decision) :
    ∃ allowedCpus appId cpu, readableCpus (input.allowedCpus index) = some allowedCpus ∧
      round.resolvedApp input state pending index = some appId ∧
      decision.selectedCpu = some cpu ∧ cpu ∈ allowedCpus ∧
      cpu ∈ ownedBy round.appStates appId := by
  obtain ⟨entry, _, decided⟩ := Option.bind_eq_some_iff.mp decided
  obtain ⟨allowedCpus, readable, decided⟩ := Option.bind_eq_some_iff.mp decided
  obtain ⟨appId, resolved, placed⟩ := Option.bind_eq_some_iff.mp decided
  obtain ⟨cpu, selected, allowed, owned⟩ := choosePlacementWithOwnedCpus_selectedCpu placed
  exact ⟨allowedCpus, appId, cpu, readable, resolved, selected, allowed, mem_ownedCpus.mp owned⟩

theorem decisionAt_isSome_iff {index : Nat} :
    (round.decisionAt input state pending index).isSome ↔
      round.Placeable input state pending index := by
  constructor
  · intro decided
    obtain ⟨decision, decided⟩ := Option.isSome_iff_exists.mp decided
    obtain ⟨allowedCpus, appId, cpu, readable, resolved, _, allowed, owned⟩ :=
      decisionAt_selectedCpu decided
    exact ⟨allowedCpus, appId, cpu, readable, resolved, allowed, owned⟩
  · rintro ⟨allowedCpus, appId, cpu, readable, resolved, allowed, owned⟩
    obtain ⟨entry, found, _⟩ := Option.bind_eq_some_iff.mp resolved
    simp only [decisionAt, found, readable, resolved, bind, Option.bind_some]
    exact choosePlacementWithOwnedCpus_isSome_iff.mpr ⟨cpu, allowed, mem_ownedCpus.mpr owned⟩

theorem decisionAt_eq_none_iff {index : Nat} :
    round.decisionAt input state pending index = none ↔
      ¬round.Placeable input state pending index := by
  rw [← decisionAt_isSome_iff, Option.not_isSome_iff_eq_none]

theorem scanPending_append (entry : PendingTask) :
    round.scanPending input state (pending ++ [entry]) =
      round.scanTask input state (round.scanPending input state pending)
        (pending.length, entry) := by
  simp [scanPending, List.mapIdx_append, List.foldl_append]

/-- An index before the end does not see the tasks appended later. -/
theorem decisionAt_append {index : Nat} (before : index < pending.length) (entry : PendingTask) :
    round.decisionAt input state (pending ++ [entry]) index =
      round.decisionAt input state pending index := by
  simp only [decisionAt, resolvedApp, cacheAt, List.getElem?_append_left before,
    List.take_append_of_le_length before.le]

theorem scanPending_append_firstRunnable (entry : PendingTask) :
    (round.scanPending input state (pending ++ [entry])).firstRunnable =
      (round.scanPending input state pending).firstRunnable.or
        ((round.decisionAt input state (pending ++ [entry]) pending.length).map fun decision =>
          (pending.length, decision)) := by
  rw [scanPending_append]
  simp only [scanTask, decisionAt, resolvedApp, cacheAt, List.getElem?_append_right le_rfl,
    Nat.sub_self, List.getElem?_cons_zero, List.take_left, bind, Option.bind_some]
  cases readableCpus (input.allowedCpus pending.length) with
  | none => simp
  | some allowedCpus =>
      simp only [Option.bind_some]
      split
      next unplaced => simp [unplaced]
      next decision placed => simp [placed]

theorem decisionAt_beyond {index : Nat} (beyond : pending.length ≤ index) :
    round.decisionAt input state pending index = none := by
  simp only [decisionAt, List.getElem?_eq_none beyond, bind, Option.bind_none]

/-- What the scan finds, as a search through the indices. -/
theorem firstRunnable_eq :
    (round.scanPending input state pending).firstRunnable =
      (List.range pending.length).findSome? fun index =>
        (round.decisionAt input state pending index).map fun decision => (index, decision) := by
  induction pending using List.reverseRecOn with
  | nil => rfl
  | append_singleton pending entry ih =>
      have before : (List.range pending.length).findSome? (fun index =>
            (round.decisionAt input state (pending ++ [entry]) index).map fun decision =>
              (index, decision)) =
          (round.scanPending input state pending).firstRunnable := by
        rw [ih]
        refine findSome?_congr ?_
        intro index member
        rw [decisionAt_append (List.mem_range.mp member)]
      rw [scanPending_append_firstRunnable, List.length_append, List.length_singleton,
        List.range_succ, List.findSome?_append, List.findSome?_singleton, before]

/-- The scan keeps the first index with a decision. -/
theorem firstRunnable_iff {index : Nat} {decision : PlacementDecision} :
    (round.scanPending input state pending).firstRunnable = some (index, decision) ↔
      round.decisionAt input state pending index = some decision ∧
        ∀ earlier < index, round.decisionAt input state pending earlier = none := by
  rw [firstRunnable_eq, findSome?_range_iff]
  constructor
  · rintro ⟨place, _, found, first⟩
    obtain ⟨chosen, decided, same⟩ := Option.map_eq_some_iff.mp found
    obtain ⟨rfl, rfl⟩ := Prod.mk.inj same
    exact ⟨decided, fun earlier before => Option.map_eq_none_iff.mp (first earlier before)⟩
  · rintro ⟨decided, first⟩
    have within : index < pending.length := by
      by_contra beyond
      rw [decisionAt_beyond (Nat.le_of_not_lt beyond)] at decided
      cases decided
    exact ⟨index, within, Option.map_eq_some_iff.mpr ⟨decision, decided, rfl⟩,
      fun earlier before => Option.map_eq_none_iff.mpr (first earlier before)⟩

theorem selectNextPending_runnable_iff {index : Nat} {decision : PlacementDecision} :
    (round.selectNextPending input state pending).2 = some (.runnable index decision) ↔
      (round.scanPending input state pending).firstRunnable = some (index, decision) := by
  unfold selectNextPending
  dsimp only
  cases (round.scanPending input state pending).firstRunnable with
  | none => simp
  | some found => simp [Prod.ext_iff]

/-! ## The cache -/

theorem scanTask_keeps {scan : NsdiScan} {entry : Nat × PendingTask} {pid appId : Nat}
    (known : scan.pidToApp[pid]? = some appId) :
    (round.scanTask input state scan entry).pidToApp[pid]? = some appId := by
  unfold scanTask
  dsimp only
  split
  · exact known
  · split <;> exact resolveAppIdWithLookup_keeps known

/-- A task whose application the scan has found keeps it in the cache. -/
theorem selectNextPending_caches {index appId : Nat} {entry : PendingTask}
    {allowedCpus : TreeSet Nat} (found : pending[index]? = some entry)
    (readable : readableCpus (input.allowedCpus index) = some allowedCpus)
    (resolved : round.resolvedApp input state pending index = some appId) :
    (round.selectNextPending input state pending).1.pidToApp[entry.task.group]? = some appId := by
  induction pending using List.reverseRecOn with
  | nil => cases found
  | append_singleton pending last ih =>
      have scanned : (round.selectNextPending input state (pending ++ [last])).1.pidToApp =
          (round.scanTask input state (round.scanPending input state pending)
            (pending.length, last)).pidToApp := by
        simp only [selectNextPending, scanPending_append]
      rw [scanned]
      rcases Nat.lt_or_ge index pending.length with before | here
      · refine scanTask_keeps (ih ?_ ?_)
        · rwa [List.getElem?_append_left before] at found
        · simpa only [resolvedApp, cacheAt, List.getElem?_append_left before,
            List.take_append_of_le_length before.le] using resolved
      · obtain rfl : index = pending.length := by
          have bound := (List.getElem?_eq_some_iff.mp found).1
          rw [List.length_append, List.length_singleton] at bound
          omega
        simp only [resolvedApp, cacheAt, List.take_left, found, Option.bind_some] at resolved
        rw [List.getElem?_append_right le_rfl, Nat.sub_self, List.getElem?_cons_zero] at found
        obtain rfl := Option.some.inj found
        simp only [scanTask, readable]
        split <;> exact resolveAppIdWithLookup_caches resolved

end NsdiRound

/-! ## Isolation -/

/-- One call of `select_next_pending`, with everything that it reads. -/
structure Pick where
  round : NsdiRound
  input : NsdiInput
  state : NsdiState
  pending : List PendingTask

namespace Pick

def answer (pick : Pick) : Option PendingSelection :=
  (pick.round.selectNextPending pick.input pick.state pick.pending).2

def resolvedApp (pick : Pick) (index : Nat) : Option Nat :=
  pick.round.resolvedApp pick.input pick.state pick.pending index

/-- The call lets the task at `index`, of application `appId`, run on `cpu`. -/
def Gives (pick : Pick) (index appId cpu : Nat) : Prop :=
  ∃ decision, pick.answer = some (.runnable index decision) ∧
    pick.resolvedApp index = some appId ∧ decision.selectedCpu = some cpu

end Pick

/-- A task that may run gets a CPU that its affinity allows and its application
owns, and the cache then knows that application. -/
theorem Pick.answer_runnable {pick : Pick} {index : Nat} {decision : PlacementDecision}
    (answered : pick.answer = some (.runnable index decision)) :
    ∃ entry allowedCpus appId cpu, pick.pending[index]? = some entry ∧
      readableCpus (pick.input.allowedCpus index) = some allowedCpus ∧
      pick.resolvedApp index = some appId ∧
      (pick.round.selectNextPending pick.input pick.state pick.pending).1.pidToApp[
        entry.task.group]? = some appId ∧
      decision.selectedCpu = some cpu ∧ cpu ∈ allowedCpus ∧
      cpu ∈ ownedBy pick.round.appStates appId := by
  have found := NsdiRound.selectNextPending_runnable_iff.mp answered
  obtain ⟨allowedCpus, appId, cpu, readable, resolved, selected, allowed, owned⟩ :=
    NsdiRound.decisionAt_selectedCpu (NsdiRound.firstRunnable_iff.mp found).1
  obtain ⟨entry, listed, _⟩ := Option.bind_eq_some_iff.mp resolved
  exact ⟨entry, allowedCpus, appId, cpu, listed, readable, resolved,
    NsdiRound.selectNextPending_caches listed readable resolved, selected, allowed, owned⟩

/-- While the ownership stands, every task picked gets an allowed CPU of its own
application; the task picked is the first that can have one; and two tasks on
one CPU belong to one application. -/
theorem selectNextPending_isolates {stock : Set Nat} {owned : Nat → Set Nat}
    (exclusive : Exclusive stock owned) (picks : List Pick)
    (standing : ∀ pick ∈ picks, ownedBy pick.round.appStates = owned) :
    (∀ pick ∈ picks, ∀ index decision, pick.answer = some (.runnable index decision) →
      ∃ entry allowedCpus appId cpu, pick.pending[index]? = some entry ∧
        readableCpus (pick.input.allowedCpus index) = some allowedCpus ∧
        pick.resolvedApp index = some appId ∧
        (pick.round.selectNextPending pick.input pick.state pick.pending).1.pidToApp[
          entry.task.group]? = some appId ∧
        decision.selectedCpu = some cpu ∧ cpu ∈ allowedCpus ∧ cpu ∈ owned appId) ∧
    (∀ pick ∈ picks, ∀ index, (∃ decision, pick.answer = some (.runnable index decision)) ↔
      pick.round.Placeable pick.input pick.state pick.pending index ∧
        ∀ earlier < index, ¬pick.round.Placeable pick.input pick.state pick.pending earlier) ∧
    ∀ pick ∈ picks, ∀ other ∈ picks, ∀ index otherIndex appId otherApp cpu,
      pick.Gives index appId cpu → other.Gives otherIndex otherApp cpu → appId = otherApp := by
  refine ⟨?_, ?_, ?_⟩
  · intro pick member index decision answered
    rw [← standing pick member]
    exact Pick.answer_runnable answered
  · intro pick member index
    simp only [Pick.answer, NsdiRound.selectNextPending_runnable_iff, NsdiRound.firstRunnable_iff,
      NsdiRound.decisionAt_eq_none_iff, ← NsdiRound.decisionAt_isSome_iff,
      Option.isSome_iff_exists, exists_and_right]
  · rintro pick member other otherMember index otherIndex appId otherApp cpu
      ⟨decision, answered, resolved, selected⟩ ⟨otherDecision, otherAnswered, otherResolved, otherSelected⟩
    obtain ⟨_, _, found, chosen, _, _, resolvedTo, _, chose, _, holds⟩ :=
      Pick.answer_runnable answered
    obtain ⟨_, _, otherFound, otherChosen, _, _, otherResolvedTo, _, otherChose, _, otherHolds⟩ :=
      Pick.answer_runnable otherAnswered
    rw [standing pick member] at holds
    rw [standing other otherMember] at otherHolds
    obtain rfl := Option.some.inj (resolved.symm.trans resolvedTo)
    obtain rfl := Option.some.inj (otherResolved.symm.trans otherResolvedTo)
    obtain rfl := Option.some.inj (selected.symm.trans chose)
    obtain rfl := Option.some.inj (otherSelected.symm.trans otherChose)
    exact exclusive.apart holds otherHolds

/-- Two applications of the static partition, and a queue of one task. -/
def pairRound : NsdiRound where
  topo := Planner.sampleTopology
  cfg := Planner.samplePolicy
  llcStates := []
  cpuUtilsX100 := []
  appStates := initializeStaticCpuPartition pairApps pairCpus
  rootToApp := ((∅ : TreeMap Nat Nat).insert 10 0).insert 11 1
  userschedPid := 1

def pairPick (tgid : Int) : Pick where
  round := pairRound
  input := { attempt := ⟨1000, true⟩, allowedCpus := fun _ => some pairCpus,
             helperCpus := fun _ => none, parentLookup := fun _ => none }
  state := { threads := ∅, plannedCpus := ∅, plannedCpuStates := [], cpuStates := [],
             pidToApp := ∅ }
  pending := [{ task := { tid := 100, tgid, currentCpu := 0, currentDomain := 0 },
                queuedAtNs := 0 }]

/-- The task of the second application runs although the first owns the CPU
that it was on. -/
theorem selectNextPending_isolates_pair :
    ∃ decision, (pairPick 11).answer = some (.runnable 0 decision) := by
  have exclusive : Exclusive (members pairCpus) (ownedBy pairRound.appStates) :=
    initializeStaticCpuPartition_exclusive pairApps_indexed
  have standing : ∀ pick ∈ [pairPick 10, pairPick 11],
      ownedBy pick.round.appStates = ownedBy pairRound.appStates := by
    intro pick member
    simp only [List.mem_cons, List.not_mem_nil, or_false] at member
    rcases member with rfl | rfl <;> rfl
  have isolates := selectNextPending_isolates exclusive _ standing
  refine (isolates.2.1 (pairPick 11) (by simp) 0).mpr ⟨⟨pairCpus, 1, 4, ?_, ?_, ?_, ?_⟩, by simp⟩
  · rfl
  · decide +kernel
  · decide +kernel
  · exact ⟨_, rfl, by decide +kernel⟩

end CSwitch.Nsdi
