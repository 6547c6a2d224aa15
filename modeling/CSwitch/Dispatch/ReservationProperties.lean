import CSwitch.Dispatch.Reservations
import CSwitch.Library.FiberCount

/-! The task counters of the ledger against its map. A counter should equal the
number of tids that the map sends to its domain; commits keep this as long as
the domain a task is taken from is the one the ledger counts it in. -/

set_option autoImplicit false

namespace CSwitch.Dispatch

open Std (TreeMap TreeSet)
open Policy Planner FiberCount

def burstTids (threads : ThreadMap) (pending : List QueuedTask) : Finset Nat :=
  threads.keys.toFinset ∪ (pending.map (·.key)).toFinset

/-- Every task counter is the number of tids the map sends to its domain. -/
def DispatchBatchReservations.CountsLedger (reservations : DispatchBatchReservations)
    (tids : Finset Nat) : Prop :=
  ∀ domain state, reservations.domainStates[domain]? = some state →
    state.taskCount = fiberCount tids (fun tid => reservations.domainByTid[tid]?) (some domain)

/-- Two optional domains name the same counter of a ledger, or none. -/
def SlotAgrees (domainCount : Nat) (left right : Option Nat) : Prop :=
  ∀ domain < domainCount, left = some domain ↔ right = some domain

instance (domainCount : Nat) (left right : Option Nat) :
    Decidable (SlotAgrees domainCount left right) :=
  inferInstanceAs (Decidable (∀ domain < domainCount, left = some domain ↔ right = some domain))

/-! ## The initial counters -/

private theorem taskCount_foldl {α : Type} (index : α → Option Nat)
    (count : α → PlannedDomainState → PlannedDomainState)
    (counts : ∀ entry state, (count entry state).taskCount = satAdd32 state.taskCount 1)
    (entries : List α) (states : List PlannedDomainState) {domain : Nat}
    {state : PlannedDomainState} (found : states[domain]? = some state)
    (fits : state.taskCount + entries.length ≤ u32Max) :
    ∃ last, (entries.foldl (fun states entry => updateDomain states (index entry) (count entry))
        states)[domain]? = some last ∧
      last.taskCount =
        state.taskCount + entries.countP fun entry => decide (index entry = some domain) := by
  induction entries generalizing states state with
  | nil => exact ⟨state, found, rfl⟩
  | cons entry rest ih =>
      rw [List.length_cons] at fits
      by_cases here : index entry = some domain
      · have stepped : (updateDomain states (index entry) (count entry))[domain]? =
            some (count entry state) := by
          simp [updateDomain, here, found]
        have added : (count entry state).taskCount = state.taskCount + 1 := by
          rw [counts, satAdd32_of_le (by omega)]
        obtain ⟨last, reached, total⟩ := ih _ stepped (by omega)
        refine ⟨last, reached, ?_⟩
        rw [total, added, List.countP_cons_of_pos (by simpa using here)]
        omega
      · have stepped : (updateDomain states (index entry) (count entry))[domain]? = some state := by
          unfold updateDomain
          split
          · exact found
          next other same =>
            have distinct : other ≠ domain := fun equal => here (equal ▸ same)
            simp [distinct, found]
        obtain ⟨last, reached, total⟩ := ih _ stepped (by omega)
        refine ⟨last, reached, ?_⟩
        rw [total, List.countP_cons_of_neg (by simpa using here)]

private theorem countThread_taskCount (thread : ManagedThreadState) (state : PlannedDomainState) :
    (countThread thread state).taskCount = satAdd32 state.taskCount 1 := by
  unfold countThread
  dsimp only
  split <;> rfl

private theorem updateDomain_length (states : List PlannedDomainState) (domain : Option Nat)
    (update : PlannedDomainState → PlannedDomainState) :
    (updateDomain states domain update).length = states.length := by
  unfold updateDomain
  split <;> simp

private theorem foldl_updateDomain_length {α : Type} (index : α → Option Nat)
    (count : α → PlannedDomainState → PlannedDomainState) (entries : List α)
    (states : List PlannedDomainState) :
    (entries.foldl (fun states entry => updateDomain states (index entry) (count entry))
      states).length = states.length :=
  List.foldlRecOn entries _ (motive := fun (result : List PlannedDomainState) =>
    result.length = states.length) rfl
    fun result same _ _ => (updateDomain_length result _ _).trans same

theorem buildPlannedDomainStates_length (topo : TopologyLayout) (threads : ThreadMap)
    (pending : List QueuedTask) (plannedDomains : TreeMap Nat Nat) :
    (buildPlannedDomainStates topo threads pending plannedDomains).length = topo.domains.length := by
  unfold buildPlannedDomainStates
  dsimp only
  rw [List.length_map, foldl_updateDomain_length, foldl_updateDomain_length, List.length_replicate]

def unknownTasks (threads : ThreadMap) (pending : List QueuedTask) : List QueuedTask :=
  pending.filter fun task => !threads.contains task.key

/-- An initial counter: known threads where the ledger puts them, unknown tasks
where they are now. -/
theorem buildPlannedDomainStates_taskCount {topo : TopologyLayout} {threads : ThreadMap}
    {pending : List QueuedTask} {plannedDomains : TreeMap Nat Nat} {domain : Nat}
    {state : PlannedDomainState} (fits : threads.size + pending.length ≤ u32Max)
    (found : (buildPlannedDomainStates topo threads pending plannedDomains)[domain]? = some state) :
    state.taskCount =
      (threads.toList.countP fun entry =>
        decide (plannedDomains[entry.1]?.or (threadDomain entry.2) = some domain)) +
      (unknownTasks threads pending).countP fun task =>
        decide (taskCurrentDomain task = some domain) := by
  have bound : domain < topo.domains.length := by
    rw [← buildPlannedDomainStates_length topo threads pending plannedDomains]
    exact (List.getElem?_eq_some_iff.mp found).1
  have fewer : (unknownTasks threads pending).length ≤ pending.length := List.length_filter_le _ _
  have start : (List.replicate topo.domains.length ({} : PlannedDomainState))[domain]? =
      some {} := by simp [bound]
  unfold buildPlannedDomainStates at found
  simp only [List.getElem?_map] at found
  obtain ⟨counted, lookup, rfl⟩ := Option.map_eq_some_iff.mp found
  obtain ⟨known, knownFound, knownCount⟩ := taskCount_foldl
    (fun entry : Nat × ManagedThreadState => plannedDomains[entry.1]?.or (threadDomain entry.2))
    (fun entry => countThread entry.2) (fun entry => countThread_taskCount entry.2) threads.toList _
    start (by simp only [TreeMap.length_toList]; omega)
  have most : known.taskCount ≤ threads.size := by
    have := List.countP_le_length (l := threads.toList)
      (p := fun entry => decide (plannedDomains[entry.1]?.or (threadDomain entry.2) = some domain))
    rw [TreeMap.length_toList] at this
    simpa [knownCount] using this
  obtain ⟨all, allFound, allCount⟩ := taskCount_foldl taskCurrentDomain
    (fun _ => countUnknownTask) (fun _ _ => rfl) (unknownTasks threads pending) _ knownFound
    (by omega)
  obtain rfl := Option.some.inj (lookup.symm.trans allFound)
  simp only [allCount, knownCount, Nat.zero_add]

/-! ## The initial map -/

/-- Writing the pending domains into a map: a listed tid takes its task's
domain when that is known, every other tid keeps its entry. -/
private theorem getElem?_recordCurrentDomain (pending : List QueuedTask) (known : TreeMap Nat Nat)
    (unique : (pending.map (·.key)).Nodup) (tid : Nat) :
    (pending.foldl recordCurrentDomain known)[tid]? =
      ((pending.find? (·.key == tid)).bind taskCurrentDomain).or known[tid]? := by
  induction pending generalizing known with
  | nil => rfl
  | cons task rest ih =>
      rw [List.map_cons, List.nodup_cons] at unique
      rw [List.foldl_cons, ih _ unique.2]
      by_cases same : task.key = tid
      · have absent : rest.find? (·.key == tid) = none := by
          refine List.find?_eq_none.mpr ?_
          intro other listed matched
          exact unique.1 (List.mem_map.mpr ⟨other, listed, by simpa [same] using matched⟩)
        rw [absent, List.find?_cons_of_pos (by simpa using same), recordCurrentDomain]
        cases current : taskCurrentDomain task with
        | none => simp [current]
        | some domain => simp [current, same]
      · rw [List.find?_cons_of_neg (by simpa using same), recordCurrentDomain]
        cases taskCurrentDomain task with
        | none => rfl
        | some domain => simp [TreeMap.getElem?_insert, same]

section Snapshot

variable {topo : TopologyLayout} {threads : ThreadMap} {pending : List QueuedTask}
  {domainTargets cpuTargets : TreeMap Nat Nat}

theorem fromSnapshot_domainByTid (unique : (pending.map (·.key)).Nodup) (tid : Nat) :
    (DispatchBatchReservations.fromSnapshot topo threads pending domainTargets
      cpuTargets).domainByTid[tid]? =
      domainTargets[tid]?.or (((pending.find? (·.key == tid)).bind taskCurrentDomain).or
        (threads[tid]?.bind threadDomain)) := by
  unfold DispatchBatchReservations.fromSnapshot overlay buildPlannedThreadDomains
  dsimp only
  rw [TreeMap.getElem?_union, getElem?_recordCurrentDomain pending _ unique, TreeMap.getElem?_filterMap']

/-- A pending task without a thread record is planned in no domain but its own. -/
def InitialAgrees (topo : TopologyLayout) (threads : ThreadMap) (pending : List QueuedTask)
    (domainTargets : TreeMap Nat Nat) : Prop :=
  ∀ task ∈ unknownTasks threads pending, ∀ target, domainTargets[task.key]? = some target →
    SlotAgrees topo.domains.length (some target) (taskCurrentDomain task)

private theorem find?_key {task : QueuedTask} (unique : (pending.map (·.key)).Nodup)
    (listed : task ∈ pending) : pending.find? (·.key == task.key) = some task := by
  induction pending with
  | nil => simp at listed
  | cons head tail ih =>
      rw [List.map_cons, List.nodup_cons] at unique
      rcases List.mem_cons.mp listed with rfl | later
      · simp
      · have distinct : head.key ≠ task.key :=
          fun same => unique.1 (List.mem_map.mpr ⟨task, later, same.symm⟩)
        rw [List.find?_cons_of_neg (by simpa using distinct)]
        exact ih unique.2 later

theorem burstTids_split (threads : ThreadMap) (pending : List QueuedTask) :
    burstTids threads pending =
      threads.keys.toFinset ∪ ((unknownTasks threads pending).map (·.key)).toFinset := by
  ext tid
  simp only [burstTids, Finset.mem_union, List.mem_toFinset, TreeMap.mem_keys, List.mem_map,
    unknownTasks, List.mem_filter, Bool.not_eq_true', ← Bool.not_eq_true, TreeMap.contains_iff_mem]
  constructor
  · rintro (known | ⟨task, listed, rfl⟩)
    · exact .inl known
    · by_cases known : task.key ∈ threads
      · exact .inl known
      · exact .inr ⟨task, ⟨listed, known⟩, rfl⟩
  · rintro (known | ⟨task, listed, rfl⟩)
    · exact .inl known
    · exact .inr ⟨task, listed.1, rfl⟩

theorem fromSnapshot_countsLedger (unique : (pending.map (·.key)).Nodup)
    (fits : threads.size + pending.length ≤ u32Max)
    (agrees : InitialAgrees topo threads pending domainTargets) :
    (DispatchBatchReservations.fromSnapshot topo threads pending domainTargets
      cpuTargets).CountsLedger (burstTids threads pending) := by
  intro domain state found
  have bound : domain < topo.domains.length := by
    rw [← buildPlannedDomainStates_length topo threads pending]
    exact (List.getElem?_eq_some_iff.mp found).1
  rw [buildPlannedDomainStates_taskCount fits found, burstTids_split, fiberCount_union]
  · have ledger (tid : Nat) : (DispatchBatchReservations.fromSnapshot topo threads pending
        domainTargets cpuTargets).domainByTid[tid]? = _ := fromSnapshot_domainByTid unique tid
    congr 1
    · -- a known thread is counted where the ledger holds it
      rw [fiberCount_toFinset TreeMap.nodup_keys, ← TreeMap.map_fst_toList_eq_keys, List.countP_map]
      refine List.countP_congr ?_
      rintro ⟨tid, thread⟩ listed
      have stored := TreeMap.mem_toList_iff_getElem?_eq_some.mp listed
      have held := ledger tid
      rw [stored, Option.bind_some] at held
      simp only [Function.comp_apply, decide_eq_true_eq]
      change (DispatchBatchReservations.fromSnapshot topo threads pending domainTargets
        cpuTargets).domainByTid[tid]?.or (threadDomain thread) = some domain ↔ _
      rw [held]
      cases domainTargets[tid]? with
      | some target => simp
      | none =>
          cases (pending.find? (·.key == tid)).bind taskCurrentDomain with
          | some current => simp
          | none => simp
    · -- an unknown task is counted in its own domain
      have keys : ((unknownTasks threads pending).map (·.key)).Nodup :=
        unique.sublist (List.filter_sublist.map _)
      rw [fiberCount_toFinset keys, List.countP_map]
      refine List.countP_congr ?_
      intro task unknown
      obtain ⟨listed, missing⟩ := List.mem_filter.mp unknown
      have absent : threads[task.key]? = none := by simpa [← Bool.not_eq_true] using missing
      have held := ledger task.key
      rw [absent, find?_key unique listed, Option.bind_some, Option.bind_none, Option.or_none] at held
      simp only [Function.comp_apply, decide_eq_true_eq, held]
      cases target : domainTargets[task.key]? with
      | none => simp
      | some target' =>
          have same := agrees task unknown target' target domain bound
          simpa using same.symm
  · refine Finset.disjoint_left.mpr ?_
    intro tid known unknown
    simp only [List.mem_toFinset, TreeMap.mem_keys, List.mem_map] at known unknown
    obtain ⟨task, unknown, rfl⟩ := unknown
    simp [unknownTasks, TreeMap.contains_iff_mem.mpr known] at unknown

end Snapshot

/-! ## Commits -/

/-- The domain a commit takes the task from is the one the ledger counts it in. -/
def CommitAgrees (reservations : DispatchBatchReservations) (task : QueuedTask) : Prop :=
  taskCurrentDomain task = none ∨
    SlotAgrees reservations.domainStates.length reservations.domainByTid[task.key]?
      (taskCurrentDomain task)

private theorem leaveDomain_taskCount (effect : TaskSignatureEffect) (stable : Bool)
    (state : PlannedDomainState) :
    (leaveDomain effect stable state).taskCount = state.taskCount - 1 := by
  unfold leaveDomain
  dsimp only
  split <;> rfl

private theorem enterDomain_taskCount (effect : TaskSignatureEffect) (stable : Bool)
    (state : PlannedDomainState) :
    (enterDomain effect stable state).taskCount = satAdd32 state.taskCount 1 := by
  unfold enterDomain
  dsimp only
  split <;> rfl

theorem migrateStates_length (states : List PlannedDomainState) (sourceDomain : Option Nat)
    (task : QueuedTask) (thread : Option ManagedThreadState) (mapping : MappingInfo)
    (targetDomain : Nat) :
    (migrateStates states sourceDomain task thread mapping targetDomain).length = states.length := by
  unfold migrateStates
  cases sourceDomain with
  | none => simp
  | some source => simp

theorem migrateStates_taskCount {states : List PlannedDomainState} {source : Option Nat}
    {task : QueuedTask} {thread : Option ManagedThreadState} {mapping : MappingInfo}
    {target domain : Nat} {state : PlannedDomainState} (moves : source ≠ some target)
    (found : (migrateStates states source task thread mapping target)[domain]? = some state) :
    ∃ before, states[domain]? = some before ∧
      state.taskCount =
        if target = domain then satAdd32 before.taskCount 1
        else if source = some domain then before.taskCount - 1 else before.taskCount := by
  unfold migrateStates at found
  dsimp only at found
  rw [List.getElem?_modify] at found
  obtain ⟨left, leftFound, rfl⟩ := Option.map_eq_some_iff.mp found
  have before : ∃ before, states[domain]? = some before ∧
      left.taskCount =
        if source = some domain then before.taskCount - 1 else before.taskCount := by
    split at leftFound
    · exact ⟨left, leftFound, by simp⟩
    next origin =>
      rw [List.getElem?_modify] at leftFound
      obtain ⟨before, beforeFound, rfl⟩ := Option.map_eq_some_iff.mp leftFound
      refine ⟨before, beforeFound, ?_⟩
      by_cases here : origin = domain
      · simp [here, leaveDomain_taskCount]
      · simp [here]
  obtain ⟨before, beforeFound, leftCount⟩ := before
  refine ⟨before, beforeFound, ?_⟩
  by_cases here : target = domain
  · have stays : source ≠ some domain := here ▸ moves
    simp [here, enterDomain_taskCount, leftCount, stays]
  · simp [here, leftCount]

section Commit

variable {reservations : DispatchBatchReservations} {tids : Finset Nat} {task : QueuedTask}

private theorem commit_map (reservations : DispatchBatchReservations) (task : QueuedTask)
    (thread : Option ManagedThreadState) (mapping : MappingInfo) (selectedDomain : Nat) :
    (fun tid : Nat => (reservations.commitDomainDecision task thread mapping
      selectedDomain).domainByTid[tid]?) =
      Function.update (fun tid : Nat => reservations.domainByTid[tid]?) task.key
        (some selectedDomain) := by
  funext tid
  unfold DispatchBatchReservations.commitDomainDecision
  by_cases same : task.key = tid
  · subst same
    simp
  · rw [Function.update_of_ne (Ne.symm same)]
    simp [TreeMap.getElem?_insert, same]

theorem commitDomainDecision_length (reservations : DispatchBatchReservations) (task : QueuedTask)
    (thread : Option ManagedThreadState) (mapping : MappingInfo) (selectedDomain : Nat) :
    (reservations.commitDomainDecision task thread mapping selectedDomain).domainStates.length =
      reservations.domainStates.length := by
  unfold DispatchBatchReservations.commitDomainDecision
  dsimp only
  split
  · rfl
  · exact migrateStates_length _ _ _ _ _ _

private theorem migrationSource_iff (agrees : CommitAgrees reservations task) {domain : Nat}
    (bound : domain < reservations.domainStates.length) :
    migrationSource reservations.domainByTid task = some domain ↔
      reservations.domainByTid[task.key]? = some domain := by
  unfold migrationSource
  rcases agrees with unknown | slot
  · simp [unknown]
  · cases current : taskCurrentDomain task with
    | none => simp
    | some home =>
        rw [current] at slot
        simpa using (slot domain bound).symm

theorem commitDomainDecision_countsLedger (counted : reservations.CountsLedger tids)
    (member : task.key ∈ tids) (fits : tids.card ≤ u32Max)
    (agrees : CommitAgrees reservations task) (thread : Option ManagedThreadState)
    (mapping : MappingInfo) (selectedDomain : Nat) :
    (reservations.commitDomainDecision task thread mapping selectedDomain).CountsLedger tids := by
  intro domain state found
  have bound : domain < reservations.domainStates.length := by
    rw [← commitDomainDecision_length reservations task thread mapping selectedDomain]
    exact (List.getElem?_eq_some_iff.mp found).1
  rw [commit_map]
  have moved := fiberCount_update member (fun tid : Nat => reservations.domainByTid[tid]?)
    (some selectedDomain) (some domain)
  have source := migrationSource_iff agrees bound
  simp only [Option.some.injEq] at moved
  unfold DispatchBatchReservations.commitDomainDecision at found
  dsimp only at found
  split at found
  next stays =>
    rw [counted domain state found]
    rw [stays, Option.some.injEq] at source
    simp only [← source] at moved
    omega
  next moves =>
    obtain ⟨before, beforeFound, count⟩ := migrateStates_taskCount moves found
    have old := counted domain before beforeFound
    rw [count]
    by_cases here : selectedDomain = domain
    · have stays : reservations.domainByTid[task.key]? ≠ some domain :=
        fun held => moves (here ▸ source.mpr held)
      have most : fiberCount tids (Function.update (fun tid : Nat => reservations.domainByTid[tid]?)
          task.key (some selectedDomain)) (some domain) ≤ tids.card := Finset.card_filter_le _ _
      simp only [here, stays, if_false, if_true] at moved most ⊢
      rw [satAdd32_of_le (by omega)]
      omega
    · simp only [here, if_false] at moved ⊢
      by_cases leaves : migrationSource reservations.domainByTid task = some domain
      · simp only [source.mp leaves, if_true] at moved
        simp only [leaves, if_true]
        omega
      · have held : reservations.domainByTid[task.key]? ≠ some domain := mt source.mpr leaves
        simp only [held, if_false] at moved
        simp only [leaves, if_false]
        omega

end Commit

/-- The ledgers of one burst: the snapshot, then agreeing commits for tasks of
its queue in any order. -/
inductive CommitRun (topo : TopologyLayout) (threads : ThreadMap) (pending : List QueuedTask)
    (domainTargets cpuTargets : TreeMap Nat Nat) (mapping : MappingInfo) :
    DispatchBatchReservations → Prop where
  | start : CommitRun topo threads pending domainTargets cpuTargets mapping
      (.fromSnapshot topo threads pending domainTargets cpuTargets)
  | commit {reservations : DispatchBatchReservations} {task : QueuedTask}
      (run : CommitRun topo threads pending domainTargets cpuTargets mapping reservations)
      (listed : task ∈ pending) (agrees : CommitAgrees reservations task)
      (thread : Option ManagedThreadState) (selectedDomain : Nat) :
      CommitRun topo threads pending domainTargets cpuTargets mapping
        (reservations.commitDomainDecision task thread mapping selectedDomain)

/-- At every point of a burst the counters equal the numbers of tids in the map,
as long as unknown tasks are planned where they are and every committed task is
taken from the domain the ledger holds for it. -/
theorem commitRun_countsLedger {topo : TopologyLayout} {threads : ThreadMap}
    {pending : List QueuedTask} {domainTargets cpuTargets : TreeMap Nat Nat} {mapping : MappingInfo}
    {reservations : DispatchBatchReservations} (unique : (pending.map (·.key)).Nodup)
    (fits : threads.size + pending.length ≤ u32Max)
    (initial : InitialAgrees topo threads pending domainTargets)
    (run : CommitRun topo threads pending domainTargets cpuTargets mapping reservations) :
    reservations.CountsLedger (burstTids threads pending) := by
  induction run with
  | start => exact fromSnapshot_countsLedger unique fits initial
  | commit _ listed agrees thread selectedDomain counted =>
      refine commitDomainDecision_countsLedger counted ?_ ?_ agrees thread _ selectedDomain
      · exact Finset.mem_union_right _ (List.mem_toFinset.mpr (List.mem_map_of_mem listed))
      · refine (Finset.card_union_le _ _).trans ?_
        have left := List.toFinset_card_le threads.keys
        have right := List.toFinset_card_le (pending.map (·.key))
        rw [TreeMap.length_keys] at left
        rw [List.length_map] at right
        omega

def strandedThreads : ThreadMap := (∅ : ThreadMap).insert 7 strandedThread

theorem commitRun_countsLedger_unplanned :
    ((DispatchBatchReservations.fromSnapshot sampleTopology strandedThreads [strandedTask] ∅
      ∅).commitDomainDecision strandedTask (some strandedThread) sampleMapping 1).CountsLedger
        (burstTids strandedThreads [strandedTask]) :=
  commitRun_countsLedger (by decide) (by decide +kernel)
    (by intro task _ target planned; simp at planned)
    (.commit (.start : CommitRun sampleTopology strandedThreads [strandedTask] ∅ ∅ sampleMapping _)
      List.mem_cons_self (.inr (by decide +kernel)) (some strandedThread) 1)

/-- A thread that the plan moves is counted at its target before it is moved and
once more when it is: the commit takes it from the domain it runs in. -/
theorem commitDomainDecision_counts_planned_twice :
    ¬ ((DispatchBatchReservations.fromSnapshot sampleTopology strandedThreads [strandedTask]
      ((∅ : TreeMap Nat Nat).insert 7 1) ∅).commitDomainDecision strandedTask (some strandedThread)
        sampleMapping 1).CountsLedger (burstTids strandedThreads [strandedTask]) := by
  intro counted
  have counter : ((DispatchBatchReservations.fromSnapshot sampleTopology strandedThreads
      [strandedTask] ((∅ : TreeMap Nat Nat).insert 7 1) ∅).commitDomainDecision strandedTask
      (some strandedThread) sampleMapping 1).domainStates[1]?.map (·.taskCount) = some 2 := by
    decide +kernel
  obtain ⟨state, found, two⟩ := Option.map_eq_some_iff.mp counter
  have one := counted 1 state found
  rw [two] at one
  revert one
  decide +kernel

end CSwitch.Dispatch
