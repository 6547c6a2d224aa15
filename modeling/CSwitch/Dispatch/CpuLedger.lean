import CSwitch.Dispatch.Reservations
import CSwitch.Library.FoldPrefix
import CSwitch.Library.InverseIndex

/-! The CPU side of the reservation ledger over a whole burst. The job lists of
the CPUs and the map from tids to CPUs are updated by separate helpers; they
stay two views of one relation, whatever is reserved and committed. -/

set_option autoImplicit false

namespace CSwitch.Dispatch

open Std (TreeMap TreeSet)
open Policy Planner Library

/-- A call that the burst makes on its ledger. -/
inductive LedgerCall where
  | reserveBurstTargetCpus (pending : List QueuedTask) (view : BurstView)
      (fixedCpuTargets : TreeMap Nat Nat)
  | commitDomainDecision (task : QueuedTask) (thread : Option ManagedThreadState)
      (mapping : MappingInfo) (selectedDomain : Nat)
  | commitCpuDecision (task : QueuedTask) (selectedCpu : Nat)

def ledgerStep (reservations : DispatchBatchReservations) : LedgerCall → DispatchBatchReservations
  | .reserveBurstTargetCpus pending view fixedCpuTargets =>
      (reservations.reserveBurstTargetCpus pending view fixedCpuTargets).reservations
  | .commitDomainDecision task thread mapping selectedDomain =>
      reservations.commitDomainDecision task thread mapping selectedDomain
  | .commitCpuDecision task selectedCpu => reservations.commitCpuDecision task selectedCpu

def ledgerRun (reservations : DispatchBatchReservations) (calls : List LedgerCall) :
    DispatchBatchReservations :=
  calls.foldl ledgerStep reservations

def cpuJobs (states : List PlannedCpuState) : List (List Nat) := states.map (·.jobs)

/-- The job lists hold, CPU by CPU, the tids that the map reserves there. -/
structure CpuLedger (nrCpuIds : Nat) (cpuStates : List PlannedCpuState)
    (cpuByTid : TreeMap Nat Nat) : Prop where
  length : cpuStates.length = nrCpuIds
  index : InverseIndex (cpuJobs cpuStates) fun tid => cpuByTid[tid]?

/-! ## Job lists -/

private theorem cpuJobs_modify {update : PlannedCpuState → PlannedCpuState}
    (change : List Nat → List Nat) (changes : ∀ state, (update state).jobs = change state.jobs)
    (states : List PlannedCpuState) (cpu : Nat) :
    cpuJobs (states.modify cpu update) = (cpuJobs states).modify cpu change := by
  apply List.ext_getElem?
  intro place
  simp only [cpuJobs, List.getElem?_map, List.getElem?_modify]
  cases states[place]? with
  | none => rfl
  | some state =>
      by_cases here : cpu = place
      · simp [here, changes]
      · simp [here]

/-- `swap_remove` takes the entry out and moves the last one into its place. -/
theorem swapRemove_perm {values : List Nat} {index : Nat} (bound : index < values.length) :
    (swapRemove values index).Perm (values.eraseIdx index) := by
  cases values using List.reverseRecOn with
  | nil => exact absurd bound (Nat.not_lt_zero index)
  | append_singleton init last =>
      rw [List.length_append, List.length_singleton] at bound
      unfold swapRemove
      rw [List.getLast?_concat]
      dsimp only
      rcases Nat.lt_succ_iff_lt_or_eq.mp bound with inner | rfl
      · rw [List.set_append_left _ _ inner, List.dropLast_concat,
          List.eraseIdx_append_of_lt_length inner]
        exact (List.set_perm_cons_eraseIdx inner last).trans (List.perm_append_singleton _ _).symm
      · rw [List.set_append_right _ _ (Nat.le_refl _), Nat.sub_self, List.set_cons_zero,
          List.dropLast_concat, List.eraseIdx_append_of_length_le (Nat.le_refl _), Nat.sub_self]
        simp

/-- What `remove_planned_cpu_job` does to the list of its CPU. -/
def withoutJob (tid : Nat) (jobs : List Nat) : List Nat :=
  match jobs.idxOf? tid with
  | none => jobs
  | some index => swapRemove jobs index

/-- What `add_planned_cpu_job` does to the list of its CPU. -/
def withJob (tid : Nat) (jobs : List Nat) : List Nat :=
  if jobs.contains tid then jobs else jobs ++ [tid]

theorem withoutJob_perm (tid : Nat) (jobs : List Nat) :
    (withoutJob tid jobs).Perm (jobs.erase tid) := by
  unfold withoutJob
  cases found : jobs.idxOf? tid with
  | none =>
      rw [List.idxOf?_eq_none_iff] at found
      rw [List.erase_of_not_mem found]
  | some index =>
      obtain ⟨bound, here, first⟩ := List.idxOf?_eq_some_iff.mp found
      have position : jobs.idxOf tid = index := by
        rw [List.idxOf_eq_getD_idxOf?, found]
        rfl
      rw [List.erase_eq_eraseIdx_of_idxOf position]
      exact swapRemove_perm bound

theorem withJob_perm {tid : Nat} {jobs : List Nat} (absent : tid ∉ jobs) :
    (withJob tid jobs).Perm (tid :: jobs) := by
  rw [withJob, if_neg (by simpa using absent)]
  exact List.perm_append_singleton tid jobs

theorem cpuJobs_removePlannedCpuJob (states : List PlannedCpuState) (cpu tid : Nat) :
    cpuJobs (removePlannedCpuJob states cpu tid) = (cpuJobs states).modify cpu (withoutJob tid) := by
  apply cpuJobs_modify (withoutJob tid)
  intro state
  unfold withoutJob
  cases state.jobs.idxOf? tid with
  | none => rfl
  | some index => rfl

theorem cpuJobs_addPlannedCpuJob (states : List PlannedCpuState) (cpu tid : Nat) :
    cpuJobs (addPlannedCpuJob states cpu tid) = (cpuJobs states).modify cpu (withJob tid) := by
  apply cpuJobs_modify (withJob tid)
  intro state
  unfold withJob
  split
  · rfl
  · rfl

/-! ## One assignment -/

variable {nrCpuIds : Nat} {cpuStates : List PlannedCpuState} {cpuByTid : TreeMap Nat Nat}

/-- The job is taken off the CPU that the map names. A tid the map does not know
is on no list, so nothing is lost when the task's own CPU is searched instead. -/
theorem applyPlannedCpuAssignment_keeps (ledger : CpuLedger nrCpuIds cpuStates cpuByTid)
    (task : QueuedTask) (targetCpu : Nat) :
    CpuLedger nrCpuIds (applyPlannedCpuAssignment cpuStates cpuByTid task targetCpu).1
      (applyPlannedCpuAssignment cpuStates cpuByTid task targetCpu).2 := by
  have off : ∃ removed : List PlannedCpuState, removed.length = nrCpuIds ∧
      InverseIndex (cpuJobs removed) (Function.update (fun tid => cpuByTid[tid]?) task.key none) ∧
      (applyPlannedCpuAssignment cpuStates cpuByTid task targetCpu).1 =
        addPlannedCpuJob removed targetCpu task.key := by
    unfold applyPlannedCpuAssignment
    cases source : (cpuByTid[task.key]?).or (taskCurrentCpu task) with
    | none =>
        have unknown : cpuByTid[task.key]? = none := (Option.or_eq_none_iff.mp source).1
        refine ⟨cpuStates, ledger.length, ?_, rfl⟩
        rw [Function.update_eq_self_iff.mpr unknown.symm]
        exact ledger.index
    | some sourceCpu =>
        refine ⟨removePlannedCpuJob cpuStates sourceCpu task.key, ?_, ?_, rfl⟩
        · rw [removePlannedCpuJob, List.length_modify]
          exact ledger.length
        · rw [cpuJobs_removePlannedCpuJob]
          apply ledger.index.leave fun jobs _ => withoutJob_perm task.key jobs
          intro cpu reserved
          rw [reserved] at source
          exact Option.some.inj source
  obtain ⟨removed, length, index, equal⟩ := off
  constructor
  · rw [equal, addPlannedCpuJob, List.length_modify]
    exact length
  · rw [equal, cpuJobs_addPlannedCpuJob]
    refine (index.enter (Function.update_self _ _ _) fun jobs absent => withJob_perm absent).congr ?_
    intro tid
    rw [Function.update_idem]
    unfold applyPlannedCpuAssignment
    dsimp only
    rw [TreeMap.getElem?_insert, Function.update_apply]
    by_cases same : tid = task.key
    · simp [same]
    · simp [same, Ne.symm same]

/-! ## The initial ledger -/

/-- The lists are filled tid by tid; those filled so far speak for the tids seen. -/
theorem buildPlannedCpuStates_ledger (nrCpuIds : Nat) (plannedCpus : TreeMap Nat Nat) :
    CpuLedger nrCpuIds (buildPlannedCpuStates nrCpuIds plannedCpus) plannedCpus := by
  let seenCpu (done : List (Nat × Nat)) (tid : Nat) : Option Nat :=
    if tid ∈ done.map Prod.fst then plannedCpus[tid]? else none
  have filled : (buildPlannedCpuStates nrCpuIds plannedCpus).length = nrCpuIds ∧
      InverseIndex (cpuJobs (buildPlannedCpuStates nrCpuIds plannedCpus))
        (seenCpu plannedCpus.toList) := by
    apply foldl_prefix_invariant fun done states =>
      states.length = nrCpuIds ∧ InverseIndex (cpuJobs states) (seenCpu done)
    · refine ⟨List.length_replicate, ?_⟩
      rw [cpuJobs, List.map_replicate]
      exact (InverseIndex.empty nrCpuIds).congr fun tid => rfl
    · rintro done ⟨tid, cpu⟩ rest states split ⟨length, index⟩
      have keys : (plannedCpus.toList.map Prod.fst).Nodup := by
        rw [TreeMap.map_fst_toList_eq_keys]
        exact TreeMap.nodup_keys
      rw [split, List.map_append, List.map_cons] at keys
      have fresh : tid ∉ done.map Prod.fst := fun earlier =>
        (List.nodup_append.mp keys).2.2 tid earlier tid List.mem_cons_self rfl
      have stored : plannedCpus[tid]? = some cpu := by
        apply TreeMap.mem_toList_iff_getElem?_eq_some.mp
        rw [split]
        exact List.mem_append_right done List.mem_cons_self
      refine ⟨(List.length_modify _ _ _).trans length, ?_⟩
      rw [cpuJobs_modify (fun jobs => jobs ++ [tid]) fun _ => rfl]
      refine (index.enter (if_neg fresh) fun jobs _ => List.perm_append_singleton tid jobs).congr ?_
      intro other
      rw [Function.update_apply]
      by_cases same : other = tid
      · subst same
        simp [seenCpu, stored]
      · rw [if_neg same]
        have earlier : other ∈ (done ++ [(tid, cpu)]).map Prod.fst ↔ other ∈ done.map Prod.fst := by
          simp [same]
        exact if_congr earlier rfl rfl
  refine ⟨filled.1, filled.2.congr ?_⟩
  intro tid
  by_cases known : tid ∈ plannedCpus.toList.map Prod.fst
  · exact (if_pos known).symm
  · rw [TreeMap.map_fst_toList_eq_keys, TreeMap.mem_keys] at known
    simp [seenCpu, TreeMap.getElem?_eq_none known]

/-! ## A whole burst -/

def DispatchBatchReservations.CpusLedger (reservations : DispatchBatchReservations)
    (nrCpuIds : Nat) : Prop :=
  CpuLedger nrCpuIds reservations.cpuStates reservations.cpuByTid

variable {reservations : DispatchBatchReservations}

theorem commitCpuDecision_keeps (ledger : reservations.CpusLedger nrCpuIds) (task : QueuedTask)
    (selectedCpu : Nat) :
    (reservations.commitCpuDecision task selectedCpu).CpusLedger nrCpuIds :=
  applyPlannedCpuAssignment_keeps ledger task selectedCpu

theorem reserveBurstTargetCpus_keeps (ledger : reservations.CpusLedger nrCpuIds)
    (pending : List QueuedTask) (view : BurstView) (fixedCpuTargets : TreeMap Nat Nat) :
    (reservations.reserveBurstTargetCpus pending view
      fixedCpuTargets).reservations.CpusLedger nrCpuIds := by
  unfold DispatchBatchReservations.reserveBurstTargetCpus
  refine List.foldlRecOn _ _ (motive := fun (targets : BurstTargets) =>
    targets.reservations.CpusLedger nrCpuIds) ledger ?_
  intro targets running candidate _
  unfold reserveCandidate
  cases burstTargetCpu view fixedCpuTargets targets.reservations candidate with
  | none => exact running
  | some cpu => exact commitCpuDecision_keeps running candidate.task cpu

theorem ledgerStep_keeps (ledger : reservations.CpusLedger nrCpuIds) (call : LedgerCall) :
    (ledgerStep reservations call).CpusLedger nrCpuIds := by
  cases call with
  | reserveBurstTargetCpus pending view fixedCpuTargets =>
      exact reserveBurstTargetCpus_keeps ledger pending view fixedCpuTargets
  | commitDomainDecision task thread mapping selectedDomain => exact ledger
  | commitCpuDecision task selectedCpu => exact commitCpuDecision_keeps ledger task selectedCpu

theorem ledgerRun_keeps (ledger : reservations.CpusLedger nrCpuIds) (calls : List LedgerCall) :
    (ledgerRun reservations calls).CpusLedger nrCpuIds := by
  induction calls generalizing reservations with
  | nil => exact ledger
  | cons call rest ih => exact ih (ledgerStep_keeps ledger call)

/-- The jobs of all CPUs together: one for each tid reserved in range. -/
theorem CpuLedger.total (ledger : CpuLedger nrCpuIds cpuStates cpuByTid) :
    (cpuStates.map (·.jobs.length)).sum =
      cpuByTid.toList.countP fun entry => decide (entry.2 < nrCpuIds) := by
  have counted := ledger.index.sum_length (cpuByTid.toList.map Prod.fst)
    (by rw [TreeMap.map_fst_toList_eq_keys]; exact TreeMap.nodup_keys)
    fun {tid cpu} reserved =>
      List.mem_map.mpr ⟨(tid, cpu), TreeMap.mem_toList_iff_getElem?_eq_some.mpr reserved, rfl⟩
  rw [cpuJobs, List.map_map, List.length_map, ledger.length, List.countP_map] at counted
  refine counted.trans (List.countP_congr ?_)
  rintro ⟨tid, cpu⟩ listed
  have stored : cpuByTid[tid]? = some cpu := TreeMap.mem_toList_iff_getElem?_eq_some.mp listed
  simp [stored]

/-- Through a whole burst, from the snapshot on, the job lists of the CPUs and the
map of reserved CPUs say the same. -/
theorem ledgerRun_cpuJobs (topo : TopologyLayout) (threads : ThreadMap)
    (pending : List QueuedTask) (initialDomainTargets initialCpuTargets : TreeMap Nat Nat)
    (calls : List LedgerCall) :
    let ledger := ledgerRun (.fromSnapshot topo threads pending initialDomainTargets
      initialCpuTargets) calls
    ledger.cpuStates.length = topo.nrCpuIds ∧
      (∀ (cpu : Nat) (state : PlannedCpuState), ledger.cpuStates[cpu]? = some state →
        state.jobs.Nodup ∧ ∀ tid, tid ∈ state.jobs ↔ ledger.cpuByTid[tid]? = some cpu) ∧
      (ledger.cpuStates.map (·.jobs.length)).sum =
        (ledger.cpuByTid.toList.countP fun entry => decide (entry.2 < topo.nrCpuIds)) ∧
      ∀ (left right tid : Nat) (leftState rightState : PlannedCpuState),
        ledger.cpuStates[left]? = some leftState → ledger.cpuStates[right]? = some rightState →
        tid ∈ leftState.jobs → tid ∈ rightState.jobs → left = right := by
  intro ledger
  have initial : (DispatchBatchReservations.fromSnapshot topo threads pending
      initialDomainTargets initialCpuTargets).CpusLedger topo.nrCpuIds :=
    buildPlannedCpuStates_ledger topo.nrCpuIds _
  have kept : ledger.CpusLedger topo.nrCpuIds := ledgerRun_keeps initial calls
  have jobsAt : ∀ {cpu : Nat} {state : PlannedCpuState}, ledger.cpuStates[cpu]? = some state →
      (cpuJobs ledger.cpuStates)[cpu]? = some state.jobs := by
    intro cpu state found
    rw [cpuJobs, List.getElem?_map, found]
    rfl
  refine ⟨kept.length, ?_, kept.total, ?_⟩
  · intro cpu state found
    exact ⟨kept.index.distinct (jobsAt found), fun tid => kept.index.listed (jobsAt found)⟩
  · intro left right tid leftState rightState leftFound rightFound onLeft onRight
    exact kept.index.apart (jobsAt leftFound) (jobsAt rightFound) onLeft onRight

end CSwitch.Dispatch
