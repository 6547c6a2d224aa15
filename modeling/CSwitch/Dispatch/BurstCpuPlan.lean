import CSwitch.Dispatch.AllowedCpu
import CSwitch.Dispatch.CpuLedger

/-! The target CPUs of a burst. A tid gets one exactly when its first pending
task has a domain to run in with an allowed CPU; the chain of alternatives may
refuse every CPU on load, but its last one never does. -/

set_option autoImplicit false

namespace CSwitch.Dispatch

open Std (TreeMap TreeSet)
open Policy Planner Library

variable {view : BurstView} {plannedDomains : TreeMap Nat Nat} {pending : List QueuedTask}

/-! ## The candidates -/

theorem mem_firstByTid {index : Nat} {task : QueuedTask} :
    (index, task) ∈ firstByTid pending ↔
      pending[index]? = some task ∧ ∀ earlier ∈ pending.take index, earlier.key ≠ task.key := by
  unfold firstByTid
  rw [List.mem_filter, List.mem_mapIdx]
  simp [List.getElem?_eq_some_iff]

theorem find?_key_iff {task : QueuedTask} :
    pending.find? (fun other => other.key == task.key) = some task ↔
      ∃ index, (index, task) ∈ firstByTid pending := by
  simp only [mem_firstByTid]
  rw [List.find?_eq_some_iff_append]
  constructor
  · intro ⟨_, before, rest, split, different⟩
    refine ⟨before.length, ?_, ?_⟩
    · simp [split]
    · intro earlier member
      rw [split, List.take_left] at member
      simpa using different earlier member
  · intro ⟨index, found, different⟩
    obtain ⟨bound, rfl⟩ := List.getElem?_eq_some_iff.mp found
    refine ⟨beq_self_eq_true _, pending.take index, pending.drop (index + 1), ?_, ?_⟩
    · rw [← List.drop_eq_getElem_cons bound, List.take_append_drop]
    · intro earlier member
      simpa using different earlier member

/-- Each tid has one first task. -/
theorem firstByTid_pairwise :
    (firstByTid pending).Pairwise fun left right => left.2.key ≠ right.2.key := by
  have ordered : (firstByTid pending).Pairwise fun left right => left.1 < right.1 := by
    apply List.Pairwise.filter
    rw [List.pairwise_iff_getElem]
    intro left right leftBound rightBound less
    simpa using less
  refine ordered.imp_of_mem ?_
  intro left right leftMember rightMember less
  obtain ⟨found, _⟩ := mem_firstByTid.mp leftMember
  obtain ⟨_, different⟩ := mem_firstByTid.mp rightMember
  apply different
  rw [List.mem_iff_getElem?]
  exact ⟨left.1, by rw [List.getElem?_take_of_lt less, found]⟩

/-- The first pending task of a tid has a domain that the tid may be placed in. -/
structure BurstDomain (view : BurstView) (plannedDomains : TreeMap Nat Nat)
    (pending : List QueuedTask) (tid : Nat) (task : QueuedTask) (allowedCpus : TreeSet Nat)
    (domain : Nat) : Prop where
  first : pending.find? (fun other => other.key == tid) = some task
  allowed : view.allowedCpusByTid[tid]? = some allowedCpus
  target : (plannedDomains[tid]?).or (taskCurrentDomain task) = some domain
  legal : domain ∈ allowedDomainsFromCpus allowedCpus view.topo view.mapping ∨
    taskCurrentDomain task = some domain

theorem BurstDomain.key {tid domain : Nat} {task : QueuedTask} {allowedCpus : TreeSet Nat}
    (placed : BurstDomain view plannedDomains pending tid task allowedCpus domain) :
    task.key = tid := by
  simpa using List.find?_some placed.first

/-- The candidate CPUs run out only with the allowed CPUs of the domain. -/
theorem candidateCpus_nonempty_iff {allowedCpus : TreeSet Nat} {targetDomain : Nat}
    {topo : TopologyLayout} {mapping : MappingInfo} :
    (candidateCpusForTargetDomain allowedCpus targetDomain topo mapping).isEmpty = false ↔
      ∃ cpu ∈ allowedCpus, topo.domainOfCpu cpu = some targetDomain := by
  constructor
  · intro nonempty
    obtain ⟨cpu, candidate⟩ := TreeSet.isEmpty_eq_false_iff_exists_mem.mp nonempty
    exact ⟨cpu, mem_of_mem_candidateCpus candidate, candidateCpus_inDomain candidate⟩
  · intro ⟨cpu, allowed, inDomain⟩
    unfold candidateCpusForTargetDomain
    dsimp only
    split
    next eligible => simpa using eligible
    · exact TreeSet.isEmpty_eq_false_iff_exists_mem.mpr
        ⟨cpu, mem_cpusInDomain.mpr ⟨allowed, inDomain⟩⟩

theorem burstCandidate_eq_some_iff {index : Nat} {task : QueuedTask}
    {candidate : BurstCandidate} :
    burstCandidate view plannedDomains index task = some candidate ↔
      ∃ allowedCpus domain, view.allowedCpusByTid[task.key]? = some allowedCpus ∧
        (plannedDomains[task.key]?).or (taskCurrentDomain task) = some domain ∧
        (domain ∈ allowedDomainsFromCpus allowedCpus view.topo view.mapping ∨
          taskCurrentDomain task = some domain) ∧
        (∃ cpu ∈ allowedCpus, view.topo.domainOfCpu cpu = some domain) ∧
        candidate = ⟨(candidateCpusForTargetDomain allowedCpus domain view.topo
          view.mapping).size, allowedCpus.size, index, task, domain, allowedCpus⟩ := by
  unfold burstCandidate
  simp only [Option.bind_eq_bind, Option.bind_eq_some_iff]
  constructor
  · intro ⟨allowedCpus, allowed, domain, target, built⟩
    refine ⟨allowedCpus, domain, allowed, target, ?_⟩
    split at built
    · cases built
    next legal =>
      split at built
      · cases built
      next nonempty =>
        refine ⟨?_, candidateCpus_nonempty_iff.mp (by simpa using nonempty),
          (Option.some.inj built).symm⟩
        simpa [imp_iff_not_or] using legal
  · intro ⟨allowedCpus, domain, allowed, target, legal, inDomain, built⟩
    refine ⟨allowedCpus, allowed, domain, target, ?_⟩
    rw [if_neg, if_neg, built]
    · simp [candidateCpus_nonempty_iff.mpr inDomain]
    · simpa [imp_iff_not_or] using legal

theorem mem_burstCandidates {candidate : BurstCandidate} :
    candidate ∈ burstCandidates view plannedDomains pending ↔
      ∃ entry ∈ firstByTid pending,
        burstCandidate view plannedDomains entry.1 entry.2 = some candidate := by
  unfold burstCandidates
  rw [List.mem_insertionSort, List.mem_filterMap]

theorem burstCandidates_domain {candidate : BurstCandidate}
    (listed : candidate ∈ burstCandidates view plannedDomains pending) :
    BurstDomain view plannedDomains pending candidate.task.key candidate.task
        candidate.allowedCpus candidate.targetDomain ∧
      ∃ cpu ∈ candidate.allowedCpus, view.topo.domainOfCpu cpu = some candidate.targetDomain := by
  obtain ⟨⟨index, task⟩, first, built⟩ := mem_burstCandidates.mp listed
  obtain ⟨allowedCpus, domain, allowed, target, legal, inDomain, rfl⟩ :=
    burstCandidate_eq_some_iff.mp built
  exact ⟨⟨find?_key_iff.mpr ⟨index, first⟩, allowed, target, legal⟩, inDomain⟩

theorem BurstDomain.listed {tid domain : Nat} {task : QueuedTask} {allowedCpus : TreeSet Nat}
    (placed : BurstDomain view plannedDomains pending tid task allowedCpus domain)
    (inDomain : ∃ cpu ∈ allowedCpus, view.topo.domainOfCpu cpu = some domain) :
    ∃ candidate ∈ burstCandidates view plannedDomains pending, candidate.task.key = tid := by
  obtain rfl := placed.key
  obtain ⟨index, first⟩ := find?_key_iff.mp placed.first
  refine ⟨_, mem_burstCandidates.mpr ⟨(index, task), first, burstCandidate_eq_some_iff.mpr
    ⟨allowedCpus, domain, placed.allowed, placed.target, placed.legal, inDomain, rfl⟩⟩, rfl⟩

theorem burstCandidates_pairwise :
    (burstCandidates view plannedDomains pending).Pairwise fun left right =>
      left.task.key ≠ right.task.key := by
  have sorted := List.perm_insertionSort BurstCandidate.le
    ((firstByTid pending).filterMap fun entry =>
      burstCandidate view plannedDomains entry.1 entry.2)
  apply (sorted.pairwise_iff fun {left right} different => different.symm).mpr
  refine firstByTid_pairwise.filterMap _ ?_
  intro left right different leftCandidate leftBuilt rightCandidate rightBuilt
  obtain ⟨_, _, _, _, _, _, rfl⟩ := burstCandidate_eq_some_iff.mp leftBuilt
  obtain ⟨_, _, _, _, _, _, rfl⟩ := burstCandidate_eq_some_iff.mp rightBuilt
  exact different

/-! ## One candidate -/

/-- What is promised of the CPU of a tid: one of its allowed CPUs in its domain,
and its fixed target if that is a candidate there. -/
structure BurstTarget (view : BurstView) (fixedCpuTargets : TreeMap Nat Nat) (tid : Nat)
    (allowedCpus : TreeSet Nat) (domain cpu : Nat) : Prop where
  allowed : cpu ∈ allowedCpus
  inDomain : view.topo.domainOfCpu cpu = some domain
  fixed : ∀ target, fixedCpuTargets[tid]? = some target →
    target ∈ candidateCpusForTargetDomain allowedCpus domain view.topo view.mapping → cpu = target

variable {fixedCpuTargets : TreeMap Nat Nat} {reservations : DispatchBatchReservations}
  {candidate : BurstCandidate}

theorem burstTargetCpu_target {cpu : Nat} (consistent : view.topo.Consistent)
    (chosen : burstTargetCpu view fixedCpuTargets reservations candidate = some cpu) :
    BurstTarget view fixedCpuTargets candidate.task.key candidate.allowedCpus
      candidate.targetDomain cpu := by
  unfold burstTargetCpu at chosen
  dsimp only at chosen
  rcases Option.or_eq_some_iff.mp chosen with fixed | ⟨unfixed, chosen⟩
  · obtain ⟨found, candidateCpu⟩ := Option.filter_eq_some_iff.mp fixed
    have candidateCpu := TreeSet.contains_iff_mem.mp candidateCpu
    constructor
    · exact mem_of_mem_candidateCpus candidateCpu
    · exact candidateCpus_inDomain candidateCpu
    · intro target stored _
      exact Option.some.inj (found.symm.trans stored)
  · have free : ∀ target, fixedCpuTargets[candidate.task.key]? = some target →
        target ∈ candidateCpusForTargetDomain candidate.allowedCpus candidate.targetDomain view.topo
          view.mapping → cpu = target := by
      intro target stored member
      rw [stored, Option.filter_some_pos (TreeSet.contains_iff_mem.mpr member)] at unfixed
      cases unfixed
    rcases Option.or_eq_some_iff.mp chosen with reserved | ⟨_, found⟩
    · obtain ⟨planned, _, reserved⟩ := Option.bind_eq_some_iff.mp reserved
      obtain ⟨allowed, domain, selected, inDomain⟩ := preferredReservedCpu_legal reserved
      obtain rfl := Option.some.inj selected
      exact ⟨allowed, inDomain, free⟩
    · obtain ⟨allowed, inDomain⟩ := mem_cpusInDomain.mp
        (chooseCpuForPlannedDomain_inDomain consistent _ _ cpu found)
      exact ⟨allowed, inDomain, free⟩

/-- A candidate always gets its CPU, whatever was reserved before it. -/
theorem burstTargetCpu_exists (consistent : view.topo.Consistent)
    (reservations : DispatchBatchReservations)
    (inDomain : ∃ cpu ∈ candidate.allowedCpus,
      view.topo.domainOfCpu cpu = some candidate.targetDomain) :
    ∃ cpu, burstTargetCpu view fixedCpuTargets reservations candidate = some cpu := by
  obtain ⟨cpu, allowed, inDomain⟩ := inDomain
  apply Option.isSome_iff_exists.mp
  unfold burstTargetCpu
  dsimp only
  rw [Option.isSome_or, Option.isSome_or, Bool.or_eq_true, Bool.or_eq_true]
  refine .inr (.inr ?_)
  apply chooseCpuForPlannedDomain_isSome
  · exact consistent
  · exact allowed
  · exact inDomain

/-! ## All candidates -/

/-- The targets after some candidates: those have their CPU, and no other tid. -/
structure BurstPlanned (view : BurstView) (fixedCpuTargets : TreeMap Nat Nat)
    (done : List BurstCandidate) (targets : BurstTargets) : Prop where
  only : ∀ tid ∈ targets.targetCpus, ∃ candidate ∈ done, candidate.task.key = tid
  placed : ∀ candidate ∈ done, ∃ cpu, targets.targetCpus[candidate.task.key]? = some cpu ∧
    targets.reservations.cpuByTid[candidate.task.key]? = some cpu ∧
    BurstTarget view fixedCpuTargets candidate.task.key candidate.allowedCpus
      candidate.targetDomain cpu

theorem BurstPlanned.reserve {done : List BurstCandidate} {targets : BurstTargets}
    (planned : BurstPlanned view fixedCpuTargets done targets)
    (consistent : view.topo.Consistent)
    (inDomain : ∃ cpu ∈ candidate.allowedCpus,
      view.topo.domainOfCpu cpu = some candidate.targetDomain)
    (fresh : ∀ earlier ∈ done, earlier.task.key ≠ candidate.task.key) :
    BurstPlanned view fixedCpuTargets (done ++ [candidate])
      (reserveCandidate view fixedCpuTargets targets candidate) := by
  obtain ⟨cpu, chosen⟩ := burstTargetCpu_exists consistent targets.reservations inDomain
  have target := burstTargetCpu_target consistent chosen
  unfold reserveCandidate
  rw [chosen]
  constructor
  · intro tid member
    rcases TreeMap.mem_insert.mp member with same | earlier
    · exact ⟨candidate, by simp, Nat.compare_eq_eq.mp same⟩
    · obtain ⟨other, listed, key⟩ := planned.only tid earlier
      exact ⟨other, List.mem_append_left _ listed, key⟩
  · intro other listed
    change ∃ cpu', (targets.targetCpus.insert candidate.task.key cpu)[other.task.key]? = some cpu' ∧
      (targets.reservations.cpuByTid.insert candidate.task.key cpu)[other.task.key]? = some cpu' ∧ _
    rcases List.mem_append.mp listed with earlier | new
    · obtain ⟨stored, found, reserved, fits⟩ := planned.placed other earlier
      refine ⟨stored, ?_, ?_, fits⟩
      · rw [TreeMap.getElem?_insert, if_neg (by simpa using (fresh other earlier).symm), found]
      · rw [TreeMap.getElem?_insert, if_neg (by simpa using (fresh other earlier).symm), reserved]
    · obtain rfl := List.mem_singleton.mp new
      exact ⟨cpu, TreeMap.getElem?_insert_self, TreeMap.getElem?_insert_self, target⟩

theorem reserveBurstTargetCpus_planned (reservations : DispatchBatchReservations)
    (pending : List QueuedTask) (view : BurstView) (fixedCpuTargets : TreeMap Nat Nat)
    (consistent : view.topo.Consistent) :
    BurstPlanned view fixedCpuTargets (burstCandidates view reservations.domainByTid pending)
      (reservations.reserveBurstTargetCpus pending view fixedCpuTargets) := by
  apply foldl_prefix_invariant (BurstPlanned view fixedCpuTargets)
  · constructor
    · intro tid member
      exact absurd member TreeMap.not_mem_emptyc
    · intro candidate member
      cases member
  · intro done candidate rest targets split planned
    have listed : candidate ∈ burstCandidates view reservations.domainByTid pending := by
      rw [split]
      exact List.mem_append_right done List.mem_cons_self
    have apart : (burstCandidates view reservations.domainByTid pending).Pairwise
        fun left right => left.task.key ≠ right.task.key := burstCandidates_pairwise
    rw [split, List.pairwise_append] at apart
    exact planned.reserve consistent (burstCandidates_domain listed).2 fun earlier member =>
      apart.2.2 earlier member candidate List.mem_cons_self

/-- The target CPUs of a burst, tid by tid. A burst whose CPU lists agree with its
map has each mapped tid on the list of its CPU, and on no other. -/
theorem reserveBurstTargetCpus_plan (reservations : DispatchBatchReservations)
    (pending : List QueuedTask) (view : BurstView) (fixedCpuTargets : TreeMap Nat Nat)
    (consistent : view.topo.Consistent) :
    let after := reservations.reserveBurstTargetCpus pending view fixedCpuTargets
    (∀ tid, tid ∈ after.targetCpus ↔ ∃ task allowedCpus domain,
      BurstDomain view reservations.domainByTid pending tid task allowedCpus domain ∧
        ∃ cpu ∈ allowedCpus, view.topo.domainOfCpu cpu = some domain) ∧
    ∀ tid cpu, after.targetCpus[tid]? = some cpu →
      (∃ task allowedCpus domain,
        BurstDomain view reservations.domainByTid pending tid task allowedCpus domain ∧
          BurstTarget view fixedCpuTargets tid allowedCpus domain cpu) ∧
      after.reservations.cpuByTid[tid]? = some cpu ∧
      ∀ nrCpuIds, reservations.CpusLedger nrCpuIds →
        ∀ (place : Nat) (state : PlannedCpuState),
          after.reservations.cpuStates[place]? = some state →
            state.jobs.Nodup ∧ (tid ∈ state.jobs ↔ place = cpu) := by
  intro after
  have planned := reserveBurstTargetCpus_planned reservations pending view fixedCpuTargets consistent
  constructor
  · intro tid
    constructor
    · intro member
      obtain ⟨candidate, listed, rfl⟩ := planned.only tid member
      exact ⟨_, _, _, burstCandidates_domain listed⟩
    · intro ⟨task, allowedCpus, domain, placed, inDomain⟩
      obtain ⟨candidate, listed, rfl⟩ := placed.listed inDomain
      obtain ⟨cpu, found, _⟩ := planned.placed candidate listed
      exact TreeMap.mem_iff_isSome_getElem?.mpr (Option.isSome_iff_exists.mpr ⟨cpu, found⟩)
  · intro tid cpu found
    have member : tid ∈ after.targetCpus :=
      TreeMap.mem_iff_isSome_getElem?.mpr (Option.isSome_iff_exists.mpr ⟨cpu, found⟩)
    obtain ⟨candidate, listed, rfl⟩ := planned.only tid member
    obtain ⟨stored, same, reserved, target⟩ := planned.placed candidate listed
    obtain rfl := Option.some.inj (found.symm.trans same)
    refine ⟨⟨_, _, _, (burstCandidates_domain listed).1, target⟩, reserved, ?_⟩
    intro nrCpuIds ledger place state here
    have kept : after.reservations.CpusLedger nrCpuIds :=
      reserveBurstTargetCpus_keeps ledger pending view fixedCpuTargets
    have jobs : (cpuJobs after.reservations.cpuStates)[place]? = some state.jobs := by
      rw [cpuJobs, List.getElem?_map, here]
      rfl
    refine ⟨kept.index.distinct jobs, (kept.index.listed jobs).trans ?_⟩
    rw [reserved, Option.some_inj]
    exact eq_comm

def strandedView : BurstView where
  topo := sampleTopology
  mapping := sampleMapping
  cpuStates := []
  cpuUtilsX100 := []
  allowedCpusByTid := (∅ : CpuSetMap).insert 7 (.ofList [1])
  cfg := samplePolicy

def strandedReservations : DispatchBatchReservations :=
  .fromSnapshot sampleTopology ∅ [strandedTask] ((∅ : TreeMap Nat Nat).insert 7 1) ∅

theorem reserveBurstTargetCpus_plan_stranded :
    (strandedReservations.reserveBurstTargetCpus [strandedTask] strandedView ∅).targetCpus[(7 : Nat)]? =
      some 1 := by
  obtain ⟨mapped, promised⟩ := reserveBurstTargetCpus_plan strandedReservations [strandedTask]
    strandedView ∅ sampleTopology_consistent
  have read : strandedView.allowedCpusByTid[(7 : Nat)]? = some (.ofList [1]) :=
    TreeMap.getElem?_insert_self
  have member := (mapped 7).mpr ⟨strandedTask, .ofList [1], 1, ⟨rfl, read, by decide +kernel,
    .inl (by decide +kernel)⟩, 1, by decide, by decide⟩
  obtain ⟨cpu, found⟩ := Option.isSome_iff_exists.mp (TreeMap.mem_iff_isSome_getElem?.mp member)
  obtain ⟨⟨_, allowedCpus, _, placed, target⟩, _⟩ := promised 7 cpu found
  obtain rfl := Option.some.inj (placed.allowed.symm.trans read)
  obtain rfl : 1 = cpu := by simpa using target.allowed
  exact found

end CSwitch.Dispatch
