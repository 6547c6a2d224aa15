import CSwitch.Library.KeyedTotals
import CSwitch.Planner.Evaluate

/-! Target CPUs of a plan. Entries are served domain by domain, the most
constrained first, and a repair loop then spreads jobs that share a CPU over
CPUs left idle. -/

set_option autoImplicit false

namespace CSwitch.Planner

open Std (TreeMap TreeSet)
open Policy

abbrev EntryMap := TreeMap Nat PlacementPlanEntry

abbrev CpuLoads := TreeMap Nat (List Nat)

def candidateCpusForPlanTarget (snapshot : PlannerInput) (tid targetDomain : Nat) : TreeSet Nat :=
  match snapshot.allowedCpus[tid]? with
  | none => ∅
  | some allowedCpus =>
      let eligible := cpusInDomain snapshot.topo
        (intersectionWithEligible allowedCpus snapshot.mapping) targetDomain
      if !eligible.isEmpty then eligible else cpusInDomain snapshot.topo allowedCpus targetDomain

def planCpuLoad (cpuLoads : CpuLoads) (cpu : Nat) : Nat :=
  (cpuLoads[cpu]?.map (·.length)).getD 0

def legalPlanCpu (snapshot : PlannerInput) (tid targetDomain : Nat) (cpu : Option Nat) : Option Nat :=
  cpu.filter (candidateCpusForPlanTarget snapshot tid targetDomain).contains

def activeForCpuPlan (snapshot : PlannerInput) (tid : Nat) : Bool :=
  snapshot.pendingTids.contains tid ||
    (snapshot.threads[tid]?.map fun thread =>
      decide (thread.lastSeenNs ≥ snapshot.activeCutoffNs)).getD false

/-- `cpu_loads.entry(cpu).or_default().push(tid)`. -/
def addJob (cpuLoads : CpuLoads) (cpu tid : Nat) : CpuLoads :=
  cpuLoads.insert cpu ((cpuLoads[cpu]?.getD []) ++ [tid])

/-- `tids.retain(|candidate| *candidate != tid)` on the jobs of a CPU. -/
def removeJob (cpuLoads : CpuLoads) (cpu tid : Nat) : CpuLoads :=
  match cpuLoads[cpu]? with
  | none => cpuLoads
  | some jobs => cpuLoads.insert cpu (jobs.filter (· != tid))

/-! ## First assignment -/

def candidatesByTid (snapshot : PlannerInput) (entries : EntryMap) : CpuSetMap :=
  entries.filterMap fun tid entry =>
    let candidates := candidateCpusForPlanTarget snapshot tid entry.targetDomain
    if candidates.isEmpty then none else some candidates

/-- Sort key of one tid: candidate count, then allowed count, then tid. -/
structure OrderKey where
  candidateCount : Nat
  allowedCount : Nat
  tid : Nat

def OrderKey.le (left right : OrderKey) : Prop :=
  toLex (left.candidateCount, toLex (left.allowedCount, left.tid)) ≤
    toLex (right.candidateCount, toLex (right.allowedCount, right.tid))

instance : DecidableRel OrderKey.le := fun _ _ => inferInstanceAs (Decidable (_ ≤ _))

def orderByDomain (snapshot : PlannerInput) (entries : EntryMap) : TreeMap Nat (List OrderKey) :=
  entries.toList.foldl (fun byDomain (tid, entry) =>
    let candidates := candidateCpusForPlanTarget snapshot tid entry.targetDomain
    if candidates.isEmpty then byDomain
    else
      let allowedCount := (snapshot.allowedCpus[tid]?.map (·.size)).getD u64Max
      byDomain.insert entry.targetDomain
        ((byDomain[entry.targetDomain]?.getD []) ++ [⟨candidates.size, allowedCount, tid⟩])) ∅

def assignmentOrder (snapshot : PlannerInput) (entries : EntryMap) : List Nat :=
  (orderByDomain snapshot entries).toList.flatMap fun (_, order) =>
    (order.insertionSort OrderKey.le).map (·.tid)

structure CpuPlan where
  entries : EntryMap
  cpuLoads : CpuLoads := ∅

def selectPlanCpu (snapshot : PlannerInput) (cpuLoads : CpuLoads) (candidates : TreeSet Nat)
    (tid : Nat) : Option Nat :=
  let previousCpu := (snapshot.previousPlan.bind fun plan =>
    plan.entries[tid]?.bind (·.targetCpu)).filter candidates.contains
  let recentCpu := (snapshot.threads[tid]?.bind threadCpu).filter candidates.contains
  let minCandidateLoad := (candidates.toList.map (planCpuLoad cpuLoads)).min?.getD 0
  (previousCpu.or (recentCpu.filter fun cpu =>
      decide (planCpuLoad cpuLoads cpu ≤ minCandidateLoad))).or <|
    candidates.toList.argmin fun cpu => toLex (planCpuLoad cpuLoads cpu, cpu)

def assignTargetCpu (snapshot : PlannerInput) (candidates : CpuSetMap) (plan : CpuPlan)
    (tid : Nat) : CpuPlan :=
  match plan.entries[tid]?, candidates[tid]? with
  | some entry, some cpus =>
      match selectPlanCpu snapshot plan.cpuLoads cpus tid with
      | none => plan
      | some selectedCpu =>
          { entries := plan.entries.insert tid { entry with
              targetCpu := legalPlanCpu snapshot tid entry.targetDomain (some selectedCpu) }
            cpuLoads :=
              if activeForCpuPlan snapshot tid then addJob plan.cpuLoads selectedCpu tid
              else plan.cpuLoads }
  | _, _ => plan

/-! ## Repair -/

structure Repair where
  duplicateCpu : Nat
  idleCpu : Nat
  tid : Nat

def idleCpus (candidates : CpuSetMap) (domain : Nat) (plan : CpuPlan) : TreeSet Nat :=
  TreeSet.ofList (((plan.entries.toList.filter fun entry => entry.2.targetDomain == domain).flatMap
    fun entry => (candidates[entry.1]?.map (·.toList)).getD []).filter fun cpu =>
      planCpuLoad plan.cpuLoads cpu == 0)

def duplicateCpus (snapshot : PlannerInput) (domain : Nat) (plan : CpuPlan) : List Nat :=
  (plan.cpuLoads.toList.filter fun load =>
    decide (load.2.length > 1) && snapshot.topo.domainOfCpu load.1 == some domain).map (·.1)

/-- The tid that the repair would move from a shared CPU to an idle one. -/
def movableTid (snapshot : PlannerInput) (candidates : CpuSetMap) (cpuLoads : CpuLoads)
    (idleCpu duplicateCpu : Nat) : Option Nat :=
  ((cpuLoads[duplicateCpu]?.getD []).filter fun tid =>
      (candidates[tid]?.map (·.contains idleCpu)).getD false).argmin fun tid =>
    let recentCpu := snapshot.threads[tid]?.bind threadCpu
    toLex (recentCpu != some idleCpu, toLex (recentCpu == some duplicateCpu, tid))

def findRepair (snapshot : PlannerInput) (candidates : CpuSetMap) (domain : Nat) (plan : CpuPlan) :
    Option Repair :=
  let duplicates := duplicateCpus snapshot domain plan
  (idleCpus candidates domain plan).toList.findSome? fun idleCpu =>
    duplicates.findSome? fun duplicateCpu =>
      (movableTid snapshot candidates plan.cpuLoads idleCpu duplicateCpu).map fun tid =>
        ⟨duplicateCpu, idleCpu, tid⟩

def CpuPlan.repair (plan : CpuPlan) (move : Repair) : CpuPlan where
  entries :=
    match plan.entries[move.tid]? with
    | none => plan.entries
    | some entry => plan.entries.insert move.tid { entry with targetCpu := some move.idleCpu }
  cpuLoads := addJob (removeJob plan.cpuLoads move.duplicateCpu move.tid) move.idleCpu move.tid

/-- The repair loop of one domain, with a bound on its iterations. -/
def repairLoop (snapshot : PlannerInput) (candidates : CpuSetMap) (domain : Nat) :
    Nat → CpuPlan → CpuPlan
  | 0, plan => plan
  | fuel + 1, plan =>
      match findRepair snapshot candidates domain plan with
      | none => plan
      | some move => repairLoop snapshot candidates domain fuel (plan.repair move)

def surplusJobs (cpuLoads : CpuLoads) : Nat :=
  KeyedTotals.total (fun _ jobs => jobs.length - 1) cpuLoads

/-- The loop of one domain; its bound is never reached, see `repairDomain_done`. -/
def repairDomain (snapshot : PlannerInput) (candidates : CpuSetMap) (plan : CpuPlan)
    (domain : Nat) : CpuPlan :=
  repairLoop snapshot candidates domain (surplusJobs plan.cpuLoads) plan

def repairDuplicatePlanTargetCpus (snapshot : PlannerInput) (candidates : CpuSetMap)
    (plan : CpuPlan) : CpuPlan :=
  (TreeSet.ofList (plan.entries.values.map (·.targetDomain))).toList.foldl
    (repairDomain snapshot candidates) plan

def assignPlanTargetCpus (snapshot : PlannerInput) (entries : EntryMap) : EntryMap :=
  let candidates := candidatesByTid snapshot entries
  let assigned := (assignmentOrder snapshot entries).foldl (assignTargetCpu snapshot candidates)
    { entries }
  (repairDuplicatePlanTargetCpus snapshot candidates assigned).entries

/-! ## The repair loop ends -/

/-- A job on a shared CPU of the domain that an idle candidate CPU can take. -/
structure Movable (snapshot : PlannerInput) (candidates : CpuSetMap) (domain : Nat)
    (plan : CpuPlan) (move : Repair) : Prop where
  idle : planCpuLoad plan.cpuLoads move.idleCpu = 0
  shared : ∃ jobs, plan.cpuLoads[move.duplicateCpu]? = some jobs ∧ 1 < jobs.length ∧ move.tid ∈ jobs
  inDomain : snapshot.topo.domainOfCpu move.duplicateCpu = some domain
  candidate : ∃ cpus, candidates[move.tid]? = some cpus ∧ move.idleCpu ∈ cpus

theorem mem_idleCpus {candidates : CpuSetMap} {domain cpu : Nat} {plan : CpuPlan} :
    cpu ∈ idleCpus candidates domain plan ↔ planCpuLoad plan.cpuLoads cpu = 0 ∧
      ∃ (tid : Nat) (entry : PlacementPlanEntry) (cpus : TreeSet Nat),
        plan.entries[tid]? = some entry ∧ entry.targetDomain = domain ∧
          candidates[tid]? = some cpus ∧ cpu ∈ cpus := by
  unfold idleCpus
  rw [TreeSet.mem_ofList, List.contains_iff_mem, List.mem_filter, List.mem_flatMap, and_comm,
    beq_iff_eq]
  refine and_congr_right fun _ => ?_
  constructor
  · rintro ⟨⟨tid, entry⟩, listed, member⟩
    obtain ⟨stored, targeted⟩ := List.mem_filter.mp listed
    cases found : candidates[tid]? with
    | none => simp [found] at member
    | some cpus =>
        simp only [found, Option.map_some, Option.getD_some, TreeSet.mem_toList] at member
        exact ⟨tid, entry, cpus, TreeMap.mem_toList_iff_getElem?_eq_some.mp stored,
          beq_iff_eq.mp targeted, found, member⟩
  · rintro ⟨tid, entry, cpus, stored, targeted, found, member⟩
    refine ⟨(tid, entry), List.mem_filter.mpr ⟨TreeMap.mem_toList_iff_getElem?_eq_some.mpr stored,
      beq_iff_eq.mpr targeted⟩, ?_⟩
    simp [found, member]

theorem mem_duplicateCpus {snapshot : PlannerInput} {domain cpu : Nat} {plan : CpuPlan} :
    cpu ∈ duplicateCpus snapshot domain plan ↔
      (∃ jobs, plan.cpuLoads[cpu]? = some jobs ∧ 1 < jobs.length) ∧
        snapshot.topo.domainOfCpu cpu = some domain := by
  unfold duplicateCpus
  rw [List.mem_map]
  constructor
  · rintro ⟨⟨_, jobs⟩, listed, rfl⟩
    obtain ⟨stored, shared⟩ := List.mem_filter.mp listed
    simp only [Bool.and_eq_true, decide_eq_true_eq, beq_iff_eq] at shared
    exact ⟨⟨jobs, TreeMap.mem_toList_iff_getElem?_eq_some.mp stored, shared.1⟩, shared.2⟩
  · rintro ⟨⟨jobs, stored, shared⟩, inDomain⟩
    refine ⟨(cpu, jobs), List.mem_filter.mpr
      ⟨TreeMap.mem_toList_iff_getElem?_eq_some.mpr stored, ?_⟩, rfl⟩
    simp [shared, inDomain]

theorem findRepair_spec {snapshot : PlannerInput} {candidates : CpuSetMap} {domain : Nat}
    {plan : CpuPlan} {move : Repair}
    (found : findRepair snapshot candidates domain plan = some move) :
    Movable snapshot candidates domain plan move := by
  unfold findRepair at found
  obtain ⟨idleCpu, idle, found⟩ := List.exists_of_findSome?_eq_some found
  obtain ⟨duplicateCpu, duplicate, found⟩ := List.exists_of_findSome?_eq_some found
  obtain ⟨tid, movable, rfl⟩ := Option.map_eq_some_iff.mp found
  obtain ⟨⟨jobs, stored, shared⟩, inDomain⟩ := mem_duplicateCpus.mp duplicate
  obtain ⟨listed, candidate⟩ := List.mem_filter.mp (List.argmin_mem movable)
  rw [stored, Option.getD_some] at listed
  refine ⟨(mem_idleCpus.mp (TreeSet.mem_toList.mp idle)).1, ⟨jobs, stored, shared, listed⟩,
    inDomain, ?_⟩
  cases cpus : candidates[tid]? with
  | none => simp [cpus] at candidate
  | some set =>
      simp only [cpus, Option.map_some, Option.getD_some] at candidate
      exact ⟨set, rfl, TreeSet.contains_iff_mem.mp candidate⟩

/-- Where no repair is found, no shared CPU of the domain has a job that fits an idle one. -/
theorem not_movable_of_findRepair {snapshot : PlannerInput} {candidates : CpuSetMap} {domain : Nat}
    {plan : CpuPlan} (move : Repair)
    (stuck : findRepair snapshot candidates domain plan = none)
    (offered : move.idleCpu ∈ idleCpus candidates domain plan) :
    ¬ Movable snapshot candidates domain plan move := by
  intro movable
  obtain ⟨jobs, stored, shared, listed⟩ := movable.shared
  obtain ⟨cpus, found, member⟩ := movable.candidate
  unfold findRepair at stuck
  have none := List.findSome?_eq_none_iff.mp (List.findSome?_eq_none_iff.mp stuck move.idleCpu
    (TreeSet.mem_toList.mpr offered)) move.duplicateCpu
      (mem_duplicateCpus.mpr ⟨⟨jobs, stored, shared⟩, movable.inDomain⟩)
  rw [Option.map_eq_none_iff, movableTid, List.argmin_eq_none, List.filter_eq_nil_iff] at none
  refine none move.tid (by rw [stored]; exact listed) ?_
  rw [found]
  exact TreeSet.contains_iff_mem.mpr member

private theorem surplusJobs_removeJob {cpuLoads : CpuLoads} {cpu tid : Nat} {jobs : List Nat}
    (found : cpuLoads[cpu]? = some jobs) (shared : 1 < jobs.length) (listed : tid ∈ jobs) :
    surplusJobs (removeJob cpuLoads cpu tid) < surplusJobs cpuLoads := by
  have fewer : (jobs.filter (· != tid)).length < jobs.length :=
    List.length_filter_lt_length_iff_exists.mpr ⟨tid, listed, by simp⟩
  have exchanged := KeyedTotals.total_insert (fun _ (jobs : List Nat) => jobs.length - 1) cpuLoads cpu
    (jobs.filter (· != tid))
  simp only [KeyedTotals.weightAt, found, Option.map_some, Option.getD_some] at exchanged
  simp only [surplusJobs, removeJob, found]
  omega

private theorem surplusJobs_addJob {cpuLoads : CpuLoads} {cpu tid : Nat}
    (idle : planCpuLoad cpuLoads cpu = 0) :
    surplusJobs (addJob cpuLoads cpu tid) = surplusJobs cpuLoads := by
  have empty : cpuLoads[cpu]?.getD [] = [] := by
    unfold planCpuLoad at idle
    cases found : cpuLoads[cpu]? with
    | none => rfl
    | some jobs => simpa [found] using idle
  have exchanged := KeyedTotals.total_insert (fun _ (jobs : List Nat) => jobs.length - 1) cpuLoads cpu
    (cpuLoads[cpu]?.getD [] ++ [tid])
  have light : KeyedTotals.weightAt (fun _ (jobs : List Nat) => jobs.length - 1) cpuLoads cpu = 0 := by
    unfold KeyedTotals.weightAt
    cases found : cpuLoads[cpu]? with
    | none => rfl
    | some jobs => simp_all
  simp only [surplusJobs, addJob]
  simp only [empty, List.nil_append, List.length_singleton] at exchanged ⊢
  omega

private theorem planCpuLoad_removeJob (cpuLoads : CpuLoads) (cpu tid other : Nat)
    (idle : planCpuLoad cpuLoads other = 0) :
    planCpuLoad (removeJob cpuLoads cpu tid) other = 0 := by
  unfold removeJob
  split
  · exact idle
  next jobs found =>
    unfold planCpuLoad at idle ⊢
    rw [TreeMap.getElem?_insert]
    split
    next same =>
      obtain rfl := compare_eq_iff_eq.mp same
      simp only [found, Option.map_some, Option.getD_some] at idle ⊢
      have := List.length_filter_le (· != tid) jobs
      omega
    · exact idle

theorem surplusJobs_repair {snapshot : PlannerInput} {candidates : CpuSetMap} {domain : Nat}
    {plan : CpuPlan} {move : Repair}
    (found : findRepair snapshot candidates domain plan = some move) :
    surplusJobs (plan.repair move).cpuLoads < surplusJobs plan.cpuLoads := by
  have movable := findRepair_spec found
  obtain ⟨jobs, stored, shared, listed⟩ := movable.shared
  unfold CpuPlan.repair
  rw [surplusJobs_addJob (planCpuLoad_removeJob _ _ _ _ movable.idle)]
  exact surplusJobs_removeJob stored shared listed

theorem repairLoop_done {snapshot : PlannerInput} {candidates : CpuSetMap} {domain : Nat}
    (fuel : Nat) (plan : CpuPlan) (enough : surplusJobs plan.cpuLoads ≤ fuel) :
    findRepair snapshot candidates domain (repairLoop snapshot candidates domain fuel plan) =
      none := by
  induction fuel generalizing plan with
  | zero =>
      cases found : findRepair snapshot candidates domain plan with
      | none => exact found
      | some move =>
          have shrinks := surplusJobs_repair found
          omega
  | succ fuel ih =>
      unfold repairLoop
      split
      next stuck => exact stuck
      next move found =>
        have shrinks := surplusJobs_repair found
        exact ih _ (by omega)

/-- The bounded loop stops where the source's loop does: no repair is left. -/
theorem repairDomain_done (snapshot : PlannerInput) (candidates : CpuSetMap) (plan : CpuPlan)
    (domain : Nat) :
    findRepair snapshot candidates domain (repairDomain snapshot candidates plan domain) = none :=
  repairLoop_done _ plan (Nat.le_refl _)

/-! ## Every planned CPU is a candidate -/

/-- A CPU that a plan may give to a tid in a domain: allowed, in the domain, and
eligible as soon as some allowed CPU of the domain is. -/
structure LegalTargetCpu (snapshot : PlannerInput) (tid targetDomain cpu : Nat) : Prop where
  allowed : ∃ allowedCpus, snapshot.allowedCpus[tid]? = some allowedCpus ∧ cpu ∈ allowedCpus
  inDomain : snapshot.topo.domainOfCpu cpu = some targetDomain
  eligible : (∃ other ∈ snapshot.allowedCpusOf tid, other ∈ snapshot.mapping.eligibleCpus ∧
    snapshot.topo.domainOfCpu other = some targetDomain) → cpu ∈ snapshot.mapping.eligibleCpus

theorem mem_cpusInDomain {topo : TopologyLayout} {cpus : TreeSet Nat} {domain cpu : Nat} :
    cpu ∈ cpusInDomain topo cpus domain ↔ cpu ∈ cpus ∧ topo.domainOfCpu cpu = some domain := by
  simp [cpusInDomain, TreeSet.mem_filter]

theorem mem_intersectionWithEligible {allowedCpus : TreeSet Nat} {mapping : MappingInfo}
    {cpu : Nat} : cpu ∈ intersectionWithEligible allowedCpus mapping ↔
      cpu ∈ allowedCpus ∧ cpu ∈ mapping.eligibleCpus := by
  simp [intersectionWithEligible, TreeSet.mem_filter]

theorem candidateCpusForPlanTarget_legal {snapshot : PlannerInput} {tid targetDomain cpu : Nat}
    (candidate : cpu ∈ candidateCpusForPlanTarget snapshot tid targetDomain) :
    LegalTargetCpu snapshot tid targetDomain cpu := by
  unfold candidateCpusForPlanTarget at candidate
  split at candidate
  · simp at candidate
  next allowedCpus found =>
    dsimp only at candidate
    split at candidate
    · rw [mem_cpusInDomain, mem_intersectionWithEligible] at candidate
      exact ⟨⟨allowedCpus, found, candidate.1.1⟩, candidate.2, fun _ => candidate.1.2⟩
    next empty =>
      rw [mem_cpusInDomain] at candidate
      refine ⟨⟨allowedCpus, found, candidate.1⟩, candidate.2, ?_⟩
      rintro ⟨other, allowed, eligible, inDomain⟩
      have member : other ∈ cpusInDomain snapshot.topo
          (intersectionWithEligible allowedCpus snapshot.mapping) targetDomain := by
        rw [mem_cpusInDomain, mem_intersectionWithEligible]
        simp only [PlannerInput.allowedCpusOf, found, Option.getD_some] at allowed
        exact ⟨⟨allowed, eligible⟩, inDomain⟩
      have isEmpty : (cpusInDomain snapshot.topo
          (intersectionWithEligible allowedCpus snapshot.mapping) targetDomain).isEmpty = true := by
        simpa using empty
      exact absurd member (TreeSet.not_mem_of_isEmpty isEmpty)

def PlacementPlanEntry.withoutCpu (entry : PlacementPlanEntry) : PlacementPlanEntry :=
  { entry with targetCpu := none }

/-- Entries that differ from a first version in target CPUs only, each of them a
candidate of its entry's domain. -/
structure TargetsOf (snapshot : PlannerInput) (before after : EntryMap) : Prop where
  same : ∀ tid : Nat, after[tid]?.map (·.withoutCpu) = before[tid]?.map (·.withoutCpu)
  candidate : ∀ (tid : Nat) entry cpu, after[tid]? = some entry → entry.targetCpu = some cpu →
    cpu ∈ candidateCpusForPlanTarget snapshot tid entry.targetDomain

namespace TargetsOf

variable {snapshot : PlannerInput} {before after : EntryMap}

theorem initial (blank : ∀ (tid : Nat) entry, before[tid]? = some entry → entry.targetCpu = none) :
    TargetsOf snapshot before before where
  same _ := rfl
  candidate tid entry cpu found planned := by simp [blank tid entry found] at planned

theorem targetDomain (targets : TargetsOf snapshot before after) {tid : Nat}
    {entry : PlacementPlanEntry} (found : after[tid]? = some entry) :
    ∃ first, before[tid]? = some first ∧ first.targetDomain = entry.targetDomain := by
  have same := targets.same tid
  rw [found] at same
  cases stored : before[tid]? with
  | none => simp [stored] at same
  | some first =>
      rw [stored] at same
      simp only [Option.map_some, Option.some.injEq, PlacementPlanEntry.withoutCpu,
        PlacementPlanEntry.mk.injEq] at same
      exact ⟨first, rfl, same.1.symm⟩

theorem retarget (targets : TargetsOf snapshot before after) {tid : Nat}
    {entry : PlacementPlanEntry} (found : after[tid]? = some entry) {cpu : Option Nat}
    (legal : ∀ chosen, cpu = some chosen →
      chosen ∈ candidateCpusForPlanTarget snapshot tid entry.targetDomain) :
    TargetsOf snapshot before (after.insert tid { entry with targetCpu := cpu }) where
  same other := by
    rw [← targets.same other, TreeMap.getElem?_insert]
    split
    next equal =>
      obtain rfl := compare_eq_iff_eq.mp equal
      simp [found, PlacementPlanEntry.withoutCpu]
    · rfl
  candidate other stored chosen lookup planned := by
    rw [TreeMap.getElem?_insert] at lookup
    split at lookup
    next equal =>
      obtain rfl := compare_eq_iff_eq.mp equal
      obtain rfl := Option.some.inj lookup
      exact legal chosen planned
    · exact targets.candidate other stored chosen lookup planned

end TargetsOf

section

variable {snapshot : PlannerInput} {entries : EntryMap} {plan : CpuPlan}

theorem assignTargetCpu_targets (candidates : CpuSetMap)
    (targets : TargetsOf snapshot entries plan.entries) (tid : Nat) :
    TargetsOf snapshot entries (assignTargetCpu snapshot candidates plan tid).entries := by
  unfold assignTargetCpu
  split
  next entry cpus found _ =>
    split
    · exact targets
    · refine targets.retarget found ?_
      intro chosen legal
      exact TreeSet.contains_iff_mem.mp (Option.filter_eq_some_iff.mp legal).2
  · exact targets

theorem repair_targets (targets : TargetsOf snapshot entries plan.entries) {domain : Nat}
    {move : Repair}
    (found : findRepair snapshot (candidatesByTid snapshot entries) domain plan = some move) :
    TargetsOf snapshot entries (plan.repair move).entries := by
  obtain ⟨cpus, computed, member⟩ := (findRepair_spec found).candidate
  unfold CpuPlan.repair
  dsimp only
  split
  · exact targets
  next entry stored =>
    refine targets.retarget stored ?_
    intro chosen same
    obtain rfl := Option.some.inj same
    -- the candidate sets were computed from the entries before any CPU was written
    obtain ⟨first, original, sameDomain⟩ := targets.targetDomain stored
    rw [candidatesByTid, TreeMap.getElem?_filterMap', original] at computed
    simp only [Option.bind_some, sameDomain] at computed
    split at computed
    · simp at computed
    · exact Option.some.inj computed ▸ member

theorem repairLoop_targets (domain fuel : Nat) (plan : CpuPlan)
    (targets : TargetsOf snapshot entries plan.entries) :
    TargetsOf snapshot entries
      (repairLoop snapshot (candidatesByTid snapshot entries) domain fuel plan).entries := by
  induction fuel generalizing plan with
  | zero => exact targets
  | succ fuel ih =>
      unfold repairLoop
      split
      · exact targets
      next move found => exact ih _ (repair_targets targets found)

/-- The CPU pass changes target CPUs only and writes candidates only. -/
theorem assignPlanTargetCpus_targets (snapshot : PlannerInput) (entries : EntryMap)
    (blank : ∀ (tid : Nat) entry, entries[tid]? = some entry → entry.targetCpu = none) :
    TargetsOf snapshot entries (assignPlanTargetCpus snapshot entries) := by
  unfold assignPlanTargetCpus repairDuplicatePlanTargetCpus
  dsimp only
  refine List.foldlRecOn _ _
    (motive := fun (plan : CpuPlan) => TargetsOf snapshot entries plan.entries) ?_ ?_
  · refine List.foldlRecOn _ _
      (motive := fun (plan : CpuPlan) => TargetsOf snapshot entries plan.entries) (.initial blank) ?_
    intro plan targets tid _
    exact assignTargetCpu_targets _ targets tid
  · intro plan targets domain _
    exact repairLoop_targets domain _ plan targets

end

end CSwitch.Planner
