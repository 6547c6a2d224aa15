import CSwitch.Library.FoldPrefix
import CSwitch.Planner.TargetCpus

/-! The CPUs of a plan after the repair. Every tid with a candidate is served once
and counted where its entry puts it; the loop of a domain moves jobs between the
CPUs of that domain only, so the loops of the others undo nothing. -/

set_option autoImplicit false

namespace CSwitch.Planner

open Library
open Std (TreeMap TreeSet)
open Policy

/-! ## The order of the first assignment -/

section Order

variable {snapshot : PlannerInput} {entries : EntryMap}

/-- Whether the first assignment serves a tid. -/
def served (snapshot : PlannerInput) (entry : Nat × PlacementPlanEntry) : Bool :=
  !(candidateCpusForPlanTarget snapshot entry.1 entry.2.targetDomain).isEmpty

theorem candidatesByTid_eq_some {tid : Nat} {cpus : TreeSet Nat} :
    (candidatesByTid snapshot entries)[tid]? = some cpus ↔
      ∃ entry, entries[tid]? = some entry ∧ served snapshot (tid, entry) = true ∧
        candidateCpusForPlanTarget snapshot tid entry.targetDomain = cpus := by
  rw [candidatesByTid, TreeMap.getElem?_filterMap', Option.bind_eq_some_iff]
  refine exists_congr fun entry => and_congr_right fun _ => ?_
  unfold served
  dsimp only
  cases empty : (candidateCpusForPlanTarget snapshot tid entry.targetDomain).isEmpty with
  | false => simp
  | true => simp

theorem orderByDomain_tids (snapshot : PlannerInput) (entries : EntryMap) (domain : Nat) :
    (((orderByDomain snapshot entries)[domain]?.getD []).map (·.tid)) =
      (entries.toList.filter fun entry => served snapshot entry &&
        entry.2.targetDomain == domain).map (·.1) := by
  unfold orderByDomain
  refine foldl_prefix_invariant (fun done (byDomain : TreeMap Nat (List OrderKey)) =>
    ((byDomain[domain]?.getD []).map (·.tid)) = (done.filter fun entry =>
      served snapshot entry && entry.2.targetDomain == domain).map (·.1)) ?_ ?_
  · simp
  · rintro done ⟨tid, entry⟩ rest byDomain _ running
    rw [List.filter_append, List.map_append, ← running]
    dsimp only
    split
    next empty => simp [served, empty]
    next some =>
      rw [TreeMap.getElem?_insert]
      by_cases here : entry.targetDomain = domain
      · subst here
        simp [served, some]
      · have apart : compare entry.targetDomain domain ≠ .eq := mt compare_eq_iff_eq.mp here
        simp [here, apart]

theorem mem_orderByDomain {domain : Nat} {keys : List OrderKey}
    (stored : (orderByDomain snapshot entries)[domain]? = some keys) {tid : Nat} :
    tid ∈ keys.map (·.tid) ↔ ∃ entry, entries[tid]? = some entry ∧
      served snapshot (tid, entry) = true ∧ entry.targetDomain = domain := by
  have tids := orderByDomain_tids snapshot entries domain
  rw [stored, Option.getD_some] at tids
  rw [tids, List.mem_map]
  constructor
  · rintro ⟨⟨_, entry⟩, listed, rfl⟩
    obtain ⟨found, kept⟩ := List.mem_filter.mp listed
    rw [Bool.and_eq_true, beq_iff_eq] at kept
    exact ⟨entry, TreeMap.mem_toList_iff_getElem?_eq_some.mp found, kept⟩
  · rintro ⟨entry, found, kept, targeted⟩
    refine ⟨(tid, entry), List.mem_filter.mpr
      ⟨TreeMap.mem_toList_iff_getElem?_eq_some.mpr found, ?_⟩, rfl⟩
    rw [Bool.and_eq_true, beq_iff_eq]
    exact ⟨kept, targeted⟩

theorem mem_assignmentOrder {tid : Nat} : tid ∈ assignmentOrder snapshot entries ↔
    ((candidatesByTid snapshot entries)[tid]?).isSome = true := by
  have sorted : ∀ keys : List OrderKey, tid ∈ (keys.insertionSort OrderKey.le).map (·.tid) ↔
      tid ∈ keys.map (·.tid) := fun keys =>
    ((List.perm_insertionSort _ keys).map _).mem_iff
  unfold assignmentOrder
  rw [List.mem_flatMap, Option.isSome_iff_exists]
  constructor
  · rintro ⟨⟨domain, keys⟩, listed, member⟩
    obtain ⟨entry, found, kept, _⟩ := (mem_orderByDomain
      (TreeMap.mem_toList_iff_getElem?_eq_some.mp listed)).mp ((sorted keys).mp member)
    exact ⟨_, candidatesByTid_eq_some.mpr ⟨entry, found, kept, rfl⟩⟩
  · rintro ⟨cpus, computed⟩
    obtain ⟨entry, found, kept, _⟩ := candidatesByTid_eq_some.mp computed
    have listed : tid ∈ (((orderByDomain snapshot entries)[entry.targetDomain]?.getD []).map
        (·.tid)) := by
      rw [orderByDomain_tids, List.mem_map]
      refine ⟨(tid, entry), List.mem_filter.mpr
        ⟨TreeMap.mem_toList_iff_getElem?_eq_some.mpr found, ?_⟩, rfl⟩
      simp [kept]
    cases stored : (orderByDomain snapshot entries)[entry.targetDomain]? with
    | none => simp [stored] at listed
    | some keys =>
        rw [stored, Option.getD_some] at listed
        exact ⟨(entry.targetDomain, keys), TreeMap.mem_toList_iff_getElem?_eq_some.mpr stored,
          (sorted keys).mpr listed⟩

theorem nodup_assignmentOrder (snapshot : PlannerInput) (entries : EntryMap) :
    (assignmentOrder snapshot entries).Nodup := by
  have sorted : ∀ keys : List OrderKey, ((keys.insertionSort OrderKey.le).map (·.tid)).Perm
      (keys.map (·.tid)) := fun keys => (List.perm_insertionSort _ keys).map _
  unfold assignmentOrder
  rw [List.nodup_flatMap]
  constructor
  · rintro ⟨domain, keys⟩ listed
    have tids := orderByDomain_tids snapshot entries domain
    rw [TreeMap.mem_toList_iff_getElem?_eq_some.mp listed, Option.getD_some] at tids
    rw [(sorted keys).nodup_iff, tids]
    have distinct : (entries.toList.map Prod.fst).Nodup := by
      rw [TreeMap.map_fst_toList_eq_keys]
      exact TreeMap.nodup_keys
    exact distinct.sublist (List.filter_sublist.map _)
  · refine (List.Pairwise.and_mem.mp TreeMap.distinct_keys_toList).imp ?_
    rintro ⟨left, leftKeys⟩ ⟨right, rightKeys⟩ ⟨leftListed, rightListed, apart⟩ tid onLeft onRight
    obtain ⟨entry, found, _, rfl⟩ := (mem_orderByDomain
      (TreeMap.mem_toList_iff_getElem?_eq_some.mp leftListed)).mp ((sorted _).mem_iff.mp onLeft)
    obtain ⟨other, again, _, rfl⟩ := (mem_orderByDomain
      (TreeMap.mem_toList_iff_getElem?_eq_some.mp rightListed)).mp ((sorted _).mem_iff.mp onRight)
    obtain rfl := Option.some.inj (found.symm.trans again)
    exact apart (compare_eq_iff_eq.mpr rfl)

end Order

/-! ## Where the jobs are -/

/-- The jobs counted on a CPU. -/
def jobsOn (cpuLoads : CpuLoads) (cpu : Nat) : List Nat := cpuLoads[cpu]?.getD []

/-- The CPU that the entry of a tid names. -/
def CpuPlan.cpuOf (plan : CpuPlan) (tid : Nat) : Option Nat := plan.entries[tid]?.bind (·.targetCpu)

theorem planCpuLoad_eq (cpuLoads : CpuLoads) (cpu : Nat) :
    planCpuLoad cpuLoads cpu = (jobsOn cpuLoads cpu).length := by
  unfold planCpuLoad jobsOn
  cases cpuLoads[cpu]? <;> rfl

theorem jobsOn_addJob (cpuLoads : CpuLoads) (cpu tid other : Nat) :
    jobsOn (addJob cpuLoads cpu tid) other =
      if other = cpu then jobsOn cpuLoads cpu ++ [tid] else jobsOn cpuLoads other := by
  unfold jobsOn addJob
  rw [TreeMap.getElem?_insert]
  by_cases here : other = cpu
  · simp [here]
  · simp [here, Ne.symm here]

theorem jobsOn_removeJob (cpuLoads : CpuLoads) (cpu tid other : Nat) :
    jobsOn (removeJob cpuLoads cpu tid) other =
      if other = cpu then (jobsOn cpuLoads cpu).filter (· != tid) else jobsOn cpuLoads other := by
  unfold removeJob jobsOn
  cases found : cpuLoads[cpu]? with
  | none =>
      by_cases here : other = cpu
      · simp [here, found]
      · simp [here]
  | some jobs =>
      dsimp only
      rw [TreeMap.getElem?_insert]
      by_cases here : other = cpu
      · simp [here]
      · simp [here, Ne.symm here]

/-- The tids served so far are counted, once each, on the CPUs that their entries name,
as far as they are active; the entries of the others are as they came. -/
structure CpuCounted (snapshot : PlannerInput) (entries : EntryMap) (done : List Nat)
    (plan : CpuPlan) : Prop where
  distinct : ∀ cpu, (jobsOn plan.cpuLoads cpu).Nodup
  counted : ∀ cpu tid, tid ∈ jobsOn plan.cpuLoads cpu ↔
    tid ∈ done ∧ activeForCpuPlan snapshot tid = true ∧ plan.cpuOf tid = some cpu
  given : ∀ tid ∈ done, ∃ entry cpu, entries[tid]? = some entry ∧
    cpu ∈ candidateCpusForPlanTarget snapshot tid entry.targetDomain ∧
      plan.entries[tid]? = some { entry with targetCpu := some cpu }
  others : ∀ tid ∉ done, plan.entries[tid]? = entries[tid]?

section Counted

variable {snapshot : PlannerInput} {entries : EntryMap} {done : List Nat} {plan : CpuPlan}

/-- One tid is put on a candidate CPU, and the jobs of the others stay. -/
theorem CpuCounted.place (running : CpuCounted snapshot entries done plan) {next : List Nat}
    {after : CpuPlan} {tid cpu : Nat} {entry : PlacementPlanEntry}
    (original : entries[tid]? = some entry)
    (candidate : cpu ∈ candidateCpusForPlanTarget snapshot tid entry.targetDomain)
    (serves : ∀ other, other ∈ next ↔ other = tid ∨ other ∈ done)
    (written : after.entries = plan.entries.insert tid { entry with targetCpu := some cpu })
    (distinct : ∀ place, (jobsOn after.cpuLoads place).Nodup)
    (own : ∀ place, tid ∈ jobsOn after.cpuLoads place ↔
      activeForCpuPlan snapshot tid = true ∧ place = cpu)
    (others : ∀ place other, other ≠ tid →
      (other ∈ jobsOn after.cpuLoads place ↔ other ∈ jobsOn plan.cpuLoads place)) :
    CpuCounted snapshot entries next after := by
  have here : after.entries[tid]? = some { entry with targetCpu := some cpu } := by
    rw [written, TreeMap.getElem?_insert_self]
  have kept : ∀ other, other ≠ tid → after.entries[other]? = plan.entries[other]? := by
    intro other apart
    rw [written, TreeMap.getElem?_insert, if_neg (mt compare_eq_iff_eq.mp apart.symm)]
  constructor
  · exact distinct
  · intro place other
    by_cases same : other = tid
    · subst same
      rw [own, serves, CpuPlan.cpuOf, here, Option.bind_some, Option.some.injEq]
      simp only [true_or, true_and]
      exact and_congr_right fun _ => eq_comm
    · rw [others place other same, running.counted, serves, or_iff_right same, CpuPlan.cpuOf,
        CpuPlan.cpuOf, kept other same]
  · intro other member
    by_cases same : other = tid
    · subst same
      exact ⟨entry, cpu, original, candidate, here⟩
    · rw [kept other same]
      exact running.given other (((serves other).mp member).resolve_left same)
  · intro other absent
    have apart : other ≠ tid ∧ other ∉ done := not_or.mp (mt (serves other).mpr absent)
    rw [kept other apart.1]
    exact running.others other apart.2

theorem selectPlanCpu_mem {cpuLoads : CpuLoads} {candidates : TreeSet Nat} {tid cpu : Nat}
    (selected : selectPlanCpu snapshot cpuLoads candidates tid = some cpu) : cpu ∈ candidates := by
  unfold selectPlanCpu at selected
  dsimp only at selected
  rcases Option.or_eq_some_iff.mp selected with early | ⟨_, least⟩
  · rcases Option.or_eq_some_iff.mp early with previous | ⟨_, recent⟩
    · exact TreeSet.contains_iff_mem.mp (Option.filter_eq_some_iff.mp previous).2
    · exact TreeSet.contains_iff_mem.mp
        (Option.filter_eq_some_iff.mp (Option.filter_eq_some_iff.mp recent).1).2
  · exact TreeSet.mem_toList.mp (List.argmin_mem least)

theorem selectPlanCpu_isSome (snapshot : PlannerInput) (cpuLoads : CpuLoads)
    {candidates : TreeSet Nat} (tid : Nat) (some : candidates.isEmpty = false) :
    ∃ cpu, selectPlanCpu snapshot cpuLoads candidates tid = .some cpu := by
  rw [← Option.isSome_iff_exists, Option.isSome_iff_ne_none]
  intro none
  have least := (Option.or_eq_none_iff.mp none).2
  rw [List.argmin_eq_none] at least
  have empty : candidates.isEmpty = true := by
    rw [TreeSet.isEmpty_eq_size_eq_zero, ← TreeSet.length_toList, least]
    rfl
  rw [some] at empty
  cases empty

theorem CpuCounted.assignTargetCpu (running : CpuCounted snapshot entries done plan) {tid : Nat}
    (fresh : tid ∉ done) (listed : ((candidatesByTid snapshot entries)[tid]?).isSome = true) :
    CpuCounted snapshot entries (done ++ [tid])
      (assignTargetCpu snapshot (candidatesByTid snapshot entries) plan tid) := by
  obtain ⟨cpus, computed⟩ := Option.isSome_iff_exists.mp listed
  obtain ⟨entry, original, kept, rfl⟩ := candidatesByTid_eq_some.mp computed
  obtain ⟨cpu, selected⟩ := selectPlanCpu_isSome snapshot plan.cpuLoads tid
    (by simpa [served] using kept)
  have candidate := selectPlanCpu_mem selected
  have legal : legalPlanCpu snapshot tid entry.targetDomain (some cpu) = some cpu :=
    Option.filter_eq_some_iff.mpr ⟨rfl, TreeSet.contains_iff_mem.mpr candidate⟩
  have absent : ∀ place, tid ∉ jobsOn plan.cpuLoads place := fun place member =>
    fresh ((running.counted place tid).mp member).1
  unfold CSwitch.Planner.assignTargetCpu
  rw [running.others tid fresh, original, computed]
  dsimp only
  rw [selected]
  dsimp only
  rw [legal]
  refine running.place original candidate ?_ rfl ?_ ?_ ?_
  · intro other
    rw [List.mem_append, List.mem_singleton, or_comm]
  · intro place
    dsimp only
    split
    · rw [jobsOn_addJob]
      split
      next here =>
        refine List.Nodup.append (running.distinct _) (List.nodup_singleton tid) ?_
        intro other member last
        obtain rfl := List.mem_singleton.mp last
        exact absent _ member
      · exact running.distinct place
    · exact running.distinct place
  · intro place
    dsimp only
    cases active : activeForCpuPlan snapshot tid with
    | false => simp [absent place]
    | true =>
        rw [if_pos rfl, jobsOn_addJob]
        by_cases here : place = cpu
        · simp [here]
        · simp [here, absent place]
  · intro place other apart
    dsimp only
    split
    · rw [jobsOn_addJob]
      by_cases here : place = cpu
      · simp [here, apart]
      · simp [here]
    · rfl

/-- A job of a shared CPU has been served, and its candidates lie in the CPU's domain. -/
theorem CpuCounted.sharedJob (running : CpuCounted snapshot entries done plan) {cpu tid domain : Nat}
    (listed : tid ∈ jobsOn plan.cpuLoads cpu) (inDomain : snapshot.topo.domainOfCpu cpu = some domain) :
    tid ∈ done ∧ activeForCpuPlan snapshot tid = true ∧ ∃ entry, entries[tid]? = some entry ∧
      entry.targetDomain = domain ∧ plan.entries[tid]? = some { entry with targetCpu := some cpu } := by
  obtain ⟨here, active, named⟩ := (running.counted cpu tid).mp listed
  obtain ⟨entry, other, original, candidate, written⟩ := running.given tid here
  rw [CpuPlan.cpuOf, written] at named
  obtain rfl := Option.some.inj named
  refine ⟨here, active, entry, original, ?_, written⟩
  have placed := (candidateCpusForPlanTarget_legal candidate).inDomain
  exact Option.some.inj (placed.symm.trans inDomain)

/-- What a repair moves: a served, active job of the domain, to one of its candidates. -/
structure MovedJob (snapshot : PlannerInput) (entries : EntryMap) (done : List Nat) (plan : CpuPlan)
    (domain : Nat) (move : Repair) (entry : PlacementPlanEntry) : Prop where
  served : move.tid ∈ done
  active : activeForCpuPlan snapshot move.tid = true
  original : entries[move.tid]? = some entry
  targeted : entry.targetDomain = domain
  written : plan.entries[move.tid]? = some { entry with targetCpu := some move.duplicateCpu }
  member : move.idleCpu ∈ candidateCpusForPlanTarget snapshot move.tid entry.targetDomain

theorem CpuCounted.movedJob (running : CpuCounted snapshot entries done plan) {domain : Nat}
    {move : Repair}
    (found : findRepair snapshot (candidatesByTid snapshot entries) domain plan = some move) :
    ∃ entry, MovedJob snapshot entries done plan domain move entry := by
  have movable := findRepair_spec found
  obtain ⟨jobs, stored, _, listed⟩ := movable.shared
  have onShared : move.tid ∈ jobsOn plan.cpuLoads move.duplicateCpu := by
    rw [jobsOn, stored]
    exact listed
  obtain ⟨here, active, entry, original, targeted, written⟩ :=
    running.sharedJob onShared movable.inDomain
  obtain ⟨cpus, computed, member⟩ := movable.candidate
  obtain ⟨first, same, _, rfl⟩ := candidatesByTid_eq_some.mp computed
  obtain rfl := Option.some.inj (original.symm.trans same)
  exact ⟨entry, here, active, original, targeted, written, member⟩

theorem CpuCounted.repair (running : CpuCounted snapshot entries done plan) {domain : Nat}
    {move : Repair}
    (found : findRepair snapshot (candidatesByTid snapshot entries) domain plan = some move) :
    CpuCounted snapshot entries done (plan.repair move) := by
  obtain ⟨entry, job⟩ := running.movedJob found
  have only : ∀ place, move.tid ∈ jobsOn plan.cpuLoads place ↔ place = move.duplicateCpu := by
    intro place
    rw [running.counted, CpuPlan.cpuOf, job.written, Option.bind_some, Option.some.injEq]
    exact ⟨fun all => all.2.2.symm, fun equal => ⟨job.served, job.active, equal.symm⟩⟩
  have idle : jobsOn plan.cpuLoads move.idleCpu = [] := by
    have none := (findRepair_spec found).idle
    rw [planCpuLoad_eq] at none
    exact List.eq_nil_of_length_eq_zero none
  have apart : move.idleCpu ≠ move.duplicateCpu := by
    intro equal
    have member := (only move.idleCpu).mpr equal
    rw [idle] at member
    cases member
  have loads : ∀ place, jobsOn (plan.repair move).cpuLoads place =
      if place = move.idleCpu then [move.tid]
      else if place = move.duplicateCpu then
        (jobsOn plan.cpuLoads move.duplicateCpu).filter (· != move.tid)
      else jobsOn plan.cpuLoads place := by
    intro place
    unfold CpuPlan.repair
    dsimp only
    rw [jobsOn_addJob, jobsOn_removeJob, jobsOn_removeJob, if_neg apart, idle, List.nil_append]
  refine running.place job.original job.member ?_ ?_ ?_ ?_ ?_
  · intro other
    rw [or_iff_right_of_imp]
    rintro rfl
    exact job.served
  · unfold CpuPlan.repair
    rw [job.written]
  · intro place
    rw [loads]
    split
    · exact List.nodup_singleton _
    · split
      · exact (running.distinct _).filter _
      · exact running.distinct place
  · intro place
    rw [loads]
    split
    next equal => simp [job.active, equal]
    next other =>
      refine iff_of_false ?_ fun all => other all.2
      split
      · simp
      next elsewhere => exact mt (only place).mp elsewhere
  · intro place other different
    rw [loads]
    split
    next equal =>
      rw [equal, idle]
      simp [different]
    · split
      next equal =>
        rw [equal]
        simp [different]
      · rfl

/-! ## The loop of a domain -/

/-- No shared CPU of the domain has a job that fits an idle CPU. -/
def DomainSpread (snapshot : PlannerInput) (entries : EntryMap) (domain : Nat) (plan : CpuPlan) :
    Prop :=
  ∀ cpu idle tid cpus, snapshot.topo.domainOfCpu cpu = some domain →
    1 < (jobsOn plan.cpuLoads cpu).length → tid ∈ jobsOn plan.cpuLoads cpu →
    (candidatesByTid snapshot entries)[tid]? = some cpus → idle ∈ cpus →
    jobsOn plan.cpuLoads idle ≠ []

theorem CpuCounted.spread (running : CpuCounted snapshot entries done plan) {domain : Nat}
    (stuck : findRepair snapshot (candidatesByTid snapshot entries) domain plan = none) :
    DomainSpread snapshot entries domain plan := by
  intro cpu idle tid cpus inDomain shared listed computed member empty
  obtain ⟨_, _, entry, _, targeted, written⟩ := running.sharedJob listed inDomain
  have load : planCpuLoad plan.cpuLoads idle = 0 := by
    rw [planCpuLoad_eq, empty]
    rfl
  have stored : plan.cpuLoads[cpu]? = some (jobsOn plan.cpuLoads cpu) := by
    unfold jobsOn at shared ⊢
    cases found : plan.cpuLoads[cpu]? with
    | none => simp [found] at shared
    | some jobs => rfl
  exact not_movable_of_findRepair ⟨cpu, idle, tid⟩ stuck
    (mem_idleCpus.mpr ⟨load, tid, _, cpus, written, targeted, computed, member⟩)
    ⟨load, ⟨_, stored, shared, listed⟩, inDomain, cpus, computed, member⟩

/-- A repair in a domain leaves the CPUs of the others alone. -/
theorem CpuCounted.repair_frame (running : CpuCounted snapshot entries done plan) {domain cpu : Nat}
    {move : Repair}
    (found : findRepair snapshot (candidatesByTid snapshot entries) domain plan = some move)
    (outside : snapshot.topo.domainOfCpu cpu ≠ some domain) :
    jobsOn (plan.repair move).cpuLoads cpu = jobsOn plan.cpuLoads cpu := by
  obtain ⟨entry, job⟩ := running.movedJob found
  have idleIn := (candidateCpusForPlanTarget_legal job.member).inDomain
  rw [job.targeted] at idleIn
  have notIdle : cpu ≠ move.idleCpu := by
    rintro rfl
    exact outside idleIn
  have notShared : cpu ≠ move.duplicateCpu := by
    rintro rfl
    exact outside (findRepair_spec found).inDomain
  unfold CpuPlan.repair
  dsimp only
  rw [jobsOn_addJob, if_neg notIdle, jobsOn_removeJob, if_neg notShared]

theorem CpuCounted.repairLoop (running : CpuCounted snapshot entries done plan) (domain fuel : Nat) :
    CpuCounted snapshot entries done
        (repairLoop snapshot (candidatesByTid snapshot entries) domain fuel plan) ∧
      ∀ cpu, snapshot.topo.domainOfCpu cpu ≠ some domain →
        jobsOn (CSwitch.Planner.repairLoop snapshot (candidatesByTid snapshot entries) domain fuel
          plan).cpuLoads cpu = jobsOn plan.cpuLoads cpu := by
  induction fuel generalizing plan with
  | zero => exact ⟨running, fun _ _ => rfl⟩
  | succ fuel ih =>
      unfold CSwitch.Planner.repairLoop
      cases found : findRepair snapshot (candidatesByTid snapshot entries) domain plan with
      | none => exact ⟨running, fun _ _ => rfl⟩
      | some move =>
          obtain ⟨counted, frame⟩ := ih (running.repair found)
          refine ⟨counted, fun cpu outside => ?_⟩
          rw [frame cpu outside]
          exact running.repair_frame found outside

/-- A domain stays spread as long as the jobs on its CPUs stay. -/
theorem DomainSpread.congr {after : CpuPlan} {domain : Nat}
    (running : CpuCounted snapshot entries done after)
    (spread : DomainSpread snapshot entries domain plan)
    (same : ∀ cpu, snapshot.topo.domainOfCpu cpu = some domain →
      jobsOn after.cpuLoads cpu = jobsOn plan.cpuLoads cpu) :
    DomainSpread snapshot entries domain after := by
  intro cpu idle tid cpus inDomain shared listed computed member
  obtain ⟨_, _, entry, original, targeted, _⟩ := running.sharedJob listed inDomain
  obtain ⟨first, again, _, rfl⟩ := candidatesByTid_eq_some.mp computed
  obtain rfl := Option.some.inj (original.symm.trans again)
  have idleIn := (candidateCpusForPlanTarget_legal member).inDomain
  rw [targeted] at idleIn
  rw [same cpu inDomain] at shared listed
  rw [same idle idleIn]
  exact spread cpu idle tid _ inDomain shared listed computed member

end Counted

/-! ## The whole pass -/

/-- The entries and the CPU loads at the end of `assign_plan_target_cpus`. -/
def repairedCpuPlan (snapshot : PlannerInput) (entries : EntryMap) : CpuPlan :=
  repairDuplicatePlanTargetCpus snapshot (candidatesByTid snapshot entries)
    ((assignmentOrder snapshot entries).foldl
      (assignTargetCpu snapshot (candidatesByTid snapshot entries)) { entries })

theorem assignPlanTargetCpus_eq (snapshot : PlannerInput) (entries : EntryMap) :
    assignPlanTargetCpus snapshot entries = (repairedCpuPlan snapshot entries).entries := rfl

section Pass

variable (snapshot : PlannerInput) (entries : EntryMap)

theorem assignedCpuPlan_counted : CpuCounted snapshot entries (assignmentOrder snapshot entries)
    ((assignmentOrder snapshot entries).foldl
      (assignTargetCpu snapshot (candidatesByTid snapshot entries)) { entries }) := by
  refine foldl_prefix_invariant (CpuCounted snapshot entries) ?_ ?_
  · constructor
    · intro cpu
      simp [jobsOn]
    · intro cpu tid
      simp [jobsOn]
    · intro tid member
      cases member
    · intro tid _
      rfl
  · intro done tid rest plan split running
    have unique := nodup_assignmentOrder snapshot entries
    rw [split] at unique
    refine running.assignTargetCpu ?_ (mem_assignmentOrder.mp ?_)
    · exact fun earlier => List.disjoint_of_nodup_append unique earlier List.mem_cons_self
    · rw [split]
      exact List.mem_append_right _ List.mem_cons_self

theorem repairedCpuPlan_counted :
    CpuCounted snapshot entries (assignmentOrder snapshot entries)
        (repairedCpuPlan snapshot entries) ∧
      ∀ tid entry, entries[tid]? = some entry → served snapshot (tid, entry) = true →
        DomainSpread snapshot entries entry.targetDomain (repairedCpuPlan snapshot entries) := by
  have assigned := assignedCpuPlan_counted snapshot entries
  unfold repairedCpuPlan repairDuplicatePlanTargetCpus
  generalize (assignmentOrder snapshot entries).foldl
    (assignTargetCpu snapshot (candidatesByTid snapshot entries)) { entries } = plan at assigned
  -- each loop spreads its own domain and keeps those before it
  have loops : CpuCounted snapshot entries (assignmentOrder snapshot entries)
      ((TreeSet.ofList (plan.entries.values.map (·.targetDomain))).toList.foldl
        (repairDomain snapshot (candidatesByTid snapshot entries)) plan) ∧
      ∀ domain ∈ (TreeSet.ofList (plan.entries.values.map (·.targetDomain))).toList,
        DomainSpread snapshot entries domain
          ((TreeSet.ofList (plan.entries.values.map (·.targetDomain))).toList.foldl
            (repairDomain snapshot (candidatesByTid snapshot entries)) plan) := by
    refine foldl_prefix_invariant (fun done (state : CpuPlan) =>
      CpuCounted snapshot entries (assignmentOrder snapshot entries) state ∧
        ∀ domain ∈ done, DomainSpread snapshot entries domain state) ⟨assigned, by simp⟩ ?_
    rintro done domain rest state _ ⟨running, spread⟩
    obtain ⟨counted, frame⟩ := running.repairLoop domain (surplusJobs state.cpuLoads)
    refine ⟨counted, ?_⟩
    intro other member
    by_cases same : other = domain
    · subst same
      exact counted.spread (repairDomain_done snapshot _ state other)
    · have earlier : other ∈ done := by simpa [same] using member
      refine (spread other earlier).congr counted ?_
      intro cpu inDomain
      refine frame cpu ?_
      rw [inDomain]
      exact fun equal => same (Option.some.inj equal)
  refine ⟨loops.1, ?_⟩
  intro tid entry original kept
  refine loops.2 entry.targetDomain ?_
  have listed : tid ∈ assignmentOrder snapshot entries := by
    rw [mem_assignmentOrder, candidatesByTid_eq_some.mpr ⟨entry, original, kept, rfl⟩]
    rfl
  obtain ⟨first, cpu, found, _, written⟩ := assigned.given tid listed
  obtain rfl := Option.some.inj (original.symm.trans found)
  rw [TreeSet.mem_toList, TreeSet.mem_ofList, List.contains_iff_mem, List.mem_map]
  refine ⟨{ entry with targetCpu := some cpu }, ?_, rfl⟩
  rw [KeyedTotals.values_eq_map_toList, List.mem_map]
  exact ⟨(tid, _), TreeMap.mem_toList_iff_getElem?_eq_some.mpr written, rfl⟩

end Pass

/-! ## What the pass promises -/

/-- More iterations than the bound change nothing. -/
theorem repairLoop_stable (snapshot : PlannerInput) (candidates : CpuSetMap) (domain : Nat)
    {fuel : Nat} {plan : CpuPlan} (enough : surplusJobs plan.cpuLoads ≤ fuel) :
    repairLoop snapshot candidates domain (fuel + 1) plan =
      repairLoop snapshot candidates domain fuel plan := by
  induction fuel generalizing plan with
  | zero =>
      unfold repairLoop
      cases found : findRepair snapshot candidates domain plan with
      | none => rfl
      | some move =>
          have shrinks := surplusJobs_repair found
          omega
  | succ fuel ih =>
      rw [repairLoop]
      conv_rhs => rw [repairLoop]
      cases found : findRepair snapshot candidates domain plan with
      | none => rfl
      | some move =>
          have shrinks := surplusJobs_repair found
          exact ih (by omega)

theorem repairLoop_eq_repairDomain (snapshot : PlannerInput) (candidates : CpuSetMap)
    (domain : Nat) (plan : CpuPlan) {fuel : Nat} (enough : surplusJobs plan.cpuLoads ≤ fuel) :
    repairLoop snapshot candidates domain fuel plan =
      repairDomain snapshot candidates plan domain := by
  induction fuel, enough using Nat.le_induction with
  | base => rfl
  | succ fuel enough ih => rw [repairLoop_stable snapshot candidates domain enough, ih]

/-- A tid has an allowed CPU in a domain. -/
def HasCpu (snapshot : PlannerInput) (tid domain : Nat) : Prop :=
  ∃ cpu ∈ snapshot.allowedCpusOf tid, snapshot.topo.domainOfCpu cpu = some domain

theorem served_iff {snapshot : PlannerInput} {tid : Nat} {entry : PlacementPlanEntry} :
    served snapshot (tid, entry) = true ↔ HasCpu snapshot tid entry.targetDomain := by
  unfold served HasCpu
  rw [Bool.not_eq_true', TreeSet.isEmpty_eq_false_iff_exists_mem]
  constructor
  · rintro ⟨cpu, candidate⟩
    have legal := candidateCpusForPlanTarget_legal candidate
    obtain ⟨allowedCpus, stored, allowed⟩ := legal.allowed
    refine ⟨cpu, ?_, legal.inDomain⟩
    rw [PlannerInput.allowedCpusOf, stored]
    exact allowed
  · rintro ⟨cpu, allowed, inDomain⟩
    unfold PlannerInput.allowedCpusOf at allowed
    unfold candidateCpusForPlanTarget
    cases stored : snapshot.allowedCpus[tid]? with
    | none => simp [stored] at allowed
    | some allowedCpus =>
        rw [stored, Option.getD_some] at allowed
        dsimp only
        split
        next some =>
          rw [Bool.not_eq_true'] at some
          exact TreeSet.isEmpty_eq_false_iff_exists_mem.mp some
        next none => exact ⟨cpu, mem_cpusInDomain.mpr ⟨allowed, inDomain⟩⟩

/-- The pass has planned the CPU for an active tid. -/
def PlannedOn (snapshot : PlannerInput) (entries : EntryMap) (cpu tid : Nat) : Prop :=
  (∃ entry, entries[tid]? = some entry ∧ HasCpu snapshot tid entry.targetDomain) ∧
    activeForCpuPlan snapshot tid = true ∧
    (assignPlanTargetCpus snapshot entries)[tid]?.bind (·.targetCpu) = some cpu

section Promises

variable {snapshot : PlannerInput} {entries : EntryMap}

theorem mem_assignmentOrder_iff_hasCpu {tid : Nat} :
    tid ∈ assignmentOrder snapshot entries ↔
      ∃ entry, entries[tid]? = some entry ∧ HasCpu snapshot tid entry.targetDomain := by
  rw [mem_assignmentOrder, Option.isSome_iff_exists]
  constructor
  · intro ⟨cpus, computed⟩
    obtain ⟨entry, original, kept, _⟩ := candidatesByTid_eq_some.mp computed
    exact ⟨entry, original, served_iff.mp kept⟩
  · intro ⟨entry, original, has⟩
    exact ⟨_, candidatesByTid_eq_some.mpr ⟨entry, original, served_iff.mpr has, rfl⟩⟩

/-- The job lists that the pass ends with are the CPUs it has planned. -/
theorem mem_repairedJobs_iff {cpu tid : Nat} :
    tid ∈ jobsOn (repairedCpuPlan snapshot entries).cpuLoads cpu ↔
      PlannedOn snapshot entries cpu tid := by
  rw [(repairedCpuPlan_counted snapshot entries).1.counted, mem_assignmentOrder_iff_hasCpu]
  rfl

theorem assignPlanTargetCpus_given {tid : Nat} {entry : PlacementPlanEntry}
    (original : entries[tid]? = some entry) (has : HasCpu snapshot tid entry.targetDomain) :
    ∃ cpu ∈ candidateCpusForPlanTarget snapshot tid entry.targetDomain,
      (assignPlanTargetCpus snapshot entries)[tid]? = some { entry with targetCpu := some cpu } := by
  rw [assignPlanTargetCpus_eq]
  obtain ⟨first, cpu, found, candidate, written⟩ :=
    (repairedCpuPlan_counted snapshot entries).1.given tid
      (mem_assignmentOrder_iff_hasCpu.mpr ⟨entry, original, has⟩)
  obtain rfl := Option.some.inj (original.symm.trans found)
  exact ⟨cpu, candidate, written⟩

theorem assignPlanTargetCpus_others {tid : Nat}
    (unserved : ∀ entry, entries[tid]? = some entry → ¬ HasCpu snapshot tid entry.targetDomain) :
    (assignPlanTargetCpus snapshot entries)[tid]? = entries[tid]? := by
  rw [assignPlanTargetCpus_eq]
  apply (repairedCpuPlan_counted snapshot entries).1.others tid
  rw [mem_assignmentOrder_iff_hasCpu]
  intro ⟨entry, original, has⟩
  exact unserved entry original has

/-- A planned CPU lies in the domain of the entry. -/
theorem PlannedOn.inDomain {cpu tid : Nat} {entry : PlacementPlanEntry}
    (planned : PlannedOn snapshot entries cpu tid) (original : entries[tid]? = some entry) :
    HasCpu snapshot tid entry.targetDomain ∧
      snapshot.topo.domainOfCpu cpu = some entry.targetDomain := by
  obtain ⟨⟨first, found, has⟩, _, named⟩ := planned
  obtain rfl := Option.some.inj (original.symm.trans found)
  obtain ⟨place, candidate, written⟩ := assignPlanTargetCpus_given original has
  rw [written] at named
  obtain rfl := Option.some.inj named
  exact ⟨has, (candidateCpusForPlanTarget_legal candidate).inDomain⟩

/-- Beside a shared CPU, each CPU that could take one of its jobs has one. -/
theorem exists_plannedOn_of_shared {cpu idle tid other : Nat} {entry : PlacementPlanEntry}
    (apart : tid ≠ other) (own : PlannedOn snapshot entries cpu tid)
    (shared : PlannedOn snapshot entries cpu other) (original : entries[tid]? = some entry)
    (candidate : idle ∈ candidateCpusForPlanTarget snapshot tid entry.targetDomain) :
    ∃ third, PlannedOn snapshot entries idle third := by
  obtain ⟨has, inDomain⟩ := own.inDomain original
  have kept : served snapshot (tid, entry) = true := served_iff.mpr has
  have listed := mem_repairedJobs_iff.mpr own
  have pair : 1 < (jobsOn (repairedCpuPlan snapshot entries).cpuLoads cpu).length := by
    have two : [tid, other].Subperm (jobsOn (repairedCpuPlan snapshot entries).cpuLoads cpu) :=
      List.subperm_of_subset (by simp [apart]) (by simp [listed, mem_repairedJobs_iff.mpr shared])
    exact two.length_le
  by_contra empty
  apply (repairedCpuPlan_counted snapshot entries).2 tid entry original kept cpu idle tid _ inDomain
    pair listed (candidatesByTid_eq_some.mpr ⟨entry, original, kept, rfl⟩) candidate
  apply List.eq_nil_iff_forall_not_mem.mpr
  intro third member
  exact empty ⟨third, mem_repairedJobs_iff.mp member⟩

end Promises

structure TargetCpusPlanned (snapshot : PlannerInput) (entries : EntryMap) : Prop where
  terminates : ∀ candidates domain plan fuel, surplusJobs plan.cpuLoads ≤ fuel →
    repairLoop snapshot candidates domain fuel plan = repairDomain snapshot candidates plan domain ∧
      findRepair snapshot candidates domain (repairDomain snapshot candidates plan domain) = none
  given : ∀ tid entry, entries[tid]? = some entry → HasCpu snapshot tid entry.targetDomain →
    ∃ cpu ∈ candidateCpusForPlanTarget snapshot tid entry.targetDomain,
      (assignPlanTargetCpus snapshot entries)[tid]? = some { entry with targetCpu := some cpu }
  kept : ∀ tid, (∀ entry, entries[tid]? = some entry → ¬ HasCpu snapshot tid entry.targetDomain) →
    (assignPlanTargetCpus snapshot entries)[tid]? = entries[tid]?
  counted : ∀ cpu, (jobsOn (repairedCpuPlan snapshot entries).cpuLoads cpu).Nodup ∧
    ∀ tid, tid ∈ jobsOn (repairedCpuPlan snapshot entries).cpuLoads cpu ↔
      PlannedOn snapshot entries cpu tid
  spread : ¬ ∃ cpu idle tid other entry, tid ≠ other ∧ PlannedOn snapshot entries cpu tid ∧
    PlannedOn snapshot entries cpu other ∧ entries[tid]? = some entry ∧
    idle ∈ candidateCpusForPlanTarget snapshot tid entry.targetDomain ∧
    ∀ third, ¬ PlannedOn snapshot entries idle third
  /-- The planner passes entries without a CPU; after those every CPU named is planned. -/
  fresh : (∀ (tid : Nat) (entry : PlacementPlanEntry), entries[tid]? = some entry →
      entry.targetCpu = none) → ∀ (tid cpu : Nat),
      (assignPlanTargetCpus snapshot entries)[tid]?.bind (·.targetCpu) = some cpu →
      ∃ entry, entries[tid]? = some entry ∧ HasCpu snapshot tid entry.targetDomain

/-- For any entries, the pass gives a CPU to the tids that have one, counts each active
tid on its CPU, and leaves no CPU idle that could take a job of a shared one. -/
theorem assignPlanTargetCpus_planned (snapshot : PlannerInput) (entries : EntryMap) :
    TargetCpusPlanned snapshot entries := by
  constructor
  · intro candidates domain plan fuel enough
    exact ⟨repairLoop_eq_repairDomain snapshot candidates domain plan enough,
      repairDomain_done snapshot candidates plan domain⟩
  · intro tid entry original has
    exact assignPlanTargetCpus_given original has
  · intro tid unserved
    exact assignPlanTargetCpus_others unserved
  · intro cpu
    exact ⟨(repairedCpuPlan_counted snapshot entries).1.distinct cpu, fun _ => mem_repairedJobs_iff⟩
  · intro ⟨cpu, idle, tid, other, entry, apart, own, shared, original, candidate, empty⟩
    obtain ⟨third, planned⟩ := exists_plannedOn_of_shared apart own shared original candidate
    exact empty third planned
  · intro blank tid cpu named
    by_contra none
    rw [assignPlanTargetCpus_others (fun entry original has => none ⟨entry, original, has⟩)] at named
    obtain ⟨entry, original, chosen⟩ := Option.bind_eq_some_iff.mp named
    rw [blank tid entry original] at chosen
    cases chosen

end CSwitch.Planner
