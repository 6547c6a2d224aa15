import CSwitch.Arcas.Agreement

/-! Which targets a plan of the ARCAS controller gives. A thread gets one exactly
when it is allowed on a CPU of an active domain; it shares a CPU with a thread
planned before it only when the first domain that it can use is used up. -/

set_option autoImplicit false

namespace CSwitch.Arcas

open Std (TreeMap TreeSet)
open Policy Library

/-! ## Completeness -/

section Complete

variable {topo : TopologyLayout} {activeDomains : List Nat} {allowedCpusByTid : CpuSetMap}
  {rankByTid : TreeMap Nat Nat}

theorem inDomain_iff (consistent : topo.Consistent) {cpu domain : Nat} :
    InDomain topo cpu domain ↔ topo.domainOfCpu cpu = some domain := by
  unfold InDomain
  rw [← consistent cpu domain, or_self]

/-- An affinity that the slot search has nothing for reaches no active domain by
either table. -/
theorem chooseAnywhere_eq_none (consistent : topo.Consistent) {tid rank : Nat} {plan : TargetPlan}
    {allowedCpus : TreeSet Nat} (listed : allowedCpusByTid[tid]? = some allowedCpus)
    (noSlot : chooseSlot topo activeDomains (unionAllowedCpus allowedCpusByTid) plan allowedCpus
      rank = none) : chooseAnywhere topo activeDomains plan allowedCpus = none := by
  cases found : chooseAnywhere topo activeDomains plan allowedCpus with
  | none => rfl
  | some chosen =>
      obtain ⟨active, allowed, inDomain⟩ := chooseAnywhere_legal found
      obtain ⟨info, known, inInfo⟩ :=
        (consistent _ _).mp ((inDomain_iff consistent).mp inDomain)
      have slot := mem_domainSlotCpus known inInfo (mem_unionAllowedCpus listed allowed)
      have answered := chooseSlot_isSome active slot allowed plan rank
      rw [noSlot] at answered
      cases answered

/-- A plan targets exactly the threads that are allowed on a CPU of an active
domain, each on such a CPU, and the search by slots alone finds all of them. -/
theorem buildTargetPlan_complete (topo : TopologyLayout) (consistent : topo.Consistent)
    (activeDomains : List Nat) (allowedCpusByTid : CpuSetMap) (rankByTid : TreeMap Nat Nat) :
    let plan := buildTargetPlan topo activeDomains allowedCpusByTid rankByTid
    (∀ tid, tid ∈ plan.1 ↔ ∃ allowedCpus, allowedCpusByTid[tid]? = some allowedCpus ∧
      ∃ cpu ∈ allowedCpus, ∃ domain ∈ activeDomains, topo.domainOfCpu cpu = some domain) ∧
    (∀ tid, tid ∈ plan.1 ↔ tid ∈ plan.2) ∧
    (∀ tid domain cpu : Nat, plan.1[tid]? = some domain → plan.2[tid]? = some cpu →
      ∃ allowedCpus, allowedCpusByTid[tid]? = some allowedCpus ∧ cpu ∈ allowedCpus ∧
        domain ∈ activeDomains ∧ topo.domainOfCpu cpu = some domain) ∧
    ∀ (sofar : TargetPlan) (tid rank : Nat) (allowedCpus : TreeSet Nat),
      allowedCpusByTid[tid]? = some allowedCpus →
      chooseSlot topo activeDomains (unionAllowedCpus allowedCpusByTid) sofar allowedCpus rank =
        none →
      chooseAnywhere topo activeDomains sofar allowedCpus = none := by
  intro plan
  have targetOf : ∀ tid, TargetOf topo activeDomains allowedCpusByTid tid plan.1 plan.2 :=
    fun tid => buildTargetPlan_targetOf tid
  refine ⟨?_, ?_, ?_, fun sofar tid rank allowedCpus => chooseAnywhere_eq_none consistent⟩
  · intro tid
    rw [TreeMap.mem_iff_isSome_getElem?]
    cases targetOf tid with
    | placed listed allowed active inDomain domain cpu =>
        rw [domain]
        refine iff_of_true rfl ⟨_, listed, _, allowed, _, active, ?_⟩
        exact (inDomain_iff consistent).mp inDomain
    | unplaced unreached domain cpu =>
        rw [domain]
        constructor
        · intro impossible
          cases impossible
        · intro ⟨allowedCpus, listed, cpu, allowed, home, active, inDomain⟩
          exact absurd ⟨cpu, allowed, home, active, (inDomain_iff consistent).mpr inDomain⟩
            (unreached allowedCpus listed)
  · intro tid
    rw [TreeMap.mem_iff_isSome_getElem?, TreeMap.mem_iff_isSome_getElem?]
    cases targetOf tid with
    | placed listed allowed active inDomain domain cpu => rw [domain, cpu]; exact iff_of_true rfl rfl
    | unplaced unreached domain cpu => rw [domain, cpu]
  · intro tid domain cpu targetDomain targetCpu
    cases targetOf tid with
    | placed listed allowed active inDomain known chosen =>
        obtain rfl := Option.some.inj (known.symm.trans targetDomain)
        obtain rfl := Option.some.inj (chosen.symm.trans targetCpu)
        exact ⟨_, listed, allowed, active, (inDomain_iff consistent).mp inDomain⟩
    | unplaced _ known _ =>
        rw [known] at targetDomain
        cases targetDomain

/-- Two threads of the domain are targeted, and a third that is kept on a CPU beyond
it is not. -/
def lateAllowed : CpuSetMap := lateCall.allowedCpusByTid.insert 12 (.ofList [5])

theorem buildTargetPlan_complete_late :
    10 ∈ (buildTargetPlan lateTopology [0] lateAllowed ∅).1 ∧
      11 ∈ (buildTargetPlan lateTopology [0] lateAllowed ∅).2 ∧
      12 ∉ (buildTargetPlan lateTopology [0] lateAllowed ∅).1 := by
  obtain ⟨targeted, paired, _⟩ :=
    buildTargetPlan_complete lateTopology lateTopology_consistent [0] lateAllowed ∅
  refine ⟨(targeted 10).mpr ⟨.ofList [0, 1], rfl, 0, by decide +kernel, 0, by decide, by decide⟩,
    (paired 11).mp
      ((targeted 11).mpr ⟨.ofList [0, 1], rfl, 0, by decide +kernel, 0, by decide, by decide⟩), ?_⟩
  intro beyond
  obtain ⟨allowedCpus, listed, cpu, member, domain, active, inDomain⟩ := (targeted 12).mp beyond
  obtain rfl : allowedCpus = .ofList [5] := (Option.some.inj listed).symm
  obtain rfl : cpu = 5 := by simpa using TreeSet.mem_ofList.mp member
  cases inDomain

end Complete

/-! ## Sharing -/

/-- The order in which a plan handles the threads: the narrowest affinity first,
then by rank. -/
def planOrder (allowedCpusByTid : CpuSetMap) (rankByTid : TreeMap Nat Nat) : List Nat :=
  sortByKey (fun tid => toLex ((allowedCpusByTid[tid]?.map (·.size)).getD usizeMax,
    toLex (rankOf rankByTid tid, tid))) (rankedTidsForPlan allowedCpusByTid rankByTid)

/-- The domain lists the CPU. -/
def Lists (topo : TopologyLayout) (domain cpu : Nat) : Prop :=
  ∃ info, topo.domains[domain]? = some info ∧ cpu ∈ info.cpus

/-- The active domain that is tried at a step of the rotation of a rank. -/
def rotated (activeDomains : List Nat) (rank offset : Nat) : Option Nat :=
  activeDomains[(rank % activeDomains.length + offset) % activeDomains.length]?

/-- The CPUs given to some threads. -/
def givenTo (targetCpuByTid : TreeMap Nat Nat) (tids : List Nat) : Set Nat :=
  {cpu | ∃ tid ∈ tids, targetCpuByTid[tid]? = some cpu}

/-- Why a thread shares a CPU of its target domain. -/
inductive SharedTarget (topo : TopologyLayout) (activeDomains : List Nat)
    (allowedCpus : TreeSet Nat) (rank : Nat) (given : Set Nat) (domain : Nat) : Prop where
  /-- The first domain of its rotation that lists an allowed CPU is used up. -/
  | usedUp {offset : Nat} (tried : rotated activeDomains rank offset = some domain)
      (ahead : ∀ earlier < offset, ∀ other, rotated activeDomains rank earlier = some other →
        ∀ cpu ∈ allowedCpus, ¬ Lists topo other cpu)
      (full : ∀ cpu ∈ allowedCpus, Lists topo domain cpu → cpu ∈ given) :
      SharedTarget topo activeDomains allowedCpus rank given domain
  /-- No active domain lists an allowed CPU, and those that the CPU table puts in
  one are used up. -/
  | unlisted (none : ∀ other ∈ activeDomains, ∀ cpu ∈ allowedCpus, ¬ Lists topo other cpu)
      (full : ∀ cpu ∈ allowedCpus, ∀ other ∈ activeDomains,
        topo.domainOfCpu cpu = some other → cpu ∈ given) :
      SharedTarget topo activeDomains allowedCpus rank given domain

section Sharing

variable {topo : TopologyLayout} {activeDomains : List Nat} {allowedCpusByTid : CpuSetMap}
  {rankByTid : TreeMap Nat Nat}

/-- A taken slot is only reused when the other slots are taken too. -/
theorem slotCpu_reuses {cpus : List Nat} {allowedCpus usedCpus : TreeSet Nat} {cursor cpu : Nat}
    (chosen : slotCpu cpus allowedCpus usedCpus cursor = some cpu) (used : cpu ∈ usedCpus) :
    ∀ other ∈ cpus, other ∈ allowedCpus → other ∈ usedCpus := by
  intro other slot allowed
  unfold slotCpu at chosen
  rw [List.findSome?_cons] at chosen
  split at chosen
  next fresh =>
    obtain rfl := Option.some.inj chosen
    obtain ⟨offset, _, picked⟩ := List.exists_of_findSome?_eq_some fresh
    have free := (Option.filter_eq_some_iff.mp picked).2
    rw [TreeSet.contains_iff_mem.mpr used, Bool.not_true, Bool.or_self, Bool.and_false] at free
    cases free
  next noFresh =>
    obtain ⟨index, bound, found⟩ := List.getElem_of_mem slot
    obtain ⟨offset, within, turned⟩ := exists_rotation cursor bound
    have skipped := List.findSome?_eq_none_iff.mp noFresh offset (List.mem_range.mpr within)
    rw [turned, List.getElem?_eq_getElem bound, found] at skipped
    by_contra unused
    simp [allowed, unused] at skipped

theorem slotCpu_eq_none {cpus : List Nat} {allowedCpus usedCpus : TreeSet Nat} {cursor : Nat}
    (missing : slotCpu cpus allowedCpus usedCpus cursor = none) :
    ∀ cpu ∈ cpus, cpu ∉ allowedCpus := by
  intro cpu slot allowed
  have answered := slotCpu_isSome slot allowed usedCpus cursor
  rw [missing] at answered
  cases answered

variable {plan : TargetPlan} {tid rank domain cpu : Nat} {allowedCpus : TreeSet Nat}

theorem chooseSlot_shared (listed : allowedCpusByTid[tid]? = some allowedCpus)
    (chosen : chooseSlot topo activeDomains (unionAllowedCpus allowedCpusByTid) plan allowedCpus
      rank = some (domain, cpu)) (used : cpu ∈ plan.usedCpus) :
    SharedTarget topo activeDomains allowedCpus rank {cpu | cpu ∈ plan.usedCpus} domain := by
  obtain ⟨offset, _, found, first⟩ := findSome?_range_iff.mp chosen
  obtain ⟨other, tried, found⟩ := Option.bind_eq_some_iff.mp found
  obtain ⟨slot, picked, same⟩ := Option.bind_eq_some_iff.mp found
  obtain ⟨rfl, rfl⟩ := Prod.mk.inj (Option.some.inj same)
  refine .usedUp tried ?_ ?_
  · intro earlier less passed turn member allowed lists
    obtain ⟨info, known, inInfo⟩ := lists
    have missing := first earlier less
    rw [Option.bind_eq_bind, show activeDomains[_]? = some passed from turn, Option.bind_some]
      at missing
    have missing := Option.bind_eq_none_iff.mp missing
    have none : slotCpu (domainSlotCpus topo passed (unionAllowedCpus allowedCpusByTid)) allowedCpus
        plan.usedCpus (plan.slotCursorByDomain[passed]?.getD 0) = none := by
      rw [Option.eq_none_iff_forall_not_mem]
      intro slot found
      exact absurd (missing slot found) (by simp)
    exact slotCpu_eq_none none member
      (mem_domainSlotCpus known inInfo (mem_unionAllowedCpus listed allowed)) allowed
  · intro member allowed lists
    obtain ⟨info, known, inInfo⟩ := lists
    exact slotCpu_reuses picked used member
      (mem_domainSlotCpus known inInfo (mem_unionAllowedCpus listed allowed)) allowed

theorem chooseAnywhere_shared (listed : allowedCpusByTid[tid]? = some allowedCpus)
    (noSlot : chooseSlot topo activeDomains (unionAllowedCpus allowedCpusByTid) plan allowedCpus
      rank = none)
    (chosen : chooseAnywhere topo activeDomains plan allowedCpus = some (domain, cpu))
    (used : cpu ∈ plan.usedCpus) :
    SharedTarget topo activeDomains allowedCpus rank {cpu | cpu ∈ plan.usedCpus} domain := by
  refine .unlisted ?_ ?_
  · intro other active member allowed lists
    obtain ⟨info, known, inInfo⟩ := lists
    have slot := mem_domainSlotCpus known inInfo (mem_unionAllowedCpus listed allowed)
    have answered := chooseSlot_isSome active slot allowed plan rank
    rw [noSlot] at answered
    cases answered
  · intro member allowed other active inDomain
    unfold chooseAnywhere at chosen
    rw [List.findSome?_cons] at chosen
    split at chosen
    next fresh =>
      obtain rfl := Option.some.inj chosen
      obtain ⟨found, _, picked⟩ := List.exists_of_findSome?_eq_some fresh
      split at picked
      · cases picked
      next unused =>
        obtain ⟨home, _, same⟩ := Option.map_eq_some_iff.mp picked
        obtain rfl := (Prod.mk.inj same).2
        simp [used] at unused
    next noFresh =>
      have skipped := List.findSome?_eq_none_iff.mp noFresh member
        (TreeSet.mem_toList.mpr allowed)
      by_contra unused
      have away : plan.usedCpus.contains member = false := Bool.eq_false_iff.mpr unused
      simp [away, inDomain, active] at skipped

/-- What planning one thread does to the targets and the used CPUs. -/
inductive ThreadGiven (topo : TopologyLayout) (activeDomains : List Nat)
    (allowedCpusByTid : CpuSetMap) (rankByTid : TreeMap Nat Nat) (tid : Nat)
    (plan next : TargetPlan) : Prop where
  | given {allowedCpus : TreeSet Nat} {domain cpu : Nat}
      (listed : allowedCpusByTid[tid]? = some allowedCpus)
      (shared : cpu ∈ plan.usedCpus → SharedTarget topo activeDomains allowedCpus
        (rankOf rankByTid tid) {cpu | cpu ∈ plan.usedCpus} domain)
      (domains : next.targetDomainByTid = plan.targetDomainByTid.insert tid domain)
      (cpus : next.targetCpuByTid = plan.targetCpuByTid.insert tid cpu)
      (used : next.usedCpus = plan.usedCpus.insert cpu) :
      ThreadGiven topo activeDomains allowedCpusByTid rankByTid tid plan next
  | passed (same : next = plan) :
      ThreadGiven topo activeDomains allowedCpusByTid rankByTid tid plan next

theorem planThread_given (tid : Nat) (plan : TargetPlan) :
    ThreadGiven topo activeDomains allowedCpusByTid rankByTid tid plan
      (planThread topo activeDomains (unionAllowedCpus allowedCpusByTid) allowedCpusByTid rankByTid
        plan tid) := by
  unfold planThread
  split
  · exact .passed rfl
  next allowedCpus listed =>
    split
    next domain cpu chosen => exact .given listed (chooseSlot_shared listed chosen) rfl rfl rfl
    next noSlot =>
      split
      next domain cpu chosen =>
        exact .given listed (chooseAnywhere_shared listed noSlot chosen) rfl rfl rfl
      next nowhere => exact .passed rfl

theorem givenTo_congr {left right : TreeMap Nat Nat} {tids : List Nat}
    (same : ∀ tid ∈ tids, left[tid]? = right[tid]?) : givenTo left tids = givenTo right tids := by
  ext cpu
  constructor
  · intro ⟨tid, member, found⟩
    exact ⟨tid, member, (same tid member).symm.trans found⟩
  · intro ⟨tid, member, found⟩
    exact ⟨tid, member, (same tid member).trans found⟩

/-- A plan under way: the CPUs in use are those given out, and every thread that
shares one had to. -/
structure SharesSoFar (topo : TopologyLayout) (activeDomains : List Nat)
    (allowedCpusByTid : CpuSetMap) (rankByTid : TreeMap Nat Nat) (done : List Nat)
    (plan : TargetPlan) : Prop where
  unseen : ∀ tid ∉ done, plan.targetCpuByTid[tid]? = none
  used : {cpu | cpu ∈ plan.usedCpus} = givenTo plan.targetCpuByTid done
  shares : ∀ (before : List Nat) (tid : Nat) (after : List Nat) (domain cpu : Nat),
    done = before ++ tid :: after → plan.targetDomainByTid[tid]? = some domain →
    plan.targetCpuByTid[tid]? = some cpu → cpu ∈ givenTo plan.targetCpuByTid before →
    ∃ allowedCpus, allowedCpusByTid[tid]? = some allowedCpus ∧
      SharedTarget topo activeDomains allowedCpus (rankOf rankByTid tid)
        (givenTo plan.targetCpuByTid before) domain

/-- A thread that gets no target. -/
theorem SharesSoFar.passed {done : List Nat} {tid : Nat} {plan : TargetPlan}
    (sofar : SharesSoFar topo activeDomains allowedCpusByTid rankByTid done plan)
    (fresh : tid ∉ done) :
    SharesSoFar topo activeDomains allowedCpusByTid rankByTid (done ++ [tid]) plan := by
  have nothing := sofar.unseen tid fresh
  constructor
  · intro other unseen
    exact sofar.unseen other fun member => unseen (List.mem_append_left [tid] member)
  · rw [sofar.used]
    ext cpu
    simp [givenTo, List.mem_append, or_and_right, exists_or, nothing]
  · intro before other after domain cpu split targetDomain targetCpu given
    rcases append_singleton_split split with ⟨_, rfl⟩ | ⟨rest, earlier⟩
    · rw [nothing] at targetCpu
      cases targetCpu
    · exact sofar.shares before other rest domain cpu earlier targetDomain targetCpu given

/-- A thread that gets a target; the targets of the others stay. -/
theorem SharesSoFar.given {done : List Nat} {tid home core : Nat} {plan next : TargetPlan}
    {allowedCpus : TreeSet Nat}
    (sofar : SharesSoFar topo activeDomains allowedCpusByTid rankByTid done plan)
    (fresh : tid ∉ done) (listed : allowedCpusByTid[tid]? = some allowedCpus)
    (shared : core ∈ plan.usedCpus → SharedTarget topo activeDomains allowedCpus
      (rankOf rankByTid tid) {cpu | cpu ∈ plan.usedCpus} home)
    (domains : next.targetDomainByTid = plan.targetDomainByTid.insert tid home)
    (cpus : next.targetCpuByTid = plan.targetCpuByTid.insert tid core)
    (used : next.usedCpus = plan.usedCpus.insert core) :
    SharesSoFar topo activeDomains allowedCpusByTid rankByTid (done ++ [tid]) next := by
  have others : ∀ other ≠ tid, next.targetDomainByTid[other]? = plan.targetDomainByTid[other]? ∧
      next.targetCpuByTid[other]? = plan.targetCpuByTid[other]? := by
    intro other different
    rw [domains, cpus, TreeMap.getElem?_insert, TreeMap.getElem?_insert,
      if_neg (compare_eq_iff_eq.not.mpr different.symm),
      if_neg (compare_eq_iff_eq.not.mpr different.symm)]
    exact ⟨rfl, rfl⟩
  have ownCpu : next.targetCpuByTid[tid]? = some core := by
    rw [cpus, TreeMap.getElem?_insert_self]
  have ownDomain : next.targetDomainByTid[tid]? = some home := by
    rw [domains, TreeMap.getElem?_insert_self]
  have same : ∀ tids : List Nat, tid ∉ tids →
      givenTo next.targetCpuByTid tids = givenTo plan.targetCpuByTid tids := by
    intro tids away
    exact givenTo_congr fun other member => (others other fun eq => away (eq ▸ member)).2
  constructor
  · intro other unseen
    rw [List.mem_append, List.mem_singleton, not_or] at unseen
    rw [(others other unseen.2).2]
    exact sofar.unseen other unseen.1
  · have kept := same done fresh
    rw [← sofar.used] at kept
    have split : givenTo next.targetCpuByTid (done ++ [tid]) =
        insert core (givenTo next.targetCpuByTid done) := by
      ext cpu
      simp [givenTo, List.mem_append, or_and_right, exists_or, ownCpu, or_comm,
        @eq_comm _ cpu core]
    rw [split, kept, used]
    ext cpu
    simp [@eq_comm _ cpu core]
  · intro before other after domain cpu split targetDomain targetCpu given
    rcases append_singleton_split split with ⟨rfl, rfl⟩ | ⟨rest, earlier⟩
    · obtain rfl := Option.some.inj (ownDomain.symm.trans targetDomain)
      obtain rfl := Option.some.inj (ownCpu.symm.trans targetCpu)
      rw [same before fresh, ← sofar.used] at given ⊢
      exact ⟨allowedCpus, listed, shared given⟩
    · rw [earlier, List.mem_append, List.mem_cons, not_or, not_or] at fresh
      obtain ⟨away, different, _⟩ := fresh
      rw [(others other (Ne.symm different)).1] at targetDomain
      rw [(others other (Ne.symm different)).2] at targetCpu
      rw [same before away] at given ⊢
      exact sofar.shares before other rest domain cpu earlier targetDomain targetCpu given

theorem SharesSoFar.planThread {done : List Nat} {tid : Nat} {plan next : TargetPlan}
    (sofar : SharesSoFar topo activeDomains allowedCpusByTid rankByTid done plan)
    (fresh : tid ∉ done)
    (step : ThreadGiven topo activeDomains allowedCpusByTid rankByTid tid plan next) :
    SharesSoFar topo activeDomains allowedCpusByTid rankByTid (done ++ [tid]) next := by
  cases step with
  | passed same =>
      rw [same]
      exact sofar.passed fresh
  | given listed shared domains cpus used => exact sofar.given fresh listed shared domains cpus used

theorem nodup_planOrder : (planOrder allowedCpusByTid rankByTid).Nodup := by
  have keys : allowedCpusByTid.keys.Nodup := TreeMap.nodup_keys
  have ranked : (rankedTidsForPlan allowedCpusByTid rankByTid).Nodup :=
    (List.perm_insertionSort _ _).nodup_iff.mpr keys
  exact (List.perm_insertionSort _ _).nodup_iff.mpr ranked

/-- A thread shares a CPU with one planned before it only when every allowed CPU
in its target domain is given out already, and that is the first domain of its
rotation that lists one. -/
theorem buildTargetPlan_shares (topo : TopologyLayout) (activeDomains : List Nat)
    (allowedCpusByTid : CpuSetMap) (rankByTid : TreeMap Nat Nat) (before : List Nat) (tid : Nat)
    (after : List Nat) (order : planOrder allowedCpusByTid rankByTid = before ++ tid :: after)
    (domain cpu : Nat)
    (targetDomain : (buildTargetPlan topo activeDomains allowedCpusByTid rankByTid).1[tid]? =
      some domain)
    (targetCpu : (buildTargetPlan topo activeDomains allowedCpusByTid rankByTid).2[tid]? = some cpu)
    (shared : cpu ∈
      givenTo (buildTargetPlan topo activeDomains allowedCpusByTid rankByTid).2 before) :
    ∃ allowedCpus, allowedCpusByTid[tid]? = some allowedCpus ∧
      SharedTarget topo activeDomains allowedCpus (rankOf rankByTid tid)
        (givenTo (buildTargetPlan topo activeDomains allowedCpusByTid rankByTid).2 before)
        domain := by
  unfold buildTargetPlan at targetDomain targetCpu shared ⊢
  split at targetDomain
  · simp at targetDomain
  next some =>
    rw [if_neg some] at targetCpu shared ⊢
    dsimp only at targetDomain targetCpu shared ⊢
    have planned : SharesSoFar topo activeDomains allowedCpusByTid rankByTid
        (planOrder allowedCpusByTid rankByTid)
        ((planOrder allowedCpusByTid rankByTid).foldl (Arcas.planThread topo activeDomains
          (unionAllowedCpus allowedCpusByTid) allowedCpusByTid rankByTid) {}) := by
      refine foldl_prefix_invariant _ ⟨by simp, by ext; simp [givenTo], by simp⟩ ?_
      intro done tid rest plan split sofar
      refine sofar.planThread ?_ (planThread_given tid plan)
      have unique : (planOrder allowedCpusByTid rankByTid).Nodup := nodup_planOrder
      rw [split] at unique
      intro repeated
      exact (List.nodup_append.mp unique).2.2 tid repeated tid List.mem_cons_self rfl
    exact planned.shares before tid after domain cpu order targetDomain targetCpu shared

end Sharing

/-! Two threads whose ranks both start at the first of two domains of one CPU. -/

def narrowTopology : TopologyLayout where
  nrCpuIds := 2
  domains := [{ domainId := 0, cpus := [0] }, { domainId := 1, cpus := [1] }]
  cpuToDomain := [some 0, some 1]

def narrowAllowed : CpuSetMap := .ofList [(10, TreeSet.ofList [0, 1]), (12, TreeSet.ofList [0, 1])]

def narrowRanks : TreeMap Nat Nat := .ofList [(10, 0), (12, 2)]

theorem buildTargetPlan_shares_narrow :
    ∃ allowedCpus, narrowAllowed[12]? = some allowedCpus ∧
      SharedTarget narrowTopology [0, 1] allowedCpus 2
        (givenTo (buildTargetPlan narrowTopology [0, 1] narrowAllowed narrowRanks).2 [10]) 0 :=
  buildTargetPlan_shares narrowTopology [0, 1] narrowAllowed narrowRanks [10] 12 []
    (by decide +kernel) 0 0 (by decide +kernel) (by decide +kernel)
    ⟨10, List.mem_singleton_self 10, by decide +kernel⟩

/-- The second thread gets the CPU of the first while that of the other domain
is free. -/
theorem buildTargetPlan_shares_early :
    ¬∀ (topo : TopologyLayout) (activeDomains : List Nat) (allowedCpusByTid : CpuSetMap)
      (rankByTid : TreeMap Nat Nat) (before : List Nat) (tid : Nat) (after : List Nat) (cpu : Nat),
      planOrder allowedCpusByTid rankByTid = before ++ tid :: after →
      (buildTargetPlan topo activeDomains allowedCpusByTid rankByTid).2[tid]? = some cpu →
      cpu ∈ givenTo (buildTargetPlan topo activeDomains allowedCpusByTid rankByTid).2 before →
      ∀ allowedCpus, allowedCpusByTid[tid]? = some allowedCpus →
        ∀ other ∈ allowedCpus, ∀ domain ∈ activeDomains, InDomain topo other domain →
          other ∈ givenTo (buildTargetPlan topo activeDomains allowedCpusByTid rankByTid).2
            before := by
  intro always
  have given := always narrowTopology [0, 1] narrowAllowed narrowRanks [10] 12 [] 0
    (by decide +kernel) (by decide +kernel) ⟨10, List.mem_singleton_self 10, by decide +kernel⟩
    (.ofList [0, 1]) rfl 1 (by decide +kernel) 1 (by decide) (.inr rfl)
  obtain ⟨earlier, member, other⟩ := given
  obtain rfl := List.mem_singleton.mp member
  have first : (buildTargetPlan narrowTopology [0, 1] narrowAllowed narrowRanks).2[10]? = some 0 :=
    by decide +kernel
  rw [first] at other
  cases other

end CSwitch.Arcas
