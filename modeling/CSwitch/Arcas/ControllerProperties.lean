import CSwitch.Arcas.Controller
import CSwitch.Library.FoldPrefix
import CSwitch.Library.KeyedTotals
import CSwitch.Library.TreeSets

/-! The targets of the ARCAS controller. A plan gives a target to exactly the
threads that can reach an active domain; between two plans the controller keeps
the targets it has, whatever arrives or changes its affinity. -/

set_option autoImplicit false

namespace CSwitch.Arcas

open Std (TreeMap TreeSet)
open Policy Library

/-- The topology puts a CPU in a domain, in one of its two tables. -/
def InDomain (topo : TopologyLayout) (cpu domain : Nat) : Prop :=
  (∃ info, topo.domains[domain]? = some info ∧ cpu ∈ info.cpus) ∨
    topo.domainOfCpu cpu = some domain

/-- An affinity allows a CPU of an active domain. -/
def Reaches (topo : TopologyLayout) (activeDomains : List Nat) (allowedCpus : TreeSet Nat) : Prop :=
  ∃ cpu ∈ allowedCpus, ∃ domain ∈ activeDomains, InDomain topo cpu domain

/-! ## Slots -/

theorem exists_rotation {length index : Nat} (start : Nat) (bound : index < length) :
    ∃ offset < length, (start + offset) % length = index := by
  have positive : 0 < length := Nat.zero_lt_of_lt bound
  have reduced : start % length < length := Nat.mod_lt start positive
  refine ⟨(index + (length - start % length)) % length, Nat.mod_lt _ positive, ?_⟩
  rw [Nat.add_mod, Nat.mod_mod, ← Nat.add_mod, ← Nat.mod_add_mod,
    show start % length + (index + (length - start % length)) = index + length by omega,
    Nat.add_mod_right, Nat.mod_eq_of_lt bound]

section Slots

variable {topo : TopologyLayout} {allowedCpusByTid : CpuSetMap}

theorem mem_unionAllowedCpus {tid cpu : Nat} {allowedCpus : TreeSet Nat}
    (listed : allowedCpusByTid[tid]? = some allowedCpus) (allowed : cpu ∈ allowedCpus) :
    cpu ∈ unionAllowedCpus allowedCpusByTid := by
  refine mem_foldl_union.mpr ⟨allowedCpus, ?_, allowed⟩
  rw [KeyedTotals.values_eq_map_toList, List.mem_map]
  exact ⟨(tid, allowedCpus), TreeMap.mem_toList_iff_getElem?_eq_some.mpr listed, rfl⟩

theorem inDomain_of_slot {domain cpu : Nat} {allowedUnion : TreeSet Nat}
    (slot : cpu ∈ domainSlotCpus topo domain allowedUnion) : InDomain topo cpu domain := by
  unfold domainSlotCpus at slot
  cases found : topo.domains[domain]? with
  | none => simp [found] at slot
  | some info =>
      rw [found, Option.map_some, Option.getD_some, List.mem_filter] at slot
      exact .inl ⟨info, found, slot.1⟩

theorem mem_domainSlotCpus {domain cpu : Nat} {info : DomainInfo} {allowedUnion : TreeSet Nat}
    (found : topo.domains[domain]? = some info) (listed : cpu ∈ info.cpus)
    (allowed : cpu ∈ allowedUnion) : cpu ∈ domainSlotCpus topo domain allowedUnion := by
  simp [domainSlotCpus, found, listed, allowed]

variable {cpus : List Nat} {allowedCpus usedCpus : TreeSet Nat} {cursor : Nat}

theorem slotCpu_legal {cpu : Nat} (chosen : slotCpu cpus allowedCpus usedCpus cursor = some cpu) :
    cpu ∈ cpus ∧ cpu ∈ allowedCpus := by
  obtain ⟨allowReserved, _, chosen⟩ := List.exists_of_findSome?_eq_some chosen
  obtain ⟨slotOffset, _, chosen⟩ := List.exists_of_findSome?_eq_some chosen
  obtain ⟨found, kept⟩ := Option.filter_eq_some_iff.mp chosen
  rw [Bool.and_eq_true] at kept
  exact ⟨List.mem_of_getElem? found, kept.1⟩

theorem slotCpu_isSome {cpu : Nat} (slot : cpu ∈ cpus) (allowed : cpu ∈ allowedCpus)
    (usedCpus : TreeSet Nat) (cursor : Nat) :
    (slotCpu cpus allowedCpus usedCpus cursor).isSome := by
  obtain ⟨index, bound, found⟩ := List.getElem_of_mem slot
  obtain ⟨offset, within, rotated⟩ := exists_rotation cursor bound
  refine List.findSome?_isSome_iff.mpr ⟨true, by simp, ?_⟩
  refine List.findSome?_isSome_iff.mpr ⟨offset, List.mem_range.mpr within, ?_⟩
  rw [rotated, List.getElem?_eq_getElem bound, found]
  simp [allowed]

variable {activeDomains : List Nat} {allowedUnion : TreeSet Nat}

theorem chooseSlot_legal {plan : TargetPlan} {rank domain cpu : Nat}
    (chosen : chooseSlot topo activeDomains allowedUnion plan allowedCpus rank =
      some (domain, cpu)) :
    domain ∈ activeDomains ∧ cpu ∈ allowedCpus ∧ InDomain topo cpu domain := by
  obtain ⟨offset, _, chosen⟩ := List.exists_of_findSome?_eq_some chosen
  obtain ⟨found, active, chosen⟩ := Option.bind_eq_some_iff.mp chosen
  obtain ⟨slot, picked, same⟩ := Option.bind_eq_some_iff.mp chosen
  obtain ⟨rfl, rfl⟩ := Prod.mk.inj (Option.some.inj same)
  obtain ⟨inSlots, allowed⟩ := slotCpu_legal picked
  exact ⟨List.mem_of_getElem? active, allowed, inDomain_of_slot inSlots⟩

/-- Every active domain is tried, and every slot of it. -/
theorem chooseSlot_isSome {domain cpu : Nat} (active : domain ∈ activeDomains)
    (slot : cpu ∈ domainSlotCpus topo domain allowedUnion) (allowed : cpu ∈ allowedCpus)
    (plan : TargetPlan) (rank : Nat) :
    (chooseSlot topo activeDomains allowedUnion plan allowedCpus rank).isSome := by
  obtain ⟨index, bound, found⟩ := List.getElem_of_mem active
  obtain ⟨offset, within, rotated⟩ := exists_rotation (rank % activeDomains.length) bound
  refine List.findSome?_isSome_iff.mpr ⟨offset, List.mem_range.mpr within, ?_⟩
  obtain ⟨chosen, picked⟩ := Option.isSome_iff_exists.mp
    (slotCpu_isSome slot allowed plan.usedCpus (plan.slotCursorByDomain[domain]?.getD 0))
  rw [rotated, List.getElem?_eq_getElem bound, found]
  simp [picked]

theorem chooseAnywhere_legal {plan : TargetPlan} {domain cpu : Nat}
    (chosen : chooseAnywhere topo activeDomains plan allowedCpus = some (domain, cpu)) :
    domain ∈ activeDomains ∧ cpu ∈ allowedCpus ∧ InDomain topo cpu domain := by
  obtain ⟨allowReserved, _, chosen⟩ := List.exists_of_findSome?_eq_some chosen
  obtain ⟨found, allowed, chosen⟩ := List.exists_of_findSome?_eq_some chosen
  split at chosen
  · cases chosen
  · obtain ⟨other, active, same⟩ := Option.map_eq_some_iff.mp chosen
    obtain ⟨rfl, rfl⟩ := Prod.mk.inj same
    obtain ⟨inDomain, listed⟩ := Option.filter_eq_some_iff.mp active
    exact ⟨List.contains_iff_mem.mp listed, TreeSet.mem_toList.mp allowed, .inr inDomain⟩

theorem chooseAnywhere_isSome {domain cpu : Nat} (active : domain ∈ activeDomains)
    (inDomain : topo.domainOfCpu cpu = some domain) (allowed : cpu ∈ allowedCpus)
    (plan : TargetPlan) :
    (chooseAnywhere topo activeDomains plan allowedCpus).isSome := by
  refine List.findSome?_isSome_iff.mpr ⟨true, by simp, ?_⟩
  refine List.findSome?_isSome_iff.mpr ⟨cpu, TreeSet.mem_toList.mpr allowed, ?_⟩
  simp [inDomain, active]

end Slots

/-! ## Plans -/

section Plans

variable (topo : TopologyLayout) (activeDomains : List Nat) (allowedCpusByTid : CpuSetMap)

/-- What a plan holds for one thread: a legal target, or none because its
affinity reaches no active domain. -/
inductive TargetOf (tid : Nat) (targetDomainByTid targetCpuByTid : TreeMap Nat Nat) : Prop where
  | placed {allowedCpus : TreeSet Nat} {domain cpu : Nat} :
      allowedCpusByTid[tid]? = some allowedCpus → cpu ∈ allowedCpus → domain ∈ activeDomains →
      InDomain topo cpu domain → targetDomainByTid[tid]? = some domain →
      targetCpuByTid[tid]? = some cpu → TargetOf tid targetDomainByTid targetCpuByTid
  | unplaced :
      (∀ allowedCpus, allowedCpusByTid[tid]? = some allowedCpus →
        ¬Reaches topo activeDomains allowedCpus) →
      targetDomainByTid[tid]? = none → targetCpuByTid[tid]? = none →
      TargetOf tid targetDomainByTid targetCpuByTid

/-- What planning one thread can do. -/
inductive ThreadPlanned (tid : Nat) (plan next : TargetPlan) : Prop where
  | placed {allowedCpus : TreeSet Nat} {domain cpu : Nat} :
      allowedCpusByTid[tid]? = some allowedCpus → cpu ∈ allowedCpus → domain ∈ activeDomains →
      InDomain topo cpu domain →
      next.targetDomainByTid = plan.targetDomainByTid.insert tid domain →
      next.targetCpuByTid = plan.targetCpuByTid.insert tid cpu → ThreadPlanned tid plan next
  | unplaced :
      (∀ allowedCpus, allowedCpusByTid[tid]? = some allowedCpus →
        ¬Reaches topo activeDomains allowedCpus) →
      next = plan → ThreadPlanned tid plan next

/-- A plan under way: the threads seen have their entry, the others none. -/
structure PlannedSoFar (done : List Nat) (plan : TargetPlan) : Prop where
  seen : ∀ tid ∈ done, TargetOf topo activeDomains allowedCpusByTid tid
    plan.targetDomainByTid plan.targetCpuByTid
  unseen : ∀ tid ∉ done, plan.targetDomainByTid[tid]? = none ∧ plan.targetCpuByTid[tid]? = none

variable {topo activeDomains allowedCpusByTid} {rankByTid : TreeMap Nat Nat} {plan : TargetPlan}

theorem planThread_planned (tid : Nat) :
    ThreadPlanned topo activeDomains allowedCpusByTid tid plan
      (planThread topo activeDomains (unionAllowedCpus allowedCpusByTid) allowedCpusByTid rankByTid
        plan tid) := by
  unfold planThread
  split
  next missing =>
    refine .unplaced ?_ rfl
    intro allowedCpus listed
    rw [missing] at listed
    cases listed
  next allowedCpus listed =>
    split
    next domain cpu chosen =>
      obtain ⟨active, allowed, inDomain⟩ := chooseSlot_legal chosen
      exact .placed listed allowed active inDomain rfl rfl
    next noSlot =>
      split
      next domain cpu chosen =>
        obtain ⟨active, allowed, inDomain⟩ := chooseAnywhere_legal chosen
        exact .placed listed allowed active inDomain rfl rfl
      next nowhere =>
        refine .unplaced ?_ rfl
        rintro _ relisted ⟨cpu, allowed, domain, active, inDomain⟩
        obtain rfl := Option.some.inj (listed.symm.trans relisted)
        rcases inDomain with ⟨info, found, inInfo⟩ | byCpu
        · have slot := mem_domainSlotCpus found inInfo (mem_unionAllowedCpus listed allowed)
          have answered := chooseSlot_isSome active slot allowed plan (rankOf rankByTid tid)
          rw [noSlot] at answered
          cases answered
        · have answered := chooseAnywhere_isSome active byCpu allowed plan
          rw [nowhere] at answered
          cases answered

theorem PlannedSoFar.planThread {done : List Nat} {tid : Nat} {next : TargetPlan}
    (sofar : PlannedSoFar topo activeDomains allowedCpusByTid done plan)
    (planned : ThreadPlanned topo activeDomains allowedCpusByTid tid plan next) :
    PlannedSoFar topo activeDomains allowedCpusByTid (done ++ [tid]) next := by
  cases planned with
  | placed listed allowed active inDomain domains cpus =>
      have own : TargetOf topo activeDomains allowedCpusByTid tid
          next.targetDomainByTid next.targetCpuByTid :=
        .placed listed allowed active inDomain (by rw [domains, TreeMap.getElem?_insert_self])
          (by rw [cpus, TreeMap.getElem?_insert_self])
      have others : ∀ other, other ≠ tid →
          next.targetDomainByTid[other]? = plan.targetDomainByTid[other]? ∧
          next.targetCpuByTid[other]? = plan.targetCpuByTid[other]? := by
        intro other different
        rw [domains, cpus, TreeMap.getElem?_insert, TreeMap.getElem?_insert,
          if_neg (compare_eq_iff_eq.not.mpr different.symm),
          if_neg (compare_eq_iff_eq.not.mpr different.symm)]
        exact ⟨rfl, rfl⟩
      constructor
      · intro other member
        by_cases same : other = tid
        · exact same ▸ own
        · have before : other ∈ done := by simpa [same] using member
          obtain ⟨domainKept, cpuKept⟩ := others other same
          cases sofar.seen other before with
          | placed listed allowed active inDomain domain cpu =>
              exact .placed listed allowed active inDomain (domainKept.trans domain)
                (cpuKept.trans cpu)
          | unplaced unreached domain cpu =>
              exact .unplaced unreached (domainKept.trans domain) (cpuKept.trans cpu)
      · intro other member
        rw [List.mem_append, List.mem_singleton, not_or] at member
        obtain ⟨domainKept, cpuKept⟩ := others other member.2
        rw [domainKept, cpuKept]
        exact sofar.unseen other member.1
  | unplaced unreached same =>
      subst same
      constructor
      · intro other member
        by_cases before : other ∈ done
        · exact sofar.seen other before
        · obtain rfl : other = tid := by simpa [before] using member
          exact .unplaced unreached (sofar.unseen other before).1 (sofar.unseen other before).2
      · intro other member
        rw [List.mem_append, not_or] at member
        exact sofar.unseen other member.1

theorem mem_rankedTids {tid : Nat} :
    tid ∈ sortByKey (fun tid => toLex ((allowedCpusByTid[tid]?.map (·.size)).getD usizeMax,
        toLex (rankOf rankByTid tid, tid))) (rankedTidsForPlan allowedCpusByTid rankByTid) ↔
      tid ∈ allowedCpusByTid := by
  simp only [sortByKey, rankedTidsForPlan, List.mem_insertionSort, TreeMap.mem_keys]

/-- A plan gives every thread its target. -/
theorem buildTargetPlan_targetOf (tid : Nat) :
    TargetOf topo activeDomains allowedCpusByTid tid
      (buildTargetPlan topo activeDomains allowedCpusByTid rankByTid).1
      (buildTargetPlan topo activeDomains allowedCpusByTid rankByTid).2 := by
  unfold buildTargetPlan
  split
  next empty =>
    refine .unplaced ?_ rfl rfl
    rintro allowedCpus listed ⟨cpu, _, domain, active, _⟩
    rcases Bool.or_eq_true_iff.mp empty with noDomains | noThreads
    · rw [List.isEmpty_iff.mp noDomains] at active
      cases active
    · rw [TreeMap.getElem?_of_isEmpty noThreads] at listed
      cases listed
  · dsimp only
    generalize ranked : sortByKey (fun tid =>
      toLex ((allowedCpusByTid[tid]?.map (·.size)).getD usizeMax,
        toLex (rankOf rankByTid tid, tid))) (rankedTidsForPlan allowedCpusByTid rankByTid) = tids
    have planned : PlannedSoFar topo activeDomains allowedCpusByTid tids
        (tids.foldl (planThread topo activeDomains (unionAllowedCpus allowedCpusByTid)
          allowedCpusByTid rankByTid) {}) := by
      refine foldl_prefix_invariant _ ⟨by simp, by simp⟩ ?_
      intro done tid rest plan _ sofar
      exact sofar.planThread (planThread_planned tid)
    by_cases pending : tid ∈ tids
    · exact planned.seen tid pending
    · obtain ⟨noDomain, noCpu⟩ := planned.unseen tid pending
      refine .unplaced ?_ noDomain noCpu
      intro allowedCpus listed
      refine absurd ?_ pending
      rw [← ranked]
      exact mem_rankedTids.mpr (TreeMap.mem_iff_isSome_getElem?.mpr (by simp [listed]))

end Plans

/-! ## One call -/

section Call

variable {topo : TopologyLayout} {mapping : MappingInfo} {cfg : ArcasConfig}
  {controller : ArcasController} {call : RebalanceCall}

/-- A call plans all targets anew. -/
inductive Recomputes (topo : TopologyLayout) (mapping : MappingInfo) (cfg : ArcasConfig)
    (controller : ArcasController) (call : RebalanceCall) : Prop where
  | noDomains : controller.activeDomains = [] → Recomputes topo mapping cfg controller call
  | noDomainTargets :
      (∀ tid ∈ controller.targetDomainByTid, tid ∉ call.allowedCpusByTid) →
      Recomputes topo mapping cfg controller call
  | noCpuTargets : (∀ tid ∈ controller.targetCpuByTid, tid ∉ call.allowedCpusByTid) →
      Recomputes topo mapping cfg controller call
  | departure {tid : Nat} :
      (tid ∈ controller.rankByTid ∨ tid ∈ controller.targetDomainByTid ∨
        tid ∈ controller.targetCpuByTid) →
      tid ∉ call.allowedCpusByTid → Recomputes topo mapping cfg controller call
  | noSpread : controller.spreadDomains = 0 → Recomputes topo mapping cfg controller call
  | otherSpread :
      cfg.clampSpreadDomains
        (max (max controller.spreadDomains (minDomainsForRunnableLoad topo
          (eligibleDomainList mapping) call.allowedCpusByTid)) (max cfg.minDomains 1))
        (eligibleDomainList mapping).length ≠ controller.spreadDomains →
      Recomputes topo mapping cfg controller call
  | due : controller.ready cfg call.nowNs → Recomputes topo mapping cfg controller call

theorem rankThreads_frame (controller : ArcasController) (tids : List Nat) :
    (tids.foldl ArcasController.rankThread controller).toArcasControllerState =
        controller.toArcasControllerState ∧
      (tids.foldl ArcasController.rankThread controller).spreadDomains = controller.spreadDomains ∧
      (tids.foldl ArcasController.rankThread controller).lastAdjustNs = controller.lastAdjustNs := by
  refine List.foldlRecOn tids _ (motive := fun ranked : ArcasController =>
    ranked.toArcasControllerState = controller.toArcasControllerState ∧
      ranked.spreadDomains = controller.spreadDomains ∧
      ranked.lastAdjustNs = controller.lastAdjustNs) ⟨rfl, rfl, rfl⟩ ?_
  intro ranked kept tid _
  unfold ArcasController.rankThread
  split <;> exact kept

section Spread

variable {state : Rebalancing} {capacityFloor eligibleLen : Nat}

/-- Of the controller, the filling of an empty spread changes the spread only. -/
theorem fillSpread_onlySpread (state : Rebalancing) (cfg : ArcasConfig)
    (capacityFloor eligibleLen : Nat) :
    ∃ spreadDomains, (state.fillSpread cfg capacityFloor eligibleLen).controller =
      { state.controller with spreadDomains } := by
  unfold Rebalancing.fillSpread
  split <;> exact ⟨_, rfl⟩

theorem fillSpread_frame :
    (state.fillSpread cfg capacityFloor eligibleLen).controller.toArcasControllerState =
      state.controller.toArcasControllerState := by
  obtain ⟨spread, changed⟩ := fillSpread_onlySpread state cfg capacityFloor eligibleLen
  rw [changed]

theorem fillSpread_ready (nowNs : Nat) :
    (state.fillSpread cfg capacityFloor eligibleLen).controller.ready cfg nowNs =
      state.controller.ready cfg nowNs := by
  obtain ⟨spread, changed⟩ := fillSpread_onlySpread state cfg capacityFloor eligibleLen
  rw [changed]
  rfl

theorem fillSpread_of_zero (empty : state.controller.spreadDomains = 0) :
    (state.fillSpread cfg capacityFloor eligibleLen).refreshTargets = true := by
  unfold Rebalancing.fillSpread
  rw [if_pos empty]

theorem fillSpread_of_ne (filled : state.controller.spreadDomains ≠ 0) :
    state.fillSpread cfg capacityFloor eligibleLen = state :=
  if_neg filled

theorem requireSpread_onlySpread (state : Rebalancing) (cfg : ArcasConfig)
    (capacityFloor eligibleLen : Nat) :
    ∃ spreadDomains, (state.requireSpread cfg capacityFloor eligibleLen).controller =
      { state.controller with spreadDomains } := by
  unfold Rebalancing.requireSpread
  dsimp only
  split <;> exact ⟨_, rfl⟩

theorem requireSpread_frame :
    (state.requireSpread cfg capacityFloor eligibleLen).controller.toArcasControllerState =
      state.controller.toArcasControllerState := by
  obtain ⟨spread, changed⟩ := requireSpread_onlySpread state cfg capacityFloor eligibleLen
  rw [changed]

theorem requireSpread_refresh_iff :
    (state.requireSpread cfg capacityFloor eligibleLen).refreshTargets = true ↔
      state.refreshTargets = true ∨ cfg.clampSpreadDomains
        (max (max state.controller.spreadDomains capacityFloor) (max cfg.minDomains 1)) eligibleLen ≠
          state.controller.spreadDomains := by
  unfold Rebalancing.requireSpread
  dsimp only
  split
  next changed => exact ⟨fun _ => .inr changed, fun _ => rfl⟩
  next same => exact ⟨.inl, fun either => either.resolve_right same⟩

end Spread

/-- The first part of a call keeps the active domains, and of the targets those
of pending threads. -/
theorem adjustSpread_frame :
    (adjustSpread topo mapping cfg controller call).controller.toArcasControllerState =
      (controller.retain call.allowedCpusByTid).toArcasControllerState := by
  unfold adjustSpread
  dsimp only
  split
  · exact requireSpread_frame.trans (fillSpread_frame.trans (rankThreads_frame _ _).1)
  · exact requireSpread_frame.trans (fillSpread_frame.trans (rankThreads_frame _ _).1)

theorem isEmpty_retained_iff {targets : TreeMap Nat Nat} {allowedCpusByTid : CpuSetMap} :
    (targets.filter fun tid _ => allowedCpusByTid.contains tid).isEmpty = true ↔
      ∀ tid ∈ targets, tid ∉ allowedCpusByTid := by
  rw [TreeMap.isEmpty_iff_forall_not_mem]
  simp [TreeMap.mem_filter]

theorem size_retained_eq_iff {targets : TreeMap Nat Nat} {allowedCpusByTid : CpuSetMap} :
    (targets.filter fun tid _ => allowedCpusByTid.contains tid).size = targets.size ↔
      ∀ tid ∈ targets, tid ∈ allowedCpusByTid := by
  rw [TreeMap.size_filter_eq_size_iff]
  simp

/-- Pruning is noticed when some thread that is not pending had a rank or a
target. -/
theorem prunedState_iff {allowedCpusByTid : CpuSetMap} :
    controller.prunedState (controller.retain allowedCpusByTid) = true ↔
      ∃ tid, (tid ∈ controller.rankByTid ∨ tid ∈ controller.targetDomainByTid ∨
        tid ∈ controller.targetCpuByTid) ∧ tid ∉ allowedCpusByTid := by
  have dropped : ∀ targets : TreeMap Nat Nat,
      (targets.size != (targets.filter fun tid _ => allowedCpusByTid.contains tid).size) = true ↔
        ∃ tid ∈ targets, tid ∉ allowedCpusByTid := by
    intro targets
    rw [bne_iff_ne, ne_comm, ne_eq, size_retained_eq_iff]
    push Not
    rfl
  simp only [ArcasController.prunedState, ArcasController.retain, Bool.or_eq_true, dropped,
    or_and_right, exists_or, or_assoc]

/-- Whether targets are missing, in terms of the controller before the call. -/
theorem needsTargets_iff {ranked : ArcasController} {allowedCpusByTid : CpuSetMap}
    (frame : ranked.toArcasControllerState =
      (controller.retain allowedCpusByTid).toArcasControllerState) :
    ranked.needsTargets = true ↔ controller.activeDomains = [] ∨
      (∀ tid ∈ controller.targetDomainByTid, tid ∉ allowedCpusByTid) ∨
      ∀ tid ∈ controller.targetCpuByTid, tid ∉ allowedCpusByTid := by
  unfold ArcasController.needsTargets
  rw [frame, Bool.or_eq_true, Bool.or_eq_true, or_assoc]
  exact or_congr List.isEmpty_iff (or_congr isEmpty_retained_iff isEmpty_retained_iff)

theorem adjustSpread_refresh_iff :
    (adjustSpread topo mapping cfg controller call).refreshTargets = true ↔
      Recomputes topo mapping cfg controller call := by
  obtain ⟨frame, spread, lastAdjust⟩ := rankThreads_frame
    (controller.retain call.allowedCpusByTid) call.allowedCpusByTid.keys
  unfold adjustSpread
  dsimp only
  generalize call.allowedCpusByTid.keys.foldl ArcasController.rankThread
    (controller.retain call.allowedCpusByTid) = ranked at frame spread lastAdjust ⊢
  have sameReady : ranked.ready cfg call.nowNs = controller.ready cfg call.nowNs := by
    simp only [ArcasController.ready, lastAdjust, ArcasController.retain]
  rw [fillSpread_ready, sameReady]
  split
  next ready => exact ⟨fun _ => .due ready, fun _ => rfl⟩
  next early =>
    rw [requireSpread_refresh_iff]
    rcases Nat.eq_zero_or_pos controller.spreadDomains with empty | filled
    · exact ⟨fun _ => .noSpread empty, fun _ => .inl (fillSpread_of_zero (spread.trans empty))⟩
    · rw [fillSpread_of_ne (spread.trans_ne filled.ne')]
      have sameSpread : ranked.spreadDomains = controller.spreadDomains := spread
      rw [sameSpread, Bool.or_eq_true, needsTargets_iff frame, prunedState_iff]
      constructor
      · rintro (((none | none | none) | ⟨tid, known, gone⟩) | changed)
        · exact .noDomains none
        · exact .noDomainTargets none
        · exact .noCpuTargets none
        · exact .departure known gone
        · exact .otherSpread changed
      · intro recomputes
        cases recomputes with
        | noDomains none => exact .inl (.inl (.inl none))
        | noDomainTargets none => exact .inl (.inl (.inr (.inl none)))
        | noCpuTargets none => exact .inl (.inl (.inr (.inr none)))
        | departure known gone => exact .inl (.inr ⟨_, known, gone⟩)
        | noSpread empty => exact absurd empty filled.ne'
        | otherSpread changed => exact .inr changed
        | due ready => exact absurd ready early

/-! ## Current targets -/

/-- Exactly the pending threads that reach an active domain have targets, and
every target CPU is one that its thread may use, in its target domain. -/
structure TargetsCurrent (topo : TopologyLayout) (allowedCpusByTid : CpuSetMap)
    (controller : ArcasController) : Prop where
  domains : ∀ tid, tid ∈ controller.targetDomainByTid ↔ ∃ allowedCpus,
    allowedCpusByTid[tid]? = some allowedCpus ∧ Reaches topo controller.activeDomains allowedCpus
  cpus : ∀ tid, tid ∈ controller.targetCpuByTid ↔ ∃ allowedCpus,
    allowedCpusByTid[tid]? = some allowedCpus ∧ Reaches topo controller.activeDomains allowedCpus
  legal : ∀ tid domain cpu : Nat, controller.targetDomainByTid[tid]? = some domain →
    controller.targetCpuByTid[tid]? = some cpu → ∃ allowedCpus : TreeSet Nat,
      allowedCpusByTid[tid]? = some allowedCpus ∧ cpu ∈ allowedCpus ∧ InDomain topo cpu domain

/-- The two targets of one thread: both, in an active domain, or neither. -/
inductive PairedTarget (topo : TopologyLayout) (controller : ArcasController) (tid : Nat) : Prop where
  | both {domain cpu : Nat} :
      controller.targetDomainByTid[tid]? = some domain →
      controller.targetCpuByTid[tid]? = some cpu → domain ∈ controller.activeDomains →
      InDomain topo cpu domain → PairedTarget topo controller tid
  | neither : controller.targetDomainByTid[tid]? = none →
      controller.targetCpuByTid[tid]? = none → PairedTarget topo controller tid

/-- No thread has arrived without a target, and no target CPU has been lost. -/
structure AlreadyPlanned (topo : TopologyLayout) (controller : ArcasController)
    (allowedCpusByTid : CpuSetMap) : Prop where
  arrived : ∀ tid allowedCpus, allowedCpusByTid[tid]? = some allowedCpus →
    Reaches topo controller.activeDomains allowedCpus → tid ∈ controller.targetCpuByTid
  stillAllowed : ∀ (tid cpu : Nat) (allowedCpus : TreeSet Nat), controller.targetCpuByTid[tid]? = some cpu →
    allowedCpusByTid[tid]? = some allowedCpus → cpu ∈ allowedCpus

theorem retarget_targetOf (eligible : List Nat) (tid : Nat) :
    TargetOf topo (controller.retarget topo eligible call.allowedCpusByTid cfg).activeDomains
      call.allowedCpusByTid tid
      (controller.retarget topo eligible call.allowedCpusByTid cfg).targetDomainByTid
      (controller.retarget topo eligible call.allowedCpusByTid cfg).targetCpuByTid :=
  buildTargetPlan_targetOf tid

theorem targetsCurrent_of_targetOf {allowedCpusByTid : CpuSetMap}
    (planned : ∀ tid, TargetOf topo controller.activeDomains allowedCpusByTid tid
      controller.targetDomainByTid controller.targetCpuByTid) :
    TargetsCurrent topo allowedCpusByTid controller := by
  constructor
  · intro tid
    rw [TreeMap.mem_iff_isSome_getElem?]
    cases planned tid with
    | placed listed allowed active inDomain domain _ =>
        simp only [domain, Option.isSome_some, true_iff]
        exact ⟨_, listed, _, allowed, _, active, inDomain⟩
    | unplaced unreached domain _ =>
        simp only [domain, Option.isSome_none, Bool.false_eq_true, false_iff]
        rintro ⟨allowedCpus, listed, reaches⟩
        exact unreached allowedCpus listed reaches
  · intro tid
    rw [TreeMap.mem_iff_isSome_getElem?]
    cases planned tid with
    | placed listed allowed active inDomain _ cpu =>
        simp only [cpu, Option.isSome_some, true_iff]
        exact ⟨_, listed, _, allowed, _, active, inDomain⟩
    | unplaced unreached _ cpu =>
        simp only [cpu, Option.isSome_none, Bool.false_eq_true, false_iff]
        rintro ⟨allowedCpus, listed, reaches⟩
        exact unreached allowedCpus listed reaches
  · intro tid domain cpu targetDomain targetCpu
    cases planned tid with
    | placed listed allowed active inDomain found chosen =>
        obtain rfl := Option.some.inj (found.symm.trans targetDomain)
        obtain rfl := Option.some.inj (chosen.symm.trans targetCpu)
        exact ⟨_, listed, allowed, inDomain⟩
    | unplaced _ found _ =>
        rw [found] at targetDomain
        cases targetDomain

theorem pairedTarget_of_targetOf {allowedCpusByTid : CpuSetMap} {tid : Nat}
    (planned : TargetOf topo controller.activeDomains allowedCpusByTid tid
      controller.targetDomainByTid controller.targetCpuByTid) :
    PairedTarget topo controller tid := by
  cases planned with
  | placed _ _ active inDomain domain cpu => exact .both domain cpu active inDomain
  | unplaced _ domain cpu => exact .neither domain cpu

theorem getElem?_retained {targets : TreeMap Nat Nat} {allowedCpusByTid : CpuSetMap} (tid : Nat) :
    (targets.filter fun tid _ => allowedCpusByTid.contains tid)[tid]? =
      if tid ∈ allowedCpusByTid then targets[tid]? else none := by
  rw [TreeMap.getElem?_filter']
  cases targets[tid]? with
  | none => simp
  | some target =>
      by_cases pending : tid ∈ allowedCpusByTid <;> simp [pending]

/-- What a call can do to the targets: plan them anew, or keep those of the
pending threads. -/
inductive Rebalanced (topo : TopologyLayout) (mapping : MappingInfo) (cfg : ArcasConfig)
    (controller : ArcasController) (call : RebalanceCall) (next : ArcasController) : Prop where
  | planned : Recomputes topo mapping cfg controller call →
      (∀ tid, TargetOf topo next.activeDomains call.allowedCpusByTid tid
        next.targetDomainByTid next.targetCpuByTid) →
      (∀ domain ∈ next.activeDomains, domain ∈ mapping.eligibleDomains) →
      Rebalanced topo mapping cfg controller call next
  | kept : ¬Recomputes topo mapping cfg controller call →
      next.toArcasControllerState =
        (controller.retain call.allowedCpusByTid).toArcasControllerState →
      Rebalanced topo mapping cfg controller call next

theorem mem_sampleDomains {candidates : List Nat} {desired domain : Nat}
    (sampled : domain ∈ sampleDomains candidates desired) : domain ∈ candidates := by
  have invariant : ∀ domain ∈ sampleDomains candidates desired, domain ∈ candidates := by
    refine List.foldlRecOn _ _ (motive := fun selected : List Nat =>
      ∀ domain ∈ selected, domain ∈ candidates) (by simp) ?_
    intro selected sound index _
    split
    · exact sound
    next found listed =>
      split
      · exact sound
      · intro other member
        rcases List.mem_append.mp member with before | here
        · exact sound other before
        · obtain rfl := List.mem_singleton.mp here
          exact List.mem_of_getElem? listed
  exact invariant domain sampled

theorem mem_candidateDomains {eligible : List Nat} {allowedUnion : TreeSet Nat} {domain : Nat}
    (candidate : domain ∈ candidateDomains topo eligible allowedUnion) : domain ∈ eligible := by
  unfold candidateDomains at candidate
  dsimp only at candidate
  split at candidate
  · exact candidate
  · exact (List.mem_filter.mp candidate).1

/-- The active domains are chosen among the eligible ones. -/
theorem mem_selectActiveDomains {eligible : List Nat} {allowedCpusByTid : CpuSetMap}
    {spread domain : Nat}
    (active : domain ∈ selectActiveDomains topo eligible allowedCpusByTid spread) :
    domain ∈ eligible := by
  unfold selectActiveDomains at active
  split at active
  · cases active
  · dsimp only at active
    split at active
    · exact mem_candidateDomains active
    · split at active
      · exact mem_candidateDomains (mem_sampleDomains active)
      · exact mem_candidateDomains
          ((List.mem_insertionSort _).mp (List.mem_of_mem_take active))

theorem rebalanceStep_cases (topo : TopologyLayout) (cfg : ArcasConfig)
    (controller : ArcasController) (call : RebalanceCall)
    (eligible : mapping.eligibleDomains.isEmpty = false) :
    Rebalanced topo mapping cfg controller call
      (rebalanceStep topo mapping cfg controller call) := by
  have domains : ((eligibleDomainList mapping).isEmpty) = false := by
    rw [eligibleDomainList, TreeSet.isEmpty_toList, eligible]
  unfold rebalanceStep maybeRebalance
  simp only [domains, Bool.false_eq_true, if_false]
  split
  next refresh =>
    refine .planned (adjustSpread_refresh_iff.mp refresh) (fun tid => retarget_targetOf _ tid) ?_
    intro domain active
    exact TreeSet.mem_toList.mp (mem_selectActiveDomains active)
  next keep =>
    exact .kept (fun recomputes => keep (adjustSpread_refresh_iff.mpr recomputes))
      adjustSpread_frame

theorem PairedTarget.retain {tid : Nat} (paired : PairedTarget topo controller tid)
    (allowedCpusByTid : CpuSetMap) :
    PairedTarget topo (controller.retain allowedCpusByTid) tid := by
  by_cases pending : tid ∈ allowedCpusByTid
  · have same : ∀ targets : TreeMap Nat Nat,
        (targets.filter fun tid _ => allowedCpusByTid.contains tid)[tid]? = targets[tid]? := by
      intro targets
      rw [getElem?_retained, if_pos pending]
    cases paired with
    | both domain cpu active inDomain =>
        exact .both ((same _).trans domain) ((same _).trans cpu) active inDomain
    | neither domain cpu => exact .neither ((same _).trans domain) ((same _).trans cpu)
  · have gone : ∀ targets : TreeMap Nat Nat,
        (targets.filter fun tid _ => allowedCpusByTid.contains tid)[tid]? = none := by
      intro targets
      rw [getElem?_retained, if_neg pending]
    exact .neither (gone _) (gone _)

theorem PairedTarget.of_frame {next : ArcasController} {tid : Nat}
    (paired : PairedTarget topo controller tid)
    (frame : next.toArcasControllerState = controller.toArcasControllerState) :
    PairedTarget topo next tid := by
  cases paired with
  | both domain cpu active inDomain =>
      exact .both (frame ▸ domain) (frame ▸ cpu) (frame ▸ active) inDomain
  | neither domain cpu => exact .neither (frame ▸ domain) (frame ▸ cpu)

theorem rebalanceStep_paired (eligible : mapping.eligibleDomains.isEmpty = false)
    (paired : ∀ tid, PairedTarget topo controller tid) (tid : Nat) :
    PairedTarget topo (rebalanceStep topo mapping cfg controller call) tid := by
  cases rebalanceStep_cases topo cfg controller call eligible with
  | planned _ planned _ => exact pairedTarget_of_targetOf (planned tid)
  | kept _ frame => exact ((paired tid).retain call.allowedCpusByTid).of_frame frame

/-- Kept targets are current exactly when they still fit: no one has left, so
only arrivals and affinities count. -/
theorem kept_current_iff {next : ArcasController}
    (paired : ∀ tid, PairedTarget topo controller tid)
    (pending : ∀ tid ∈ controller.targetDomainByTid, tid ∈ call.allowedCpusByTid)
    (frame : next.toArcasControllerState =
      (controller.retain call.allowedCpusByTid).toArcasControllerState) :
    TargetsCurrent topo call.allowedCpusByTid next ↔
      AlreadyPlanned topo controller call.allowedCpusByTid := by
  have kept : ∀ (targets : TreeMap Nat Nat) (tid : Nat), (tid ∈ targets → tid ∈ call.allowedCpusByTid) →
      (targets.filter fun tid _ => call.allowedCpusByTid.contains tid)[tid]? = targets[tid]? := by
    intro targets tid stays
    rw [getElem?_retained]
    split
    · rfl
    next gone => exact (TreeMap.getElem?_eq_none (mt stays gone)).symm
  have pendingCpu : ∀ tid ∈ controller.targetCpuByTid, tid ∈ call.allowedCpusByTid := by
    intro tid targeted
    rw [TreeMap.mem_iff_isSome_getElem?] at targeted
    cases paired tid with
    | both domain _ _ _ => exact pending tid (TreeMap.mem_iff_isSome_getElem?.mpr (by simp [domain]))
    | neither _ cpu =>
        rw [cpu] at targeted
        cases targeted
  have active : next.activeDomains = controller.activeDomains := congrArg (·.activeDomains) frame
  have domains : ∀ tid : Nat, next.targetDomainByTid[tid]? = controller.targetDomainByTid[tid]? :=
    fun tid => (congrArg (·.targetDomainByTid[tid]?) frame).trans (kept _ tid (pending tid))
  have cpus : ∀ tid : Nat, next.targetCpuByTid[tid]? = controller.targetCpuByTid[tid]? :=
    fun tid => (congrArg (·.targetCpuByTid[tid]?) frame).trans (kept _ tid (pendingCpu tid))
  constructor
  · intro current
    constructor
    · intro tid allowedCpus listed reaches
      have targeted := (current.cpus tid).mpr ⟨allowedCpus, listed, active ▸ reaches⟩
      rwa [TreeMap.mem_iff_isSome_getElem?, cpus, ← TreeMap.mem_iff_isSome_getElem?] at targeted
    · intro tid cpu allowedCpus targetCpu listed
      cases paired tid with
      | both domain _ _ _ =>
          obtain ⟨allowedNow, listedNow, allowed, _⟩ := current.legal tid _ cpu
            ((domains tid).trans domain) ((cpus tid).trans targetCpu)
          obtain rfl := Option.some.inj (listed.symm.trans listedNow)
          exact allowed
      | neither _ missing =>
          rw [missing] at targetCpu
          cases targetCpu
  · intro planned
    refine targetsCurrent_of_targetOf fun tid => ?_
    cases paired tid with
    | both domain cpu inActive inDomain =>
        have listed := pending tid (TreeMap.mem_iff_isSome_getElem?.mpr (by simp [domain]))
        rw [TreeMap.mem_iff_isSome_getElem?] at listed
        obtain ⟨allowedCpus, listed⟩ := Option.isSome_iff_exists.mp listed
        exact .placed listed (planned.stillAllowed tid _ allowedCpus cpu listed) (active ▸ inActive)
          inDomain ((domains tid).trans domain) ((cpus tid).trans cpu)
    | neither domain cpu =>
        refine .unplaced ?_ ((domains tid).trans domain) ((cpus tid).trans cpu)
        intro allowedCpus listed reaches
        have targeted := planned.arrived tid allowedCpus listed (active ▸ reaches)
        rw [TreeMap.mem_iff_isSome_getElem?, cpu] at targeted
        cases targeted

/-- A call leaves current targets exactly when it plans anew, or the targets it
keeps still fit the pending threads. -/
theorem rebalanceStep_current_iff (eligible : mapping.eligibleDomains.isEmpty = false)
    (paired : ∀ tid, PairedTarget topo controller tid) :
    TargetsCurrent topo call.allowedCpusByTid (rebalanceStep topo mapping cfg controller call) ↔
      Recomputes topo mapping cfg controller call ∨
        AlreadyPlanned topo controller call.allowedCpusByTid := by
  cases rebalanceStep_cases topo cfg controller call eligible with
  | planned recomputes planned _ =>
      exact ⟨fun _ => .inl recomputes, fun _ => targetsCurrent_of_targetOf planned⟩
  | kept still frame =>
      have pending : ∀ tid ∈ controller.targetDomainByTid, tid ∈ call.allowedCpusByTid := by
        intro tid targeted
        by_contra gone
        exact still (.departure (.inr (.inl targeted)) gone)
      rw [kept_current_iff paired pending frame]
      exact ⟨.inr, fun either => either.resolve_left still⟩

end Call

/-! ## Runs -/

section Runs

variable {topo : TopologyLayout} {mapping : MappingInfo} {cfg : ArcasConfig}

theorem rebalanceRun_append (calls : List RebalanceCall) (call : RebalanceCall) :
    rebalanceRun topo mapping cfg (calls ++ [call]) =
      rebalanceStep topo mapping cfg (rebalanceRun topo mapping cfg calls) call :=
  List.foldl_append

theorem rebalanceRun_paired (eligible : mapping.eligibleDomains.isEmpty = false)
    (calls : List RebalanceCall) (tid : Nat) :
    PairedTarget topo (rebalanceRun topo mapping cfg calls) tid := by
  induction calls using List.reverseRecOn generalizing tid with
  | nil => exact .neither rfl rfl
  | append_singleton calls call ih =>
      rw [rebalanceRun_append]
      exact rebalanceStep_paired eligible ih tid

/-- In every run, the targets after a call are those of the threads pending then
exactly when the call plans anew, or every thread that reaches an active domain
has a target already and no target CPU has been lost. -/
theorem rebalanceRun_current_iff (topo : TopologyLayout) (mapping : MappingInfo) (cfg : ArcasConfig)
    (eligible : mapping.eligibleDomains.isEmpty = false) (calls : List RebalanceCall)
    (call : RebalanceCall) :
    TargetsCurrent topo call.allowedCpusByTid (rebalanceRun topo mapping cfg (calls ++ [call])) ↔
      Recomputes topo mapping cfg (rebalanceRun topo mapping cfg calls) call ∨
        AlreadyPlanned topo (rebalanceRun topo mapping cfg calls) call.allowedCpusByTid := by
  rw [rebalanceRun_append]
  exact rebalanceStep_current_iff eligible (rebalanceRun_paired eligible calls)

end Runs

/-! One domain of two CPUs; a second thread arrives one millisecond after the
first was planned. -/

def lateTopology : TopologyLayout where
  nrCpuIds := 2
  domains := [{ domainId := 0, cpus := [0, 1] }]
  cpuToDomain := [some 0, some 0]

def lateConfig : ArcasConfig where
  intervalMs := 100
  remoteFillThresholdMibSX100 := 300000
  minDomains := 1
  maxDomains := 0
  step := 1

def firstCall : RebalanceCall where
  threads := ∅
  allowedCpusByTid := (∅ : CpuSetMap).insert 10 (.ofList [0, 1])
  nowNs := 10000000

def lateCall : RebalanceCall where
  threads := ∅
  allowedCpusByTid := firstCall.allowedCpusByTid.insert 11 (.ofList [0, 1])
  nowNs := 11000000

def lateMapping : MappingInfo where
  domainToCcx := [0]
  domainToCcm := [none]
  domainToDfCapacityMibSX100 := []
  csLinkCapacityMibSX100 := []
  eligibleDomains := .ofList [0]
  excludedDomains := ∅
  eligibleCpus := .ofList [0, 1]

/-- Once the interval has passed, a call with the same threads. -/
def dueCall : RebalanceCall := { lateCall with nowNs := 120000000 }

theorem dueCall_listed {tid : Nat} {allowedCpus : TreeSet Nat}
    (listed : dueCall.allowedCpusByTid[tid]? = some allowedCpus) :
    (tid = 10 ∨ tid = 11) ∧ allowedCpus = .ofList [0, 1] := by
  change ((((∅ : CpuSetMap).insert 10 (.ofList [0, 1])).insert 11
    (.ofList [0, 1]))[tid]?) = some allowedCpus at listed
  rw [TreeMap.getElem?_insert] at listed
  split at listed
  next late =>
    exact ⟨.inr (compare_eq_iff_eq.mp late).symm, (Option.some.inj listed).symm⟩
  · rw [TreeMap.getElem?_insert] at listed
    split at listed
    next first =>
      exact ⟨.inl (compare_eq_iff_eq.mp first).symm, (Option.some.inj listed).symm⟩
    · rw [TreeMap.getElem?_emptyc] at listed
      cases listed

/-- The call that is due targets both threads, and so does a repetition of it that
plans nothing. -/
theorem rebalanceRun_current_iff_due :
    TargetsCurrent lateTopology dueCall.allowedCpusByTid
        (rebalanceRun lateTopology lateMapping lateConfig ([firstCall, lateCall] ++ [dueCall])) ∧
      TargetsCurrent lateTopology dueCall.allowedCpusByTid
        (rebalanceRun lateTopology lateMapping lateConfig
          ([firstCall, lateCall, dueCall] ++ [dueCall])) := by
  refine ⟨(rebalanceRun_current_iff lateTopology lateMapping lateConfig (by decide +kernel)
    [firstCall, lateCall] dueCall).mpr (.inl (.due (by decide +kernel))),
    (rebalanceRun_current_iff lateTopology lateMapping lateConfig (by decide +kernel)
      [firstCall, lateCall, dueCall] dueCall).mpr (.inr ⟨?_, ?_⟩)⟩
  · intro tid allowedCpus listed _
    obtain ⟨rfl | rfl, _⟩ := dueCall_listed listed
    · decide +kernel
    · decide +kernel
  · intro tid cpu allowedCpus targeted listed
    obtain ⟨rfl | rfl, rfl⟩ := dueCall_listed listed
    · have given : (rebalanceRun lateTopology lateMapping lateConfig
          [firstCall, lateCall, dueCall]).targetCpuByTid[(10 : Nat)]? = some 0 := by decide +kernel
      obtain rfl := Option.some.inj (given.symm.trans targeted)
      decide +kernel
    · have given : (rebalanceRun lateTopology lateMapping lateConfig
          [firstCall, lateCall, dueCall]).targetCpuByTid[(11 : Nat)]? = some 1 := by decide +kernel
      obtain rfl := Option.some.inj (given.symm.trans targeted)
      decide +kernel

/-- The second thread can reach the active domain and gets no target. -/
theorem rebalanceRun_misses_arrival :
    ¬TargetsCurrent lateTopology lateCall.allowedCpusByTid
      (rebalanceRun lateTopology lateMapping lateConfig [firstCall, lateCall]) := by
  intro current
  have reaches : Reaches lateTopology
      (rebalanceRun lateTopology lateMapping lateConfig [firstCall, lateCall]).activeDomains
      (.ofList [0, 1]) := by
    refine ⟨0, by decide +kernel, 0, by decide +kernel, .inr rfl⟩
  have targeted := (current.cpus 11).mpr ⟨.ofList [0, 1], rfl, reaches⟩
  exact absurd targeted (by decide +kernel)

end CSwitch.Arcas
