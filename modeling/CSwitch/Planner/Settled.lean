import CSwitch.Planner.Uncongested

/-! A settled state: all items at home, and every domain able to carry what is
live there and what is at home there. The plan of an uncongested snapshot starts
from such a state. -/

set_option autoImplicit false

namespace CSwitch.Planner

open Library
open Std (TreeMap TreeSet)
open Policy

/-- A domain that carries its live bandwidth and a load at home. -/
structure DomainModel.Carries (model : DomainModel) (load : Nat) : Prop where
  live : model.liveDfX100 ≤ model.dfCapacityMibSX100
  homed : load ≤ model.dfCapacityMibSX100
  capacity : model.dfCapacityMibSX100 ≤ u32Max
  managed : model.currentManagedDfX100 = load
  item : model.currentItemDfX100 = load

structure PlannerState.Settled (state : PlannerState) (load : Nat → Nat) : Prop where
  partitioned : state.Partitioned
  unmoved : ∀ (index : Nat) assignment, state.assignments[index]? = some assignment →
    assignment = .currentHome
  based : ∀ (tid : Nat) member, state.members[tid]? = some member →
    member.baselineDomain = member.currentDomain
  homes : ∀ (index : Nat) item, state.items[index]? = some item →
    ∃ home, ItemHome state item home
  loads : ∀ domain, tallySum (itemMembers state.members state.items) (·.currentDomain)
    (·.effectDfX100) domain = load domain
  models : ∀ (domain : Nat) model, state.domains[domain]? = some model → model.Carries (load domain)
  counts : ∀ domain < state.domains.length, predictedTaskCount state domain =
    memberCount state fun member => member.active && decide (member.currentDomain = some domain)
  calm : state.hardConstraints = {}

/-! ## Uncongested snapshots -/

section Uncongested

variable {features : BuildFeatures} {config : PlannerConfig} {snapshot : PlannerInput}

theorem tallySum_congr {α : Type} {entries : List α} {left right : α → Option Nat}
    (same : ∀ entry ∈ entries, left entry = right entry) (weight : α → Nat) (domain : Nat) :
    tallySum entries left weight domain = tallySum entries right weight domain := by
  unfold tallySum
  congr 2
  refine List.filter_congr ?_
  intro entry listed
  rw [same entry listed]

theorem global_counts (inRange : snapshot.InRange) {domain : Nat}
    (bound : domain < snapshot.topo.domains.length) :
    predictedTaskCount (buildState features config snapshot .global) domain =
      memberCount (buildState features config snapshot .global) fun member =>
        member.active && decide (member.currentDomain = some domain) := by
  have valid := buildState_partitioned features config snapshot .global
  have size : (buildState features config snapshot .global).members.values.length =
      snapshot.threads.size := buildMembers_length config snapshot .global
  have scored := predictedTaskCount_add valid rfl (by rw [size]; exact inRange.threads) bound
  have viewed : ∀ member ∈ (buildState features config snapshot .global).members.values,
      (buildState features config snapshot .global).members[member.tid]? = some member :=
    fun member listed => (mem_values valid.keyed).mp listed
  have based : (memberCount (buildState features config snapshot .global) fun member =>
      member.active && decide (member.baselineDomain = some domain)) =
      memberCount (buildState features config snapshot .global) fun member =>
        member.active && decide (member.currentDomain = some domain) := by
    refine List.countP_congr ?_
    intro member listed
    rw [global_baseline features config snapshot (viewed member listed)]
  have stays : (memberCount (buildState features config snapshot .global) fun member =>
      member.active && decide (member.baselineDomain = some domain) &&
        inItem (buildState features config snapshot .global) member) =
      memberCount (buildState features config snapshot .global) fun member =>
        member.active && decide (effectiveMemberDomain member.tid
          (buildState features config snapshot .global) = some domain) &&
            inItem (buildState features config snapshot .global) member := by
    refine List.countP_congr ?_
    intro member listed
    cases active : member.active with
    | false => simp
    | true =>
        rw [global_baseline features config snapshot (viewed member listed),
          global_effective features config snapshot (viewed member listed) active]
  omega

theorem Uncongested.settled (uncongested : Uncongested features config snapshot)
    (inRange : snapshot.InRange) :
    (buildState features config snapshot .global).Settled snapshot.homedDf where
  partitioned := buildState_partitioned features config snapshot .global
  unmoved index assignment found := by
    change ((buildState features config snapshot .global).items.map
      fun _ => Assignment.currentHome)[index]? = some assignment at found
    rw [List.getElem?_map] at found
    obtain ⟨item, _, same⟩ := Option.map_eq_some_iff.mp found
    exact same.symm
  based _ _ found := global_baseline features config snapshot found
  homes _ _ stored := global_itemHome uncongested inRange stored
  loads domain := tallySum_itemMembers features config snapshot domain
  models domain model found := by
    have bound : domain < snapshot.topo.domains.length := by
      have inside := (List.getElem?_eq_some_iff.mp found).1
      simpa [buildState, buildDomains] using inside
    have homed := uncongested.homed domain bound
    have capacity := inRange.capacities domain
    have valid := buildState_partitioned features config snapshot .global
    have managed : tallySum ((buildState features config snapshot .global).members.values.filter
        (·.active)) (·.baselineDomain) (·.effectDfX100) domain = snapshot.homedDf domain := by
      rw [← tallySum_active features config snapshot domain]
      refine tallySum_congr ?_ _ _
      intro member listed
      exact global_baseline features config snapshot
        ((mem_values valid.keyed).mp (List.mem_filter.mp listed).1)
    have item : tallySum (itemMembers (buildState features config snapshot .global).members
        (buildState features config snapshot .global).items) (·.baselineDomain) (·.effectDfX100)
        domain = snapshot.homedDf domain := by
      rw [← tallySum_itemMembers features config snapshot domain]
      refine tallySum_congr ?_ _ _
      intro member listed
      obtain ⟨tid, _, viewed⟩ := List.mem_filterMap.mp listed
      exact global_baseline features config snapshot viewed
    change (buildDomains snapshot _ _)[domain]? = some model at found
    simp only [buildDomains, List.getElem?_map, List.getElem?_range bound, Option.map_some,
      Option.some.injEq] at found
    subst found
    refine ⟨uncongested.live domain bound, homed, capacity, ?_, ?_⟩
    · have fits : snapshot.homedDf domain ≤ u32Max := homed.trans capacity
      exact (tally_getD bound (managed ▸ fits)).trans managed
    · have fits : snapshot.homedDf domain ≤ u32Max := homed.trans capacity
      exact (tally_getD bound (item ▸ fits)).trans item
  counts domain bound := by
    refine global_counts inRange ?_
    simpa [buildState, buildDomains] using bound
  calm := uncongested.calm

end Uncongested

/-! ## Slots -/

theorem PredictedSlots.add_tasks (slots : PredictedSlots) (cpus : TreeSet Nat) :
    (slots.add cpus).affinityGroups.values.foldl (· + ·) 0 =
      slots.affinityGroups.values.foldl (· + ·) 0 + 1 := by
  have inserted := KeyedTotals.total_insert (fun _ count => count) slots.affinityGroups cpus.toList
    ((slots.affinityGroups[cpus.toList]?.getD 0) + 1)
  rw [KeyedTotals.foldl_values, KeyedTotals.foldl_values]
  simp only [KeyedTotals.weightAt, Option.map_id'] at inserted
  unfold PredictedSlots.add
  dsimp only
  omega

theorem PredictedSlots.ofMembers_tasks (domain : Nat) (members : List MemberView) :
    (ofMembers domain members).affinityGroups.values.foldl (· + ·) 0 = members.length := by
  induction members using List.reverseRecOn with
  | nil => rfl
  | append_singleton members member ih =>
      rw [ofMembers_concat, add_tasks, ih, List.length_append, List.length_singleton]

/-- The affinity groups of a domain count the active members predicted there. -/
theorem predictedSlots_tasks (state : PlannerState) (assignmentOf : Nat → Option Assignment)
    {domain : Nat} {slot : PredictedSlots}
    (found : (predictedSlots state assignmentOf)[domain]? = some slot) :
    slot.affinityGroups.values.foldl (· + ·) 0 = memberCount state fun member =>
      member.active && decide (predictedDomain state assignmentOf member = some domain) := by
  rw [getElem?_predictedSlots] at found
  split at found
  · obtain rfl := Option.some.inj found
    rw [PredictedSlots.ofMembers_tasks, ← List.countP_eq_length_filter, List.countP_filter]
    unfold memberCount
    simp only [Bool.and_comm]
  · cases found

/-- The slot constraint of a domain over the slots predicted there. -/
theorem domainScore_slotOverCapacity {state : PlannerState} {domain : Nat} {slot : PredictedSlots}
    (found : (predictedSlots state (state.assignments[·]?))[domain]? = some slot)
    (model : DomainModel) :
    let score := domainScore model (collectAssignmentTotals state) domain
    score.cost.hardConstraints.slotOverCapacity =
      (taskSlotConstraint score.predictedActiveTaskCount slot.cpuSet.size).maxOf
        (affinityGroupSlotConstraint slot.affinityGroups) := by
  have capacity : (collectAssignmentTotals state).predictedCpuCapacity[domain]? =
      some slot.cpuSet.size := by
    simp [collectAssignmentTotals, found]
  have affinity : (collectAssignmentTotals state).affinitySlotConstraint[domain]? =
      some (affinityGroupSlotConstraint slot.affinityGroups) := by
    simp [collectAssignmentTotals, found]
  dsimp only [domainScore]
  rw [capacity, affinity]
  rfl

/-! ## What the evaluation says of a settled state -/

section Evaluation

variable {state : PlannerState} {load : Nat → Nat} (settled : state.Settled load)

include settled

theorem PlannerState.Settled.item_home {index : Nat} {item : PlannerItem}
    (stored : state.items[index]? = some item) :
    ∃ home, ItemHome state item home ∧ state.assignments[index]? = some .currentHome := by
  obtain ⟨home, atHome⟩ := settled.homes index item stored
  have bound : index < state.assignments.length :=
    settled.partitioned.assigned ▸ (List.getElem?_eq_some_iff.mp stored).1
  have assigned := List.getElem?_eq_getElem bound
  refine ⟨home, atHome, ?_⟩
  rw [assigned, settled.unmoved index _ assigned]

theorem PlannerState.Settled.effective {index tid : Nat} {item : PlannerItem} {member : MemberView}
    (stored : state.items[index]? = some item) (listed : tid ∈ item.memberTids)
    (found : state.members[tid]? = some member) :
    effectiveMemberDomain tid state = member.currentDomain := by
  obtain ⟨_, _, assigned⟩ := settled.item_home stored
  exact settled.partitioned.effectiveMemberDomain_eq stored assigned listed found

theorem PlannerState.Settled.predictedDomain_eq {member : MemberView}
    (found : state.members[member.tid]? = some member) :
    predictedDomain state (state.assignments[·]?) member = member.currentDomain := by
  rw [CSwitch.Planner.predictedDomain_eq found, settled.based member.tid member found]
  cases indexed : state.itemIndexByTid[member.tid]? with
  | none => simp [effectiveMemberDomain, indexed]
  | some index =>
      obtain ⟨item, stored, listed⟩ := settled.partitioned.indexed member.tid index indexed
      rw [settled.effective stored listed found, Option.or_self]

theorem PlannerState.Settled.assigned_load (domain : Nat) :
    tallySum (placedMembers state) (some ·.2) (·.1.effectDfX100) domain = load domain := by
  rw [← settled.loads domain, settled.partitioned.placedMembers_eq]
  have homes : ∀ member ∈ itemMembers state.members state.items,
      effectiveMemberDomain member.tid state = member.currentDomain := by
    intro member listed
    obtain ⟨tid, inside, found⟩ := List.mem_filterMap.mp listed
    obtain ⟨item, stored, own⟩ := List.mem_flatMap.mp inside
    obtain ⟨index, indexed⟩ := List.mem_iff_getElem?.mp stored
    rw [settled.partitioned.keyed tid member found]
    exact settled.effective indexed own found
  generalize itemMembers state.members state.items = members at homes ⊢
  unfold tallySum
  induction members with
  | nil => rfl
  | cons member rest ih =>
      have later := ih fun other listed => homes other (List.mem_cons_of_mem _ listed)
      rw [List.filterMap_cons, homes member List.mem_cons_self, List.filter_cons]
      cases homed : member.currentDomain with
      | none => simpa [homed] using later
      | some home =>
          by_cases same : home = domain <;> simpa [homed, same] using later

theorem PlannerState.Settled.predictedDf_le {domain : Nat} {score : DomainScore}
    {model : DomainModel} (scored : (evaluatePlan state).domains[domain]? = some score)
    (found : state.domains[domain]? = some model) :
    score.predictedDfX100 ≤ model.dfCapacityMibSX100 := by
  have carries := settled.models domain model found
  have bound := (List.getElem?_eq_some_iff.mp found).1
  have live := carries.live
  have homed := carries.homed
  have capacity := carries.capacity
  have assigned : (tally state.domains.length (placedMembers state) (some ·.2)
      (·.1.effectDfX100))[domain]?.getD 0 = load domain := by
    have whole := settled.assigned_load domain
    rw [tally_getD bound (by omega), whole]
  simp only [evaluatePlan, domainScores, List.getElem?_mapIdx, found, Option.map_some,
    Option.some.injEq] at scored
  subst scored
  have predicted : (domainScore model (collectAssignmentTotals state) domain).predictedDfX100 =
      satAdd32 model.liveDfX100 ((collectAssignmentTotals state).assignedDfX100[domain]?.getD 0) -
        model.currentItemDfX100 := rfl
  have total : (collectAssignmentTotals state).assignedDfX100[domain]?.getD 0 = load domain :=
    assigned
  rw [predicted, total, carries.item]
  unfold satAdd32
  omega

/-- The check of the greedy seed on the domain of a settled state. -/
theorem PlannerState.Settled.slots_within {domain : Nat} {slot : PredictedSlots}
    (bound : domain < state.domains.length)
    (found : (predictedSlots state (state.assignments[·]?))[domain]? = some slot) :
    (taskSlotConstraint (slot.affinityGroups.values.foldl (· + ·) 0) slot.cpuSet.size).maxOf
      (affinityGroupSlotConstraint slot.affinityGroups) = .withinCapacity := by
  have model := List.getElem?_eq_getElem bound
  have scored : (evaluatePlan state).domains[domain]? =
      some (domainScore state.domains[domain] (collectAssignmentTotals state) domain) := by
    simp only [evaluatePlan, domainScores, List.getElem?_mapIdx, model, Option.map_some]
  have within := (calm_spec settled.calm).2 _ (List.mem_of_getElem? scored)
  have predicted : (domainScore state.domains[domain] (collectAssignmentTotals state)
      domain).predictedActiveTaskCount = slot.affinityGroups.values.foldl (· + ·) 0 := by
    have counted := settled.counts domain bound
    unfold predictedTaskCount at counted
    rw [scored, Option.map_some, Option.getD_some] at counted
    rw [counted, predictedSlots_tasks state _ found]
    refine List.countP_congr ?_
    intro member listed
    rw [settled.predictedDomain_eq ((mem_values settled.partitioned.keyed).mp listed)]
  rw [← predicted, ← domainScore_slotOverCapacity found]
  exact within

end Evaluation

end CSwitch.Planner
