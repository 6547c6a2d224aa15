import CSwitch.Planner.Settled

/-! The greedy seed on a settled state. It takes every item out of the running
totals and puts it back where it was, so the totals and the effective domains
are the same after each item. -/

set_option autoImplicit false

namespace CSwitch.Planner

open Library
open Std (TreeMap TreeSet)
open Policy

/-! ## Assignments that keep items at home -/

/-- A state that differs from another by assignments that keep its items at home. -/
structure StaysHome (base state : PlannerState) : Prop where
  frame : state = { base with assignments := state.assignments }
  length : state.assignments.length = base.assignments.length
  stays : ∀ (index : Nat) item home assignment, base.items[index]? = some item →
    ItemHome base item home → state.assignments[index]? = some assignment →
    targetDomainForHome assignment (some home) = some home

theorem ItemHome.unique {state : PlannerState} {index first second : Nat} {item : PlannerItem}
    (stored : state.items[index]? = some item) (left : ItemHome state item first)
    (right : ItemHome state item second) : first = second := by
  have same := left.singleSourceDomain stored
  rw [right.singleSourceDomain stored] at same
  exact (Option.some.inj same).symm

theorem homeAssignment_cases {assignment : Assignment} {home : Nat}
    (stays : targetDomainForHome assignment (some home) = some home) :
    assignment = .currentHome ∨ assignment = .domain home := by
  cases assignment with
  | currentHome => exact .inl rfl
  | domain domain =>
      obtain rfl := Option.some.inj stays
      exact .inr rfl

section StaysHome

variable {base state : PlannerState}

theorem StaysHome.members (kept : StaysHome base state) : state.members = base.members := by
  rw [kept.frame]

theorem StaysHome.items (kept : StaysHome base state) : state.items = base.items := by
  rw [kept.frame]

theorem StaysHome.domains (kept : StaysHome base state) : state.domains = base.domains := by
  rw [kept.frame]

theorem StaysHome.membersOfItem (kept : StaysHome base state) (index : Nat) :
    membersOfItem index state = membersOfItem index base := by
  rw [kept.frame]
  rfl

theorem StaysHome.itemHome (kept : StaysHome base state) {item : PlannerItem} {home : Nat}
    (atHome : ItemHome base item home) : ItemHome state item home := by
  rw [kept.frame]
  exact ⟨atHome.inRange, atHome.allowed, atHome.inhabited, atHome.members⟩

theorem PlannerState.Settled.staysHome {load : Nat → Nat} (settled : base.Settled load) :
    StaysHome base base where
  frame := rfl
  length := rfl
  stays index _ _ assignment _ _ assigned := by
    rw [settled.unmoved index assignment assigned]
    rfl

theorem StaysHome.assign (kept : StaysHome base state) {index home : Nat} {item : PlannerItem}
    (stored : base.items[index]? = some item) (atHome : ItemHome base item home) :
    StaysHome base (state.assign index (.domain home)) where
  frame := by
    rw [kept.frame]
    rfl
  length := (state.assign_length _ _).trans kept.length
  stays other own domain assignment found homed assigned := by
    simp only [PlannerState.assign, List.getElem?_set] at assigned
    split at assigned
    next same =>
      subst same
      split at assigned
      · obtain rfl := Option.some.inj assigned
        obtain rfl := Option.some.inj (stored.symm.trans found)
        exact congrArg some (atHome.unique stored homed)
      · cases assigned
    · exact kept.stays other own domain assignment found homed assigned

theorem StaysHome.sameDomains (kept : StaysHome base state) {load : Nat → Nat}
    (settled : base.Settled load) : SameDomains base state where
  frame := kept.frame
  length := kept.length
  domains tid := by
    have valid := settled.partitioned.reassign kept.frame kept.length
    have tids : state.itemIndexByTid = base.itemIndexByTid := by rw [kept.frame]
    cases indexed : base.itemIndexByTid[tid]? with
    | none => simp [effectiveMemberDomain, tids, indexed]
    | some index =>
        obtain ⟨item, stored, listed⟩ := settled.partitioned.indexed tid index indexed
        obtain ⟨home, atHome⟩ := settled.homes index item stored
        obtain ⟨member, found, _, homed⟩ := atHome.members tid listed
        have bound : index < state.assignments.length :=
          kept.length ▸ settled.partitioned.assigned ▸ (List.getElem?_eq_some_iff.mp stored).1
        have assigned := List.getElem?_eq_getElem bound
        have moved := valid.effectiveMemberDomain_eq (kept.items ▸ stored) assigned listed
          (kept.members ▸ found)
        rw [moved, settled.effective stored listed found, homed]
        exact kept.stays index item home _ stored atHome assigned

end StaysHome

/-! ## Running totals -/

section Totals

variable {state : PlannerState} {index home : Nat} {assignment : Assignment}

/-- The demand of an item before it saturates. -/
def itemDfSum (index : Nat) (state : PlannerState) : Nat :=
  ((membersOfItem index state).map (·.effectDfX100)).sum

theorem foldl_sub (weights : List Nat) (total : Nat) :
    weights.foldl (· - ·) total = total - weights.sum := by
  induction weights generalizing total with
  | nil => rfl
  | cons weight rest ih =>
      rw [List.foldl_cons, ih, List.sum_cons]
      omega

theorem itemDfDemandX100_eq (fits : itemDfSum index state ≤ u32Max) :
    itemDfDemandX100 index state = itemDfSum index state := by
  have folded := foldl_satAdd32 ((membersOfItem index state).map (·.effectDfX100)) (Nat.zero_le _)
  rw [List.foldl_map, Nat.zero_add] at folded
  exact folded.trans (Nat.min_eq_left fits)

theorem updateItemAssignmentInPaperTotals_df (combine : Nat → Nat → Nat)
    (totals : PaperGreedyTotals) (state : PlannerState) (index : Nat) (assignment : Assignment) :
    (updateItemAssignmentInPaperTotals combine totals state index assignment).assignedDfX100 =
      (membersOfItem index state).foldl (fun loads member =>
        match targetDomainForHome assignment member.currentDomain with
        | none => loads
        | some domain => loads.modify domain (combine · member.effectDfX100))
        totals.assignedDfX100 := by
  refine (List.foldl_hom PaperGreedyTotals.assignedDfX100 ?_).symm
  intro totals member
  cases targetDomainForHome assignment member.currentDomain <;> rfl

/-- An item that stays at home touches the total of its home only. -/
theorem updateItemAssignmentInPaperTotals_home (combine : Nat → Nat → Nat)
    (totals : PaperGreedyTotals)
    (homed : ∀ member ∈ membersOfItem index state, member.currentDomain = some home)
    (stays : targetDomainForHome assignment (some home) = some home) (domain : Nat) :
    (updateItemAssignmentInPaperTotals combine totals state index
        assignment).assignedDfX100[domain]? =
      if domain = home then totals.assignedDfX100[domain]?.map fun total =>
        ((membersOfItem index state).map (·.effectDfX100)).foldl combine total
      else totals.assignedDfX100[domain]? := by
  rw [updateItemAssignmentInPaperTotals_df]
  generalize totals.assignedDfX100 = loads
  generalize membersOfItem index state = members at homed ⊢
  induction members generalizing loads with
  | nil => simp
  | cons member rest ih =>
      have later := fun other listed => homed other (List.mem_cons_of_mem _ listed)
      rw [List.foldl_cons, ih _ later, homed member List.mem_cons_self, stays]
      dsimp only
      rw [List.getElem?_modify]
      split
      next same =>
        subst same
        cases loads[domain]? <;> simp
      next other => simp [Ne.symm other]

theorem itemMembers_eq_flatMap (state : PlannerState) :
    itemMembers state.members state.items =
      (List.range state.items.length).flatMap (membersOfItem · state) := by
  have each : state.items.map (fun item => item.memberTids.filterMap (state.members[·]?)) =
      (List.range state.items.length).map (membersOfItem · state) := by
    refine List.ext_getElem ?_ ?_
    · simp
    · intro index left right
      have bound : index < state.items.length := by simpa using left
      simp [membersOfItem, List.getElem?_eq_getElem bound]
  rw [itemMembers, List.filterMap_flatMap, List.flatMap_def, each, ← List.flatMap_def]

end Totals

section Settled

variable {base : PlannerState} {load : Nat → Nat} (settled : base.Settled load)

include settled

/-- The demand of an item is part of the load of its home. -/
theorem PlannerState.Settled.itemDfSum_le {index home : Nat} {item : PlannerItem}
    (stored : base.items[index]? = some item) (atHome : ItemHome base item home) :
    itemDfSum index base ≤ load home := by
  have part : (membersOfItem index base).Sublist (itemMembers base.members base.items) := by
    rw [itemMembers_eq_flatMap, List.flatMap_def]
    refine List.sublist_flatten_of_mem (List.mem_map.mpr ⟨index, ?_, rfl⟩)
    exact List.mem_range.mpr (List.getElem?_eq_some_iff.mp stored).1
  have homed : (membersOfItem index base).filter (fun member =>
      decide (member.currentDomain = some home)) = membersOfItem index base := by
    refine List.filter_eq_self.mpr ?_
    intro member listed
    exact decide_eq_true (atHome.membersOfItem stored listed).2
  have small := ((part.filter fun member =>
    decide (member.currentDomain = some home)).map (·.effectDfX100)).sum_le_sum (by simp)
  rw [homed] at small
  rw [← settled.loads home]
  exact small

theorem PlannerState.Settled.initialPaperTotals_df {domain : Nat}
    (bound : domain < base.domains.length) :
    (initialPaperTotals base).assignedDfX100[domain]? = some (load domain) := by
  have folded : (initialPaperTotals base).assignedDfX100 = tally base.domains.length
      (itemMembers base.members base.items) (·.currentDomain) (·.effectDfX100) := by
    rw [itemMembers_eq_flatMap]
    unfold initialPaperTotals tally
    rw [List.foldl_flatMap]
    refine (List.foldl_hom PaperGreedyTotals.assignedDfX100 ?_).symm
    intro totals index
    have stays : base.assignments[index]?.getD .currentHome = .currentHome := by
      cases assigned : base.assignments[index]? with
      | none => rfl
      | some assignment => exact settled.unmoved index assignment assigned
    rw [stays]
    exact (updateItemAssignmentInPaperTotals_df satAdd32 totals base index .currentHome).symm
  have model := settled.models domain _ (List.getElem?_eq_getElem bound)
  have homed := model.homed
  have capacity := model.capacity
  rw [folded, getElem?_tally, if_pos bound, settled.loads domain, Nat.min_eq_left (by omega)]

end Settled

/-! ## The greedy choice -/

section Choice

variable {base state : PlannerState} {load : Nat → Nat} {index home : Nat} {item : PlannerItem}
  (settled : base.Settled load)
  (kept : StaysHome base state) (stored : base.items[index]? = some item)
  (atHome : ItemHome base item home)

include settled kept stored atHome

/-- The slots that the seed predicts for an item at its home. -/
theorem paperGreedyCandidateSlotConstraint_home :
    paperGreedyCandidateSlotConstraint state index home = .withinCapacity := by
  have moved := (kept.assign stored atHome).sameDomains settled
  have bound : index < state.assignments.length :=
    kept.length ▸ settled.partitioned.assigned ▸ (List.getElem?_eq_some_iff.mp stored).1
  have same : (predictedSlots state fun other =>
      if other = index then some (.domain home) else state.assignments[other]?) =
      predictedSlots base (base.assignments[·]?) := by
    rw [← moved.predictedSlots_eq settled.partitioned]
    change _ = predictedSlots state fun other => (state.assignments.set index (.domain home))[other]?
    congr 1
    funext other
    rw [List.getElem?_set]
    by_cases own : other = index
    · subst own
      rw [if_pos rfl, if_pos rfl, if_pos bound]
    · rw [if_neg own, if_neg (Ne.symm own)]
  unfold paperGreedyCandidateSlotConstraint
  dsimp only
  rw [same]
  split
  · rfl
  next slot found => exact settled.slots_within atHome.inRange found

theorem choosePaperGreedyDomain_home (snapshot : PlannerInput) {totals : PaperGreedyTotals}
    (taken : totals.assignedDfX100[home]? = some (load home - itemDfSum index base)) :
    choosePaperGreedyDomain snapshot state totals (externalLoad base) index = some home := by
  obtain ⟨model, found⟩ : ∃ model, base.domains[home]? = some model :=
    ⟨_, List.getElem?_eq_getElem atHome.inRange⟩
  have carries := settled.models home model found
  have live := carries.live
  have homed := carries.homed
  have capacity := carries.capacity
  have demand := settled.itemDfSum_le stored atHome
  have here := kept.itemHome atHome
  have own : state.items[index]? = some item := kept.items ▸ stored
  have legal : home ∈ paperGreedyLegalDomains snapshot state index := by
    unfold paperGreedyLegalDomains
    rw [own]
    exact List.mem_filter.mpr ⟨TreeSet.mem_toList.mpr here.allowed, here.candidateAllowed own⟩
  have carried : liveDfExceedsCapacity state home = false := by
    unfold liveDfExceedsCapacity
    rw [kept.domains, found]
    simpa using live
  have asked : itemDfDemandX100 index state = itemDfSum index base := by
    have same : itemDfDemandX100 index state = itemDfDemandX100 index base := by
      unfold itemDfDemandX100
      rw [kept.membersOfItem]
    rw [same, itemDfDemandX100_eq (by omega)]
  have outside : (externalLoad base).dfX100[home]?.getD 0 =
      model.liveDfX100 - load home := by
    simp [externalLoad, found, carries.managed]
  have stays : paperGreedyUnderSubscribedStayDomain state totals (externalLoad base) index
      (paperGreedyLegalDomains snapshot state index) = some home := by
    have fits : satAdd32 (satAdd32 (model.liveDfX100 - load home)
        (load home - itemDfSum index base)) (itemDfSum index base) ≤
        model.dfCapacityMibSX100 := by
      unfold satAdd32
      omega
    simp [paperGreedyUnderSubscribedStayDomain, here.singleSourceDomain own, legal, carried,
      paperGreedyDomainMetrics, kept.domains, found, outside, taken, asked, fits,
      paperGreedyCandidateSlotConstraint_home settled kept stored atHome,
      SlotCapacityConstraint.extraTasks]
  unfold choosePaperGreedyDomain
  dsimp only
  rw [stays]
  rfl

end Choice

/-! ## The seed -/

/-- The assignment that names the home of an item. -/
def homeAssignment (itemIndex : Nat) (state : PlannerState) : Assignment :=
  ((singleSourceDomain itemIndex state).map Assignment.domain).getD .currentHome

/-- A settled state after the seed has placed some of its items. -/
structure SeededAtHome (base : PlannerState) (load : Nat → Nat) (done : List Nat)
    (seed : PaperGreedyState) : Prop where
  kept : StaysHome base seed.state
  totals : ∀ domain < base.domains.length,
    seed.totals.assignedDfX100[domain]? = some (load domain)
  assigned : ∀ index < base.items.length, seed.state.assignments[index]? =
    some (if index ∈ done then homeAssignment index base else .currentHome)

section Seed

variable {base : PlannerState} {load : Nat → Nat}

theorem SeededAtHome.seedItem (snapshot : PlannerInput) {done : List Nat} {seed : PaperGreedyState}
    {index : Nat} (settled : base.Settled load) (seeded : SeededAtHome base load done seed)
    (bound : index < base.items.length) :
    SeededAtHome base load (done ++ [index])
      (seedItem snapshot (externalLoad base) seed index) := by
  have stored := List.getElem?_eq_getElem bound
  obtain ⟨home, atHome⟩ := settled.homes index _ stored
  have homed : ∀ member ∈ membersOfItem index seed.state, member.currentDomain = some home := by
    intro member listed
    rw [seeded.kept.membersOfItem] at listed
    exact (atHome.membersOfItem stored listed).2
  have weights : ((membersOfItem index seed.state).map (·.effectDfX100)).sum =
      itemDfSum index base := by
    rw [seeded.kept.membersOfItem]
    rfl
  have carries := settled.models home _ (List.getElem?_eq_getElem atHome.inRange)
  have fits : load home ≤ u32Max := carries.homed.trans carries.capacity
  have demand := settled.itemDfSum_le stored atHome
  have previous : targetDomainForHome (seed.state.assignments[index]?.getD .currentHome)
      (some home) = some home := by
    have assigned := seeded.assigned index bound
    rw [assigned]
    exact seeded.kept.stays index _ home _ stored atHome assigned
  have removed := updateItemAssignmentInPaperTotals_home (fun value effect => value - effect)
    seed.totals homed previous
  have taken : (removeItemAssignmentFromPaperTotals seed.totals seed.state index
      (seed.state.assignments[index]?.getD .currentHome)).assignedDfX100[home]? =
        some (load home - itemDfSum index base) := by
    rw [removeItemAssignmentFromPaperTotals, removed, if_pos rfl, seeded.totals home atHome.inRange,
      Option.map_some, foldl_sub, weights]
  have chosen := choosePaperGreedyDomain_home settled seeded.kept stored atHome snapshot taken
  unfold CSwitch.Planner.seedItem
  dsimp only
  rw [chosen]
  refine ⟨seeded.kept.assign stored atHome, ?_, ?_⟩
  · intro domain inside
    have named : targetDomainForHome (.domain home) (some home) = some home := rfl
    dsimp only
    rw [addItemAssignmentToPaperTotals, updateItemAssignmentInPaperTotals_home satAdd32 _ homed named]
    split
    next same =>
      subst same
      rw [taken, Option.map_some, foldl_satAdd32 _ (by omega), weights]
      congr 1
      omega
    next other =>
      rw [removeItemAssignmentFromPaperTotals, removed, if_neg other]
      exact seeded.totals domain inside
  · intro other inside
    simp only [PlannerState.assign, List.getElem?_set, List.mem_append, List.mem_singleton]
    by_cases same : index = other
    · subst same
      have assigned : index < seed.state.assignments.length :=
        seeded.kept.length ▸ settled.partitioned.assigned ▸ bound
      simp [assigned, homeAssignment, atHome.singleSourceDomain stored]
    · rw [if_neg same, seeded.assigned other inside]
      simp [Ne.symm same]

/-- The seed of a settled state: items with a demand are assigned to the homes
they have, the others are left as they are. -/
theorem applyPaperGreedySeed_home (snapshot : PlannerInput) (settled : base.Settled load) :
    StaysHome base (applyPaperGreedySeed snapshot base true) ∧
      ∀ index < base.items.length, (applyPaperGreedySeed snapshot base true).assignments[index]? =
        some (if 0 < itemDfDemandX100 index base then homeAssignment index base
          else .currentHome) := by
  have initial : SeededAtHome base load [] ⟨initialPaperTotals base, base⟩ := by
    refine ⟨settled.staysHome, fun domain bound => settled.initialPaperTotals_df bound, ?_⟩
    intro index bound
    obtain ⟨_, _, assigned⟩ := settled.item_home (List.getElem?_eq_getElem bound)
    rw [assigned, if_neg List.not_mem_nil]
  have final : SeededAtHome base load (paperGreedyItemOrder base)
      ((paperGreedyItemOrder base).foldl (CSwitch.Planner.seedItem snapshot (externalLoad base))
        ⟨initialPaperTotals base, base⟩) := by
    refine foldl_prefix_invariant (SeededAtHome base load) initial ?_
    intro done index rest seed split running
    have listed : index ∈ paperGreedyItemOrder base := by
      rw [split]
      exact List.mem_append_right _ List.mem_cons_self
    exact running.seedItem snapshot settled (mem_paperGreedyItemOrder.mp listed).1
  unfold applyPaperGreedySeed
  split
  next skipped =>
    have empty : base.items = [] := by
      simpa [settled.partitioned.assigned] using skipped
    refine ⟨settled.staysHome, ?_⟩
    intro index bound
    rw [empty] at bound
    cases bound
  · refine ⟨final.kept, ?_⟩
    intro index bound
    rw [final.assigned index bound]
    simp only [mem_paperGreedyItemOrder, bound, true_and]

end Seed

end CSwitch.Planner
