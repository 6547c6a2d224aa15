import CSwitch.Planner.HomePlan
import CSwitch.Planner.TaskCounts

/-! Assignments that send nobody anywhere. The evaluation of a plan depends on
the effective domains of its members only, so every assignment that leaves all
members at home is worth as much as the one that says nothing. -/

set_option autoImplicit false

namespace CSwitch.Planner

open Library
open Std (TreeMap TreeSet)
open Policy

/-! ## What the evaluation reads -/

theorem predictedDomain_eq {state : PlannerState} {member : MemberView}
    (found : state.members[member.tid]? = some member) :
    predictedDomain state (state.assignments[·]?) member =
      (effectiveMemberDomain member.tid state).or member.baselineDomain := by
  unfold predictedDomain effectiveMemberDomain
  cases state.itemIndexByTid[member.tid]? with
  | none => rfl
  | some index =>
      cases assigned : state.assignments[index]? with
      | none => simp [assigned]
      | some assignment => simp [assigned, found]

/-- Two assignments of one state with the same effective domains. -/
structure SameDomains (left right : PlannerState) : Prop where
  frame : right = { left with assignments := right.assignments }
  length : right.assignments.length = left.assignments.length
  domains : ∀ tid, effectiveMemberDomain tid right = effectiveMemberDomain tid left

section SameDomains

variable {left right : PlannerState} (same : SameDomains left right)

include same

theorem SameDomains.members : right.members = left.members := by rw [same.frame]

theorem SameDomains.items : right.items = left.items := by rw [same.frame]

theorem SameDomains.assign (index : Nat) (assignment : Assignment) :
    SameDomains (left.assign index assignment) (right.assign index assignment) where
  frame := congrArg (PlannerState.assign · index assignment) same.frame
  length := by
    rw [PlannerState.assign_length, PlannerState.assign_length, same.length]
  domains tid := by
    have before := same.domains tid
    have tids : right.itemIndexByTid = left.itemIndexByTid := by rw [same.frame]
    unfold effectiveMemberDomain at before ⊢
    dsimp only [PlannerState.assign]
    rw [tids, same.members] at before ⊢
    cases indexed : left.itemIndexByTid[tid]? with
    | none => rfl
    | some other =>
        rw [indexed] at before
        simp only [Option.bind_eq_bind, Option.bind_some] at before ⊢
        rw [List.getElem?_set, List.getElem?_set]
        by_cases own : index = other
        · rw [if_pos own, if_pos own, same.length]
        · rw [if_neg own, if_neg own]
          exact before

theorem SameDomains.placedMembers_eq (valid : left.Partitioned) :
    placedMembers right = placedMembers left := by
  rw [(valid.reassign same.frame same.length).placedMembers_eq, valid.placedMembers_eq,
    same.members, same.items]
  refine List.filterMap_congr ?_
  intro member _
  rw [same.domains]

theorem SameDomains.predictedSlots_eq (valid : left.Partitioned) :
    predictedSlots right (right.assignments[·]?) = predictedSlots left (left.assignments[·]?) := by
  have keyed := (valid.reassign same.frame same.length).keyed
  have domains : right.domains = left.domains := by rw [same.frame]
  unfold predictedSlots
  rw [domains, same.members]
  refine List.foldl_ext _ _ _ ?_
  intro slots member listed
  have found := (mem_values valid.keyed).mp (List.mem_filter.mp listed).1
  rw [predictedDomain_eq found, predictedDomain_eq (same.members ▸ found), same.domains]

theorem SameDomains.evaluatePlan_eq (valid : left.Partitioned) :
    evaluatePlan right = evaluatePlan left := by
  have domains : right.domains = left.domains := by rw [same.frame]
  have constraints : right.syncConstraints = left.syncConstraints := by rw [same.frame]
  have totals : collectAssignmentTotals right = collectAssignmentTotals left := by
    unfold collectAssignmentTotals
    rw [same.placedMembers_eq valid, same.predictedSlots_eq valid, domains]
  have scores : domainScores right = domainScores left := by
    unfold domainScores
    rw [totals, domains]
  have split : ∀ constraint : SyncConstraint, constraint.split right = constraint.split left := by
    intro constraint
    cases constraint with
    | coLocateGroup tgid tids => simp only [SyncConstraint.split, same.domains]
    | residualPair first second => simp only [SyncConstraint.split, same.domains]
  unfold evaluatePlan
  rw [scores, constraints]
  simp only [split]

end SameDomains

/-! ## The hard constraints of one domain -/

theorem combine_withinCapacity {left right : SlotCapacityConstraint}
    (within : left.combine right = .withinCapacity) :
    left = .withinCapacity ∧ right = .withinCapacity := by
  cases left with
  | withinCapacity => exact ⟨rfl, within⟩
  | overCapacity extra count => cases right <;> cases within

theorem foldl_hardConstraints (scores : List DomainScore) (cost : PlannerCostBreakdown) :
    (scores.foldl (fun cost score => PlannerCostBreakdown.addSaturating cost score.cost)
        cost).hardConstraints =
      scores.foldl (fun hard score => PlannerHardConstraints.addSaturating hard
        score.cost.hardConstraints) cost.hardConstraints := by
  induction scores generalizing cost with
  | nil => rfl
  | cons score rest ih => exact ih _

theorem foldl_withinCapacity {scores : List DomainScore} {hard : PlannerHardConstraints}
    (within : (scores.foldl (fun hard score => PlannerHardConstraints.addSaturating hard
      score.cost.hardConstraints) hard).slotOverCapacity = .withinCapacity) :
    hard.slotOverCapacity = .withinCapacity ∧
      ∀ score ∈ scores, score.cost.hardConstraints.slotOverCapacity = .withinCapacity := by
  induction scores generalizing hard with
  | nil => exact ⟨within, by simp⟩
  | cons score rest ih =>
      obtain ⟨first, later⟩ := ih within
      obtain ⟨start, here⟩ := combine_withinCapacity first
      refine ⟨start, ?_⟩
      intro other member
      rcases List.mem_cons.mp member with rfl | member
      · exact here
      · exact later other member

/-- A state without hard violations splits nothing and overfills no domain. -/
theorem calm_spec {state : PlannerState} (calm : state.hardConstraints = {}) :
    (∀ constraint ∈ state.syncConstraints, constraint.split state = false) ∧
      ∀ score ∈ (evaluatePlan state).domains,
        score.cost.hardConstraints.slotOverCapacity = .withinCapacity := by
  have splits := congrArg PlannerHardConstraints.syncSplitViolations calm
  have slots := congrArg PlannerHardConstraints.slotOverCapacity calm
  simp only [PlannerState.hardConstraints, evaluatePlan] at splits slots
  rw [foldl_hardConstraints] at slots
  refine ⟨?_, (foldl_withinCapacity slots).2⟩
  have none : state.syncConstraints.filter (·.split state) = [] := by
    unfold satAdd32 at splits
    have zero : (state.syncConstraints.filter (·.split state)).length = 0 := by
      have bound : 0 < u32Max := by decide
      omega
    exact List.length_eq_zero_iff.mp zero
  intro constraint member
  by_contra split
  have listed : constraint ∈ state.syncConstraints.filter (·.split state) :=
    List.mem_filter.mpr ⟨member, by simpa using split⟩
  rw [none] at listed
  cases listed

/-! ## Items of a build -/

/-- What a build knows of its items beside where they are. -/
structure ItemBuild.Described (members : MemberMap) (build : ItemBuild) : Prop where
  inhabited : ∀ item ∈ build.items, item.memberTids ≠ []
  common : ∀ item ∈ build.items, ∀ domain,
    (∀ tid ∈ item.memberTids, domain ∈ memberDomains members tid) → domain ∈ item.allowedDomains
  coLocated : ∀ item ∈ build.items, (∃ tid, item.memberTids = [tid]) ∨
    ∃ tgid, .coLocateGroup tgid item.memberTids ∈ build.syncConstraints

theorem ItemBuild.Described.push {members : MemberMap} {build next : ItemBuild}
    {item : PlannerItem} (valid : build.Described members)
    (items : next.items = build.items ++ [item])
    (constraints : ∀ constraint ∈ build.syncConstraints, constraint ∈ next.syncConstraints)
    (inhabited : item.memberTids ≠ [])
    (common : ∀ domain, (∀ tid ∈ item.memberTids, domain ∈ memberDomains members tid) →
      domain ∈ item.allowedDomains)
    (coLocated : (∃ tid, item.memberTids = [tid]) ∨
      ∃ tgid, .coLocateGroup tgid item.memberTids ∈ next.syncConstraints) :
    next.Described members where
  inhabited stored member := by
    rw [items, List.mem_append, List.mem_singleton] at member
    rcases member with earlier | rfl
    · exact valid.inhabited stored earlier
    · exact inhabited
  common stored member := by
    rw [items, List.mem_append, List.mem_singleton] at member
    rcases member with earlier | rfl
    · exact valid.common stored earlier
    · exact common
  coLocated stored member := by
    rw [items, List.mem_append, List.mem_singleton] at member
    rcases member with earlier | rfl
    · rcases valid.coLocated stored earlier with single | ⟨tgid, listed⟩
      · exact .inl single
      · exact .inr ⟨tgid, constraints _ listed⟩
    · exact coLocated

theorem buildItems_described (features : BuildFeatures) (members : MemberMap)
    (snapshot : PlannerInput) (mode : PlanMode) :
    (buildItems features members snapshot mode).Described members := by
  unfold buildItems
  dsimp only
  refine List.foldlRecOn _ _ (motive := ItemBuild.Described members) ?_ ?_
  · refine List.foldlRecOn _ _ (motive := ItemBuild.Described members) ?_ ?_
    · exact ⟨by simp, by simp, by simp⟩
    · rintro build valid ⟨tgid, tids⟩ _
      unfold ItemBuild.addGroup
      dsimp only
      split
      · exact valid
      next large =>
        have inhabited : tids ≠ [] := by
          rintro rfl
          exact large (by decide)
        split
        · exact valid.push rfl (fun _ listed => List.mem_append_left _ listed) inhabited
            (fun _ all => (mem_commonDomains_iff inhabited).mpr all)
            (.inr ⟨tgid, List.mem_append_right _ (List.mem_singleton.mpr rfl)⟩)
        · refine ⟨valid.inhabited, valid.common, fun item member => ?_⟩
          rcases valid.coLocated item member with single | ⟨tgid, listed⟩
          · exact .inl single
          · exact .inr ⟨tgid, List.mem_append_left _ listed⟩
  · intro build valid tid _
    unfold ItemBuild.addSingle
    split
    · exact valid
    · split
      · exact valid
      next member found =>
        refine valid.push rfl (fun _ listed => listed) (List.cons_ne_nil _ _) ?_ (.inl ⟨tid, rfl⟩)
        intro domain all
        simpa [memberDomains, found] using all tid (List.mem_singleton.mpr rfl)

end CSwitch.Planner
