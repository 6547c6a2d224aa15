import CSwitch.Planner.TaskCounts

/-! The synchronised threads of a process as the planner sees them: which of them
form a group of a scope, what is asked of the group, and the items that hold its
threads. -/

set_option autoImplicit false

namespace CSwitch.Planner

open Library
open Std (TreeMap TreeSet)

/-- An active thread of the process that counts as synchronised. -/
def PlannerInput.inSyncGroup (config : PlannerConfig) (snapshot : PlannerInput) (tgid tid : Nat) :
    Bool :=
  match snapshot.threads[tid]? with
  | none => false
  | some thread => thread.tgid == tgid && snapshot.isActive tid thread &&
      syncQualifiedForPlanner thread config.disableAutoSyncHints config.syncTgidOverrides

/-- The synchronised members of a process, whatever the scope. -/
def MemberView.synced (member : MemberView) (tgid : Nat) : Bool :=
  member.tgid == tgid && member.active && member.syncQualified

def SyncedIn (members : MemberMap) (tgid tid : Nat) : Prop :=
  ∃ member, members[tid]? = some member ∧ member.synced tgid = true

theorem inSyncGroup_iff {config : PlannerConfig} {snapshot : PlannerInput} (mode : PlanMode)
    {tgid tid : Nat} :
    snapshot.inSyncGroup config tgid tid = true ↔
      SyncedIn (buildMembers config snapshot mode) tgid tid := by
  unfold PlannerInput.inSyncGroup SyncedIn
  rw [getElem?_buildMembers]
  cases snapshot.threads[tid]? with
  | none => simp
  | some thread =>
      rw [Option.map_some]
      constructor
      · intro synced
        exact ⟨_, rfl, synced⟩
      · rintro ⟨_, same, synced⟩
        obtain rfl := Option.some.inj same
        exact synced

/-! ## Groups of a scope -/

theorem mem_groupTids {members : MemberMap} {tids : TreeSet Nat} {tgid tid : Nat} :
    tid ∈ (groupTids members tids)[tgid]?.getD [] ↔ tid ∈ tids ∧ SyncedIn members tgid tid := by
  have collected : ∀ other : Nat, other ∈ (groupTids members tids)[tgid]?.getD [] ↔
      other ∈ tids.toList ∧ SyncedIn members tgid other := by
    unfold groupTids
    refine foldl_prefix_invariant (fun done (groups : TreeMap Nat (List Nat)) =>
      ∀ other : Nat, other ∈ groups[tgid]?.getD [] ↔
        other ∈ done ∧ SyncedIn members tgid other) ?_ ?_
    · intro other
      simp
    · intro done next rest groups _ running other
      rw [List.mem_append, List.mem_singleton, or_and_right, ← running other]
      cases found : members[next]? with
      | none =>
          have unknown : ¬ (other = next ∧ SyncedIn members tgid other) := by
            rintro ⟨rfl, member, known, _⟩
            rw [found] at known
            cases known
          exact (or_iff_left unknown).symm
      | some view =>
          have own : (other = next ∧ SyncedIn members tgid other) ↔
              other = next ∧ view.synced tgid = true := by
            constructor
            · rintro ⟨rfl, member, known, synced⟩
              obtain rfl := Option.some.inj (found.symm.trans known)
              exact ⟨rfl, synced⟩
            · rintro ⟨rfl, synced⟩
              exact ⟨rfl, view, found, synced⟩
          rw [own]
          dsimp only
          cases joins : view.syncQualified && view.active with
          | false =>
              have apart : view.synced tgid = false := by
                unfold MemberView.synced
                rw [Bool.and_assoc, Bool.and_comm view.active, joins, Bool.and_false]
              simp [apart]
          | true =>
              rw [if_pos rfl, TreeMap.getElem?_insert]
              by_cases same : view.tgid = tgid
              · obtain rfl := same
                have synced : view.synced view.tgid = true := by
                  unfold MemberView.synced
                  rw [Bool.and_assoc, Bool.and_comm view.active, joins]
                  simp
                simp [synced]
              · have apart : view.synced tgid = false := by
                  simp [MemberView.synced, same]
                rw [if_neg (mt compare_eq_iff_eq.mp same)]
                simp [apart]
  rw [collected, TreeSet.mem_toList]

/-- The group of a process in a scope, when it has one. -/
theorem groupTids_eq_some {members : MemberMap} {tids : TreeSet Nat} {tgid : Nat}
    {group : List Nat} (stored : (groupTids members tids)[tgid]? = some group) (tid : Nat) :
    tid ∈ group ↔ tid ∈ tids ∧ SyncedIn members tgid tid := by
  have listed : tid ∈ (groupTids members tids)[tgid]?.getD [] ↔
      tid ∈ tids ∧ SyncedIn members tgid tid := mem_groupTids
  rwa [stored, Option.getD_some] at listed

/-! ## What is asked of a group -/

def groupConstraints (features : BuildFeatures) (members : MemberMap) (snapshot : PlannerInput)
    (group : Nat × List Nat) : List SyncConstraint :=
  if group.2.length < 2 then []
  else if groupIsItem features members snapshot group.2 then [.coLocateGroup group.1 group.2]
  else residualPairs members group.2

theorem addGroup_syncConstraints (features : BuildFeatures) (members : MemberMap)
    (snapshot : PlannerInput) (build : ItemBuild) (group : Nat × List Nat) :
    (build.addGroup features members snapshot group).syncConstraints =
      build.syncConstraints ++ groupConstraints features members snapshot group := by
  unfold ItemBuild.addGroup groupConstraints
  dsimp only
  split
  · rw [List.append_nil]
  · split
    · rfl
    · rfl

theorem addSingle_syncConstraints (members : MemberMap) (build : ItemBuild) (tid : Nat) :
    (build.addSingle members tid).syncConstraints = build.syncConstraints := by
  unfold ItemBuild.addSingle
  split
  · rfl
  · split
    · rfl
    · rfl

/-- Every constraint comes from one group of the scope. -/
theorem buildItems_syncConstraints (features : BuildFeatures) (members : MemberMap)
    (snapshot : PlannerInput) (mode : PlanMode) :
    (buildItems features members snapshot mode).syncConstraints =
      (groupTids members (targetTids members snapshot mode)).toList.flatMap
        (groupConstraints features members snapshot) := by
  unfold buildItems
  dsimp only
  have singles : ∀ (tids : List Nat) (build : ItemBuild),
      (tids.foldl (ItemBuild.addSingle members) build).syncConstraints = build.syncConstraints := by
    intro tids build
    refine List.foldlRecOn tids (ItemBuild.addSingle members)
      (motive := fun (after : ItemBuild) => after.syncConstraints = build.syncConstraints) rfl ?_
    intro after kept tid _
    rw [addSingle_syncConstraints, kept]
  rw [singles]
  refine foldl_prefix_invariant (fun done (build : ItemBuild) => build.syncConstraints =
    done.flatMap (groupConstraints features members snapshot)) rfl ?_
  intro done group rest build _ running
  rw [addGroup_syncConstraints, running, List.flatMap_append, List.flatMap_singleton]

section Constraints

variable {features : BuildFeatures} {members : MemberMap} {snapshot : PlannerInput} {mode : PlanMode}

theorem mem_syncConstraints {constraint : SyncConstraint} :
    constraint ∈ (buildItems features members snapshot mode).syncConstraints ↔
      ∃ tgid tids, (groupTids members (targetTids members snapshot mode))[tgid]? = some tids ∧
        constraint ∈ groupConstraints features members snapshot (tgid, tids) := by
  rw [buildItems_syncConstraints, List.mem_flatMap]
  constructor
  · rintro ⟨⟨tgid, tids⟩, listed, asked⟩
    exact ⟨tgid, tids, TreeMap.mem_toList_iff_getElem?_eq_some.mp listed, asked⟩
  · rintro ⟨tgid, tids, stored, asked⟩
    exact ⟨(tgid, tids), TreeMap.mem_toList_iff_getElem?_eq_some.mpr stored, asked⟩

theorem coLocateGroup_mem {tgid : Nat} {tids : List Nat}
    (asked : .coLocateGroup tgid tids ∈ (buildItems features members snapshot mode).syncConstraints) :
    (groupTids members (targetTids members snapshot mode))[tgid]? = some tids := by
  obtain ⟨other, group, stored, asked⟩ := mem_syncConstraints.mp asked
  unfold groupConstraints residualPairs at asked
  split at asked
  · cases asked
  · split at asked
    · cases List.mem_singleton.mp asked
      exact stored
    · obtain ⟨pair, _, different⟩ := List.mem_map.mp asked
      cases different

/-- A pair that is asked for is a pair of one group. -/
theorem residualPair_mem {left right : Nat}
    (asked : .residualPair left right ∈
      (buildItems features members snapshot mode).syncConstraints) :
    left ∈ targetTids members snapshot mode ∧ right ∈ targetTids members snapshot mode := by
  obtain ⟨tgid, group, stored, asked⟩ := mem_syncConstraints.mp asked
  unfold groupConstraints residualPairs at asked
  split at asked
  · cases asked
  · split at asked
    · cases List.mem_singleton.mp asked
    · obtain ⟨pair, listed, same⟩ := List.mem_map.mp asked
      cases same
      obtain ⟨first, second⟩ := mem_orderedPairs (List.mem_filter.mp listed).1
      exact ⟨((groupTids_eq_some stored _).mp first).1, ((groupTids_eq_some stored _).mp second).1⟩

end Constraints

/-! ## What is reported -/

section Reports

variable {state : PlannerState}

theorem foldl_note (splits : List SyncConstraint) (violations : ConstraintViolations) :
    (splits.foldl ConstraintViolations.note violations).syncGroupSplits =
        violations.syncGroupSplits ++ splits.filterMap (fun constraint =>
          match constraint with
          | .coLocateGroup tgid _ => some tgid
          | .residualPair _ _ => none) ∧
      (splits.foldl ConstraintViolations.note violations).residualPairSplits =
        violations.residualPairSplits ++ splits.filterMap (fun constraint =>
          match constraint with
          | .coLocateGroup _ _ => none
          | .residualPair left right => some (left, right)) := by
  induction splits generalizing violations with
  | nil => simp
  | cons constraint rest ih =>
      rw [List.foldl_cons, (ih _).1, (ih _).2]
      cases constraint with
      | coLocateGroup tgid tids => simp [ConstraintViolations.note]
      | residualPair left right => simp [ConstraintViolations.note]

theorem mem_syncGroupSplits {tgid : Nat} :
    tgid ∈ (evaluatePlan state).violations.syncGroupSplits ↔
      ∃ tids, SyncConstraint.coLocateGroup tgid tids ∈ state.syncConstraints ∧
        (SyncConstraint.coLocateGroup tgid tids).split state = true := by
  unfold evaluatePlan
  dsimp only
  rw [(foldl_note _ _).1, List.nil_append, List.mem_filterMap]
  constructor
  · rintro ⟨constraint, split, noted⟩
    obtain ⟨asked, apart⟩ := List.mem_filter.mp split
    cases constraint with
    | coLocateGroup other tids =>
        obtain rfl := Option.some.inj noted
        exact ⟨tids, asked, apart⟩
    | residualPair left right => cases noted
  · rintro ⟨tids, asked, apart⟩
    exact ⟨_, List.mem_filter.mpr ⟨asked, apart⟩, rfl⟩

theorem mem_residualPairSplits {left right : Nat} :
    (left, right) ∈ (evaluatePlan state).violations.residualPairSplits ↔
      SyncConstraint.residualPair left right ∈ state.syncConstraints ∧
        (SyncConstraint.residualPair left right).split state = true := by
  unfold evaluatePlan
  dsimp only
  rw [(foldl_note _ _).2, List.nil_append, List.mem_filterMap]
  constructor
  · rintro ⟨constraint, split, noted⟩
    obtain ⟨asked, apart⟩ := List.mem_filter.mp split
    cases constraint with
    | coLocateGroup tgid tids => cases noted
    | residualPair first second =>
        cases noted
        exact ⟨asked, apart⟩
  · rintro ⟨asked, apart⟩
    exact ⟨_, List.mem_filter.mpr ⟨asked, apart⟩, rfl⟩

/-- A group is split as soon as two of its threads are apart. -/
theorem coLocateGroup_split_iff {tgid : Nat} {tids : List Nat} :
    (SyncConstraint.coLocateGroup tgid tids).split state = true ↔
      ∃ left ∈ tids, ∃ right ∈ tids, ∃ here there, effectiveMemberDomain left state = some here ∧
        effectiveMemberDomain right state = some there ∧ here ≠ there := by
  have seen : ∀ domain : Nat,
      domain ∈ TreeSet.ofList (tids.filterMap fun tid => effectiveMemberDomain tid state) ↔
        ∃ tid ∈ tids, effectiveMemberDomain tid state = some domain := by
    intro domain
    rw [TreeSet.mem_ofList, List.contains_iff_mem, List.mem_filterMap]
  unfold SyncConstraint.split
  rw [decide_eq_true_eq, gt_iff_lt, one_lt_size_iff]
  constructor
  · rintro ⟨here, hereSeen, there, thereSeen, apart⟩
    obtain ⟨left, leftListed, leftHere⟩ := (seen here).mp hereSeen
    obtain ⟨right, rightListed, rightThere⟩ := (seen there).mp thereSeen
    exact ⟨left, leftListed, right, rightListed, here, there, leftHere, rightThere, apart⟩
  · rintro ⟨left, leftListed, right, rightListed, here, there, leftHere, rightThere, apart⟩
    exact ⟨here, (seen here).mpr ⟨left, leftListed, leftHere⟩, there,
      (seen there).mpr ⟨right, rightListed, rightThere⟩, apart⟩

theorem residualPair_split_iff {left right : Nat} :
    (SyncConstraint.residualPair left right).split state = true ↔
      ∃ here there, effectiveMemberDomain left state = some here ∧
        effectiveMemberDomain right state = some there ∧ here ≠ there := by
  unfold SyncConstraint.split
  dsimp only
  cases effectiveMemberDomain left state with
  | none => simp
  | some here =>
      cases effectiveMemberDomain right state with
      | none => simp
      | some there => simp

end Reports

section Reported

variable {features : BuildFeatures} {members : MemberMap} {snapshot : PlannerInput}
  {mode : PlanMode} {state : PlannerState} {tgid : Nat}

/-- Whether an evaluation reports a split of the group of a process. -/
def SplitReported (group : Nat → Prop) (tgid : Nat) (evaluation : PlanEvaluation) : Prop :=
  tgid ∈ evaluation.violations.syncGroupSplits ∨
    ∃ pair ∈ evaluation.violations.residualPairSplits, group pair.1 ∧ group pair.2

theorem memberDomains_meet {left right domain : Nat}
    (leftAllowed : domain ∈ memberDomains members left)
    (rightAllowed : domain ∈ memberDomains members right) :
    (!(memberDomains members left ∩ memberDomains members right).isEmpty) = true := by
  have shared : domain ∈ memberDomains members left ∩ memberDomains members right :=
    TreeSet.mem_inter_iff.mpr ⟨leftAllowed, rightAllowed⟩
  rw [Bool.not_eq_true']
  exact TreeSet.isEmpty_eq_false_iff_exists_mem.mpr ⟨domain, shared⟩

/-- Two threads of the group in scope that are sent apart are reported, when some
domain is allowed to both. -/
theorem splitReported_of_apart
    (constraints : state.syncConstraints = (buildItems features members snapshot mode).syncConstraints)
    {left right here there domain : Nat}
    (leftScoped : left ∈ targetTids members snapshot mode)
    (rightScoped : right ∈ targetTids members snapshot mode)
    (leftSynced : SyncedIn members tgid left) (rightSynced : SyncedIn members tgid right)
    (leftAllowed : domain ∈ memberDomains members left)
    (rightAllowed : domain ∈ memberDomains members right)
    (leftHere : effectiveMemberDomain left state = some here)
    (rightThere : effectiveMemberDomain right state = some there) (apart : here ≠ there) :
    SplitReported (SyncedIn members tgid) tgid (evaluatePlan state) := by
  have different : left ≠ right := by
    rintro rfl
    exact apart (Option.some.inj (leftHere.symm.trans rightThere))
  have leftGrouped := mem_groupTids.mpr ⟨leftScoped, leftSynced⟩
  have rightGrouped := mem_groupTids.mpr ⟨rightScoped, rightSynced⟩
  cases stored : (groupTids members (targetTids members snapshot mode))[tgid]? with
  | none =>
      rw [stored] at leftGrouped
      cases leftGrouped
  | some tids =>
      rw [stored, Option.getD_some] at leftGrouped rightGrouped
      have several : ¬ tids.length < 2 := by
        intro few
        match tids with
        | [] => cases leftGrouped
        | [tid] => exact different ((List.mem_singleton.mp leftGrouped).trans
            (List.mem_singleton.mp rightGrouped).symm)
        | _ :: _ :: _ => simp at few
      cases item : groupIsItem features members snapshot tids with
      | true =>
          refine .inl (mem_syncGroupSplits.mpr ⟨tids, ?_, coLocateGroup_split_iff.mpr
            ⟨left, leftGrouped, right, rightGrouped, here, there, leftHere, rightThere, apart⟩⟩)
          rw [constraints]
          refine mem_syncConstraints.mpr ⟨tgid, tids, stored, ?_⟩
          rw [groupConstraints, if_neg several, if_pos item]
          exact List.mem_singleton_self _
      | false =>
          have asked : ∀ pair ∈ orderedPairs tids,
              (!(memberDomains members pair.1 ∩ memberDomains members pair.2).isEmpty) = true →
              SyncConstraint.residualPair pair.1 pair.2 ∈ state.syncConstraints := by
            intro pair listed shared
            rw [constraints]
            refine mem_syncConstraints.mpr ⟨tgid, tids, stored, ?_⟩
            rw [groupConstraints, if_neg several, if_neg (by simp [item])]
            exact List.mem_map.mpr ⟨pair, List.mem_filter.mpr ⟨listed, shared⟩, rfl⟩
          rcases orderedPairs_total leftGrouped rightGrouped different with listed | listed
          · refine .inr ⟨(left, right), mem_residualPairSplits.mpr ⟨?_, ?_⟩, leftSynced, rightSynced⟩
            · exact asked _ listed (memberDomains_meet leftAllowed rightAllowed)
            · exact residualPair_split_iff.mpr ⟨here, there, leftHere, rightThere, apart⟩
          · refine .inr ⟨(right, left), mem_residualPairSplits.mpr ⟨?_, ?_⟩, rightSynced, leftSynced⟩
            · exact asked _ listed (memberDomains_meet rightAllowed leftAllowed)
            · exact residualPair_split_iff.mpr ⟨there, here, rightThere, leftHere, apart.symm⟩

/-- Nothing is reported of a group whose threads in scope are sent to one domain. -/
theorem not_splitReported_of_together
    (constraints : state.syncConstraints = (buildItems features members snapshot mode).syncConstraints)
    {domain : Nat} (together : ∀ tid : Nat, tid ∈ targetTids members snapshot mode →
      SyncedIn members tgid tid → effectiveMemberDomain tid state = some domain) :
    ¬ SplitReported (SyncedIn members tgid) tgid (evaluatePlan state) := by
  have same : ∀ left right here there : Nat, left ∈ targetTids members snapshot mode →
      right ∈ targetTids members snapshot mode → SyncedIn members tgid left →
      SyncedIn members tgid right → effectiveMemberDomain left state = some here →
      effectiveMemberDomain right state = some there → here = there := by
    intro left right here there leftScoped rightScoped leftSynced rightSynced leftHere rightThere
    rw [together left leftScoped leftSynced] at leftHere
    rw [together right rightScoped rightSynced] at rightThere
    exact (Option.some.inj leftHere).symm.trans (Option.some.inj rightThere)
  rintro (split | ⟨⟨left, right⟩, split, leftSynced, rightSynced⟩)
  · obtain ⟨tids, asked, apart⟩ := mem_syncGroupSplits.mp split
    rw [constraints] at asked
    have stored := coLocateGroup_mem asked
    obtain ⟨left, leftListed, right, rightListed, here, there, leftHere, rightThere, different⟩ :=
      coLocateGroup_split_iff.mp apart
    obtain ⟨leftScoped, leftSynced⟩ := (groupTids_eq_some stored left).mp leftListed
    obtain ⟨rightScoped, rightSynced⟩ := (groupTids_eq_some stored right).mp rightListed
    exact different (same left right here there leftScoped rightScoped leftSynced rightSynced
      leftHere rightThere)
  · obtain ⟨asked, apart⟩ := mem_residualPairSplits.mp split
    rw [constraints] at asked
    obtain ⟨leftScoped, rightScoped⟩ := residualPair_mem asked
    obtain ⟨here, there, leftHere, rightThere, different⟩ := residualPair_split_iff.mp apart
    exact different (same left right here there leftScoped rightScoped leftSynced rightSynced
      leftHere rightThere)

end Reported

/-! ## The items of a scope -/

/-- An item holds a whole group or one thread, and is allowed wherever all its
threads are. -/
structure PlannerItem.FromScope (members : MemberMap) (item : PlannerItem) : Prop where
  nonempty : item.memberTids ≠ []
  domains : ∀ domain : Nat, (∀ tid ∈ item.memberTids, domain ∈ memberDomains members tid) →
    domain ∈ item.allowedDomains
  uniform : ∀ tgid : Nat, ∀ tid ∈ item.memberTids, SyncedIn members tgid tid →
    ∀ other ∈ item.memberTids, SyncedIn members tgid other

theorem SyncedIn.tgid_eq {members : MemberMap} {first second tid : Nat}
    (left : SyncedIn members first tid) (right : SyncedIn members second tid) : first = second := by
  obtain ⟨member, found, synced⟩ := left
  obtain ⟨other, same, otherSynced⟩ := right
  obtain rfl := Option.some.inj (found.symm.trans same)
  simp only [MemberView.synced, Bool.and_eq_true, beq_iff_eq] at synced otherSynced
  exact synced.1.1.symm.trans otherSynced.1.1

theorem addGroup_fromScope {features : BuildFeatures} {members : MemberMap}
    {snapshot : PlannerInput} {tids : TreeSet Nat} {build : ItemBuild} {group : Nat × List Nat}
    (valid : ∀ item ∈ build.items, item.FromScope members)
    (stored : (groupTids members tids)[group.1]? = some group.2) :
    ∀ item ∈ (build.addGroup features members snapshot group).items, item.FromScope members := by
  unfold ItemBuild.addGroup
  dsimp only
  split
  · exact valid
  next several =>
    split
    · intro item listed
      rcases List.mem_append.mp listed with earlier | last
      · exact valid item earlier
      · obtain rfl := List.mem_singleton.mp last
        have grouped : ∀ tid ∈ group.2, SyncedIn members group.1 tid :=
          fun tid listed => ((groupTids_eq_some stored tid).mp listed).2
        have nonempty : group.2 ≠ [] := by
          intro empty
          rw [empty] at several
          exact several (by decide)
        refine ⟨nonempty, fun domain each => (mem_commonDomains_iff nonempty).mpr each, ?_⟩
        intro tgid tid listed synced other peer
        rw [synced.tgid_eq (grouped tid listed)]
        exact grouped other peer
    · exact valid

theorem addSingle_fromScope {members : MemberMap} {build : ItemBuild}
    (valid : ∀ item ∈ build.items, item.FromScope members) (tid : Nat) :
    ∀ item ∈ (build.addSingle members tid).items, item.FromScope members := by
  unfold ItemBuild.addSingle
  split
  · exact valid
  · split
    · exact valid
    next member found =>
      intro item listed
      rcases List.mem_append.mp listed with earlier | last
      · exact valid item earlier
      · obtain rfl := List.mem_singleton.mp last
        refine ⟨List.cons_ne_nil _ _, fun domain each => ?_, ?_⟩
        · have allowed := each tid (List.mem_singleton_self tid)
          unfold memberDomains at allowed
          rwa [found, Option.map_some, Option.getD_some] at allowed
        · intro tgid other same synced peer alike
          rw [List.mem_singleton.mp alike, ← List.mem_singleton.mp same]
          exact synced

theorem buildItems_fromScope (features : BuildFeatures) (members : MemberMap)
    (snapshot : PlannerInput) (mode : PlanMode) :
    ∀ item ∈ (buildItems features members snapshot mode).items, item.FromScope members := by
  unfold buildItems
  dsimp only
  refine List.foldlRecOn _ _ (motive := fun (build : ItemBuild) =>
    ∀ item ∈ build.items, item.FromScope members) ?_
    fun build valid tid _ => addSingle_fromScope valid tid
  refine List.foldlRecOn _ _ (motive := fun (build : ItemBuild) =>
    ∀ item ∈ build.items, item.FromScope members) (by simp) ?_
  intro build valid group listed
  exact addGroup_fromScope valid (TreeMap.mem_toList_iff_getElem?_eq_some.mp listed)

/-! ## The seed of a group -/

def PlannerInput.previousTarget (snapshot : PlannerInput) (tid : Nat) : Option Nat :=
  snapshot.previousPlan.bind fun plan => plan.entries[tid]?.map (·.targetDomain)

theorem commonPreviousTarget_eq {plan : PlacementPlan} {tids : List Nat} {domain : Nat}
    (planned : ∀ tid ∈ tids, plan.entries[tid]?.map (·.targetDomain) = some domain) :
    commonPreviousTarget plan tids (some domain) = some domain := by
  induction tids with
  | nil => rfl
  | cons tid rest ih =>
      obtain ⟨entry, found, target⟩ := Option.map_eq_some_iff.mp (planned tid List.mem_cons_self)
      unfold commonPreviousTarget
      rw [found]
      dsimp only
      rw [target, if_neg (by simp)]
      exact ih fun other listed => planned other (List.mem_cons_of_mem _ listed)

/-- An item whose threads all had the same target, in a domain that all may use,
is seeded there. -/
theorem seedAssignment_previous {snapshot : PlannerInput} {members : MemberMap}
    {item : PlannerItem} {domain : Nat} (fromScope : item.FromScope members)
    (allowed : ∀ tid ∈ item.memberTids, domain ∈ memberDomains members tid)
    (planned : ∀ tid ∈ item.memberTids, snapshot.previousTarget tid = some domain) :
    seedAssignment item snapshot members false = .domain domain := by
  have common : (snapshot.previousPlan.bind fun plan =>
      commonPreviousTarget plan item.memberTids none) = some domain := by
    unfold PlannerInput.previousTarget at planned
    cases tids : item.memberTids with
    | nil => exact absurd tids fromScope.nonempty
    | cons head tail =>
        rw [tids] at planned
        cases previous : snapshot.previousPlan with
        | none =>
            have missing := planned head List.mem_cons_self
            rw [previous] at missing
            cases missing
        | some plan =>
            rw [previous] at planned
            obtain ⟨entry, found, target⟩ :=
              Option.map_eq_some_iff.mp (planned head List.mem_cons_self)
            rw [Option.bind_some, commonPreviousTarget, found]
            dsimp only
            rw [target]
            exact commonPreviousTarget_eq fun tid listed => planned tid (List.mem_cons_of_mem _ listed)
  unfold seedAssignment
  rw [if_neg (by simp), common]
  dsimp only
  rw [TreeSet.contains_iff_mem.mpr (fromScope.domains domain allowed)]
  rfl

end CSwitch.Planner
