import CSwitch.Planner.AtHome

/-! An uncongested snapshot: every active thread may stay where it is and every
domain carries what is there. In a global plan each item then has one home. -/

set_option autoImplicit false

namespace CSwitch.Planner

open Library
open Std (TreeMap TreeSet)
open Policy

/-- The live DF bandwidth of a domain. -/
def PlannerInput.liveDf (snapshot : PlannerInput) (domain : Nat) : Nat :=
  (snapshot.dfStates[domain]?.map fun state =>
    liveDfForDomain state snapshot.nowNs snapshot.policy.dfStaleMs).getD 0

/-- The sum of the signatures of the active threads at home in a domain. -/
def PlannerInput.homedDf (snapshot : PlannerInput) (domain : Nat) : Nat :=
  ((snapshot.threads.toList.filter fun entry => snapshot.isActive entry.1 entry.2 &&
    decide (threadHome entry.2 = some domain)).map fun entry =>
      (threadSignatureEffect entry.2).dfX100).sum

structure Uncongested (features : BuildFeatures) (config : PlannerConfig)
    (snapshot : PlannerInput) : Prop where
  homes : ∀ (tid : Nat) thread, snapshot.threads[tid]? = some thread →
    snapshot.isActive tid thread = true →
    ∃ home, threadHome thread = some home ∧ home ∈ snapshot.allowedDomainsOf tid
  live : ∀ domain < snapshot.topo.domains.length,
    snapshot.liveDf domain ≤ snapshot.mapping.dfCapacityMibSX100 domain
  homed : ∀ domain < snapshot.topo.domains.length,
    snapshot.homedDf domain ≤ snapshot.mapping.dfCapacityMibSX100 domain
  calm : (buildState features config snapshot .global).atHome.hardConstraints = {}

/-- The ranges of the machine integers, and of the domains that the main loop
writes into a snapshot. -/
structure PlannerInput.InRange (snapshot : PlannerInput) : Prop where
  domains : ∀ tid, ∀ domain ∈ snapshot.allowedDomainsOf tid, domain < snapshot.topo.domains.length
  capacities : ∀ domain, snapshot.mapping.dfCapacityMibSX100 domain ≤ u32Max
  threads : 2 * snapshot.threads.size ≤ u32Max

/-! ## Members of a global state -/

section Global

variable (features : BuildFeatures) (config : PlannerConfig) (snapshot : PlannerInput)

theorem globalMember {tid : Nat} {member : MemberView}
    (found : (buildState features config snapshot .global).members[tid]? = some member) :
    ∃ thread, snapshot.threads[tid]? = some thread ∧
      member = memberView config snapshot .global tid thread := by
  change (buildMembers config snapshot .global)[tid]? = some member at found
  rw [getElem?_buildMembers] at found
  obtain ⟨thread, stored, rfl⟩ := Option.map_eq_some_iff.mp found
  exact ⟨thread, stored, rfl⟩

theorem global_baseline {tid : Nat} {member : MemberView}
    (found : (buildState features config snapshot .global).members[tid]? = some member) :
    member.baselineDomain = member.currentDomain := by
  obtain ⟨thread, _, rfl⟩ := globalMember features config snapshot found
  rfl

/-- A global plan has its active members in items, and no others. -/
theorem global_inItem {tid : Nat} {member : MemberView}
    (found : (buildState features config snapshot .global).members[tid]? = some member) :
    ((buildState features config snapshot .global).itemIndexByTid[tid]?).isSome = member.active := by
  have keyed := buildMembers_keyed config snapshot .global
  have indexed := (buildItems_partition features (buildMembers config snapshot .global) snapshot
    .global).2 tid
  change (buildMembers config snapshot .global)[tid]? = some member at found
  change ((buildItems features (buildMembers config snapshot .global) snapshot
    .global).itemIndexByTid[tid]?).isSome = member.active
  rw [Bool.eq_iff_iff, indexed, found]
  obtain rfl := keyed tid member found
  simp only [targetTids, TreeSet.mem_ofList, List.contains_iff_mem, List.mem_map, List.mem_filter,
    Option.isSome_some, and_true]
  constructor
  · rintro ⟨other, ⟨listed, active⟩, same⟩
    have stored := (mem_values keyed).mp listed
    rw [same, found] at stored
    obtain rfl := Option.some.inj stored
    exact active
  · intro active
    exact ⟨member, ⟨(mem_values keyed).mpr found, active⟩, rfl⟩

theorem global_effective {tid : Nat} {member : MemberView}
    (found : (buildState features config snapshot .global).members[tid]? = some member)
    (active : member.active = true) :
    effectiveMemberDomain tid (buildState features config snapshot .global) =
      member.currentDomain := by
  have valid := buildState_partitioned features config snapshot .global
  have inItem := global_inItem features config snapshot found
  rw [active] at inItem
  obtain ⟨index, indexed⟩ := Option.isSome_iff_exists.mp inItem
  obtain ⟨item, stored, listed⟩ := valid.indexed tid index indexed
  have assigned : (buildState features config snapshot .global).assignments[index]? =
      some .currentHome := by
    change ((buildState features config snapshot .global).items.map _)[index]? = _
    rw [List.getElem?_map, stored]
    rfl
  exact valid.effectiveMemberDomain_eq stored assigned listed found

end Global

/-! ## The home of an item -/

/-- All members of an item are active and at home in one domain that may take them. -/
structure ItemHome (state : PlannerState) (item : PlannerItem) (home : Nat) : Prop where
  inRange : home < state.domains.length
  allowed : home ∈ item.allowedDomains
  inhabited : item.memberTids ≠ []
  members : ∀ tid ∈ item.memberTids, ∃ member, state.members[tid]? = some member ∧
    member.active = true ∧ member.currentDomain = some home

section ItemHome

variable {state : PlannerState} {snapshot : PlannerInput} {index home : Nat} {item : PlannerItem}
  (stored : state.items[index]? = some item) (atHome : ItemHome state item home)

include stored atHome

theorem ItemHome.membersOfItem {member : MemberView} (listed : member ∈ membersOfItem index state) :
    member.active = true ∧ member.currentDomain = some home := by
  unfold CSwitch.Planner.membersOfItem at listed
  rw [stored] at listed
  obtain ⟨tid, own, found⟩ := List.mem_filterMap.mp listed
  obtain ⟨view, viewed, active, homed⟩ := atHome.members tid own
  obtain rfl := Option.some.inj (viewed.symm.trans found)
  exact ⟨active, homed⟩

theorem ItemHome.membersOfItem_ne_nil : CSwitch.Planner.membersOfItem index state ≠ [] := by
  obtain ⟨tid, rest, tids⟩ := List.exists_cons_of_ne_nil atHome.inhabited
  have first : tid ∈ item.memberTids := tids ▸ List.mem_cons_self
  obtain ⟨view, viewed, _⟩ := atHome.members tid first
  unfold CSwitch.Planner.membersOfItem
  rw [stored]
  exact List.ne_nil_of_mem (List.mem_filterMap.mpr ⟨tid, first, viewed⟩)

theorem ItemHome.singleSourceDomain : singleSourceDomain index state = some home := by
  have homes : ∀ domain, domain ∈ itemCurrentDomains index state ↔ domain = home := by
    intro domain
    unfold itemCurrentDomains
    rw [TreeSet.mem_ofList, List.contains_iff_mem, List.mem_filterMap]
    constructor
    · rintro ⟨member, listed, homed⟩
      have own := (atHome.membersOfItem stored listed).2
      rw [own] at homed
      exact (Option.some.inj homed).symm
    · rintro rfl
      obtain ⟨member, rest, members⟩ :=
        List.exists_cons_of_ne_nil (atHome.membersOfItem_ne_nil stored)
      have listed : member ∈ CSwitch.Planner.membersOfItem index state := members ▸ List.mem_cons_self
      exact ⟨member, listed, (atHome.membersOfItem stored listed).2⟩
  have single : (itemCurrentDomains index state).toList = [home] := by
    refine List.perm_singleton.mp ((List.perm_ext_iff_of_nodup (nodup_toList _)
      (List.nodup_singleton home)).mpr ?_)
    intro domain
    rw [TreeSet.mem_toList, homes, List.mem_singleton]
  unfold CSwitch.Planner.singleSourceDomain
  rw [single]

theorem ItemHome.candidateAllowed : candidateAllowed index (.domain home) snapshot state = true := by
  unfold CSwitch.Planner.candidateAllowed
  rw [stored]
  dsimp only
  rw [TreeSet.contains_iff_mem.mpr atHome.allowed, Bool.true_and, List.all_eq_true]
  intro tid listed
  obtain ⟨view, viewed, _, homed⟩ := atHome.members tid listed
  simp [memberMayTake, viewed, homed]

end ItemHome

theorem eq_of_mem_of_size_le_one {values : TreeSet Nat} {left right : Nat}
    (small : values.size ≤ 1) (first : left ∈ values) (second : right ∈ values) : left = right := by
  rw [← TreeSet.mem_toList] at first second
  rw [← TreeSet.length_toList] at small
  match listed : values.toList with
  | [] => rw [listed] at first; cases first
  | [only] =>
      rw [listed, List.mem_singleton] at first second
      rw [first, second]
  | _ :: _ :: _ =>
      rw [listed] at small
      simp at small

section Global

variable {features : BuildFeatures} {config : PlannerConfig} {snapshot : PlannerInput}
  (uncongested : Uncongested features config snapshot) (inRange : snapshot.InRange)

include uncongested

theorem Uncongested.built_calm :
    (buildState features config snapshot .global).hardConstraints = {} :=
  uncongested.calm

/-- The home of a member that is in an item. -/
theorem global_memberHome {item : PlannerItem} {tid : Nat}
    (stored : item ∈ (buildState features config snapshot .global).items)
    (listed : tid ∈ item.memberTids) :
    ∃ member home, (buildState features config snapshot .global).members[tid]? = some member ∧
      member.active = true ∧ member.currentDomain = some home ∧ home ∈ member.allowedDomains := by
  have valid := buildState_partitioned features config snapshot .global
  obtain ⟨member, found⟩ := Option.isSome_iff_exists.mp (valid.known item stored tid listed)
  have active : member.active = true := by
    rw [← global_inItem features config snapshot found]
    exact valid.mem_tids.mp (List.mem_flatMap.mpr ⟨item, stored, listed⟩)
  obtain ⟨thread, known, rfl⟩ := globalMember features config snapshot found
  obtain ⟨home, homed, allowed⟩ := uncongested.homes tid thread known active
  exact ⟨_, home, found, active, homed, allowed⟩

theorem global_sameHome {item : PlannerItem} {first second : Nat}
    (stored : item ∈ (buildState features config snapshot .global).items)
    (firstListed : first ∈ item.memberTids) (secondListed : second ∈ item.memberTids) :
    ((buildState features config snapshot .global).members[first]?.bind (·.currentDomain)) =
      ((buildState features config snapshot .global).members[second]?.bind (·.currentDomain)) := by
  have described := buildItems_described features (buildMembers config snapshot .global) snapshot
    .global
  rcases described.coLocated item stored with ⟨tid, single⟩ | ⟨tgid, listed⟩
  · rw [single, List.mem_singleton] at firstListed secondListed
    rw [firstListed, secondListed]
  · have whole := (calm_spec uncongested.built_calm).1 _ listed
    have small : (TreeSet.ofList (item.memberTids.filterMap fun tid =>
        effectiveMemberDomain tid (buildState features config snapshot .global))).size ≤ 1 := by
      simpa [SyncConstraint.split] using whole
    have inside : ∀ tid ∈ item.memberTids, ∃ home,
        (buildState features config snapshot .global).members[tid]?.bind (·.currentDomain) =
          some home ∧ home ∈ TreeSet.ofList (item.memberTids.filterMap fun tid =>
            effectiveMemberDomain tid (buildState features config snapshot .global)) := by
      intro tid member
      obtain ⟨view, home, found, active, homed, _⟩ := global_memberHome uncongested stored member
      refine ⟨home, by rw [found, Option.bind_some, homed], ?_⟩
      rw [TreeSet.mem_ofList, List.contains_iff_mem, List.mem_filterMap]
      exact ⟨tid, member, (global_effective features config snapshot found active).trans homed⟩
    obtain ⟨left, leftHome, leftIn⟩ := inside first firstListed
    obtain ⟨right, rightHome, rightIn⟩ := inside second secondListed
    rw [leftHome, rightHome, eq_of_mem_of_size_le_one small leftIn rightIn]

include inRange

theorem global_itemHome {index : Nat} {item : PlannerItem}
    (stored : (buildState features config snapshot .global).items[index]? = some item) :
    ∃ home, ItemHome (buildState features config snapshot .global) item home := by
  have listed := List.mem_of_getElem? stored
  have described := buildItems_described features (buildMembers config snapshot .global) snapshot
    .global
  have inhabited := described.inhabited item listed
  obtain ⟨tid, rest, tids⟩ := List.exists_cons_of_ne_nil inhabited
  have first : tid ∈ item.memberTids := tids ▸ List.mem_cons_self
  obtain ⟨member, home, found, active, homed, allowed⟩ := global_memberHome uncongested listed first
  have members : ∀ other ∈ item.memberTids, ∃ view,
      (buildState features config snapshot .global).members[other]? = some view ∧
        view.active = true ∧ view.currentDomain = some home ∧ home ∈ view.allowedDomains := by
    intro other otherListed
    obtain ⟨view, domain, otherFound, otherActive, otherHomed, otherAllowed⟩ :=
      global_memberHome uncongested listed otherListed
    have same := global_sameHome uncongested listed first otherListed
    rw [found, otherFound, Option.bind_some, Option.bind_some, homed, otherHomed] at same
    obtain rfl := Option.some.inj same
    exact ⟨view, otherFound, otherActive, otherHomed, otherAllowed⟩
  refine ⟨home, ?_, ?_, inhabited, ?_⟩
  · have size : (buildState features config snapshot .global).domains.length =
        snapshot.topo.domains.length := by simp [buildState, buildDomains]
    obtain ⟨thread, _, rfl⟩ := globalMember features config snapshot found
    rw [size]
    exact inRange.domains tid home allowed
  · refine described.common item listed home ?_
    intro other otherListed
    obtain ⟨view, otherFound, _, _, otherAllowed⟩ := members other otherListed
    change (buildMembers config snapshot .global)[other]? = some view at otherFound
    simpa [memberDomains, otherFound] using otherAllowed
  · intro other otherListed
    obtain ⟨view, otherFound, otherActive, otherHomed, _⟩ := members other otherListed
    exact ⟨view, otherFound, otherActive, otherHomed⟩

end Global

/-! ## The load that is at home -/

section Load

variable (features : BuildFeatures) (config : PlannerConfig) (snapshot : PlannerInput)

/-- The signatures of the active members, domain by domain. -/
theorem tallySum_active (domain : Nat) :
    tallySum ((buildState features config snapshot .global).members.values.filter (·.active))
      (·.currentDomain) (·.effectDfX100) domain = snapshot.homedDf domain := by
  change tallySum ((buildMembers config snapshot .global).values.filter (·.active)) _ _ _ = _
  rw [KeyedTotals.values_eq_map_toList, buildMembers, TreeMap.toList_map, List.map_map, List.filter_map,
    tallySum, List.filter_map, List.map_map, List.filter_filter, PlannerInput.homedDf]
  congr 1
  refine congrArg _ (List.filter_congr ?_)
  intro entry _
  rw [Bool.and_comm]
  rfl

theorem itemMembers_active :
    (itemMembers (buildState features config snapshot .global).members
      (buildState features config snapshot .global).items).Perm
      ((buildState features config snapshot .global).members.values.filter (·.active)) := by
  have valid := buildState_partitioned features config snapshot .global
  have same : (buildState features config snapshot .global).members.values.filter
      (fun member => ((buildState features config snapshot .global).itemIndexByTid[member.tid]?).isSome) =
      (buildState features config snapshot .global).members.values.filter (·.active) := by
    refine List.filter_congr ?_
    intro member listed
    exact global_inItem features config snapshot ((mem_values valid.keyed).mp listed)
  exact same ▸ valid.itemMembers_perm

/-- The members of items at their homes are all that is at home. -/
theorem tallySum_itemMembers (domain : Nat) :
    tallySum (itemMembers (buildState features config snapshot .global).members
      (buildState features config snapshot .global).items) (·.currentDomain) (·.effectDfX100)
      domain = snapshot.homedDf domain := by
  rw [tallySum_perm (itemMembers_active features config snapshot), tallySum_active]

end Load

end CSwitch.Planner
