import CSwitch.Library.TreeSets
import CSwitch.Planner.Evaluate

/-! Invariants of a freshly built planner state: members reflect the snapshot,
the index table points at items that hold the tid, and an item is allowed only
where all its members are. -/

set_option autoImplicit false

namespace CSwitch.Planner

open Std (TreeMap TreeSet)
open Library

/-! ## Members -/

theorem getElem?_buildMembers (config : PlannerConfig) (snapshot : PlannerInput) (mode : PlanMode)
    (tid : Nat) :
    (buildMembers config snapshot mode)[tid]? =
      snapshot.threads[tid]?.map (memberView config snapshot mode tid) :=
  TreeMap.getElem?_map

structure MemberView.Reflects (member : MemberView) (snapshot : PlannerInput) (tid : Nat) :
    Prop where
  identity : member.tid = tid
  home : member.currentDomain = snapshot.home tid
  domains : member.allowedDomains = snapshot.allowedDomainsOf tid
  known : (snapshot.threads[tid]?).isSome

theorem buildMembers_reflects {config : PlannerConfig} {snapshot : PlannerInput} {mode : PlanMode}
    {tid : Nat} {member : MemberView}
    (found : (buildMembers config snapshot mode)[tid]? = some member) :
    member.Reflects snapshot tid := by
  rw [getElem?_buildMembers] at found
  obtain ⟨thread, stored, rfl⟩ := Option.map_eq_some_iff.mp found
  exact ⟨rfl, by simp [PlannerInput.home, stored, memberView], rfl, by simp [stored]⟩

theorem memberDomains_buildMembers {config : PlannerConfig} {snapshot : PlannerInput}
    {mode : PlanMode} {tid domain : Nat}
    (member : domain ∈ memberDomains (buildMembers config snapshot mode) tid) :
    domain ∈ snapshot.allowedDomainsOf tid := by
  unfold memberDomains at member
  cases found : (buildMembers config snapshot mode)[tid]? with
  | none => simp [found] at member
  | some view =>
      simp only [found, Option.map_some, Option.getD_some] at member
      exact (buildMembers_reflects found).domains ▸ member

/-! ## Items -/

structure ItemBuild.WellFormed (members : MemberMap) (build : ItemBuild) : Prop where
  indexed : ∀ (tid : Nat) index, build.itemIndexByTid[tid]? = some index →
    ∃ item, build.items[index]? = some item ∧ tid ∈ item.memberTids
  domains : ∀ item ∈ build.items, ∀ tid ∈ item.memberTids, ∀ domain ∈ item.allowedDomains,
    domain ∈ memberDomains members tid

theorem mem_commonDomains_iff {members : MemberMap} {tids : List Nat} {domain : Nat}
    (inhabited : tids ≠ []) :
    domain ∈ commonDomains members tids ↔ ∀ tid ∈ tids, domain ∈ memberDomains members tid := by
  cases tids with
  | nil => exact absurd rfl inhabited
  | cons head tail => rw [commonDomains, mem_foldl_inter, List.forall_mem_cons]

private theorem indexAll_cases (tids : List Nat) {position tid index : Nat}
    (table : TreeMap Nat Nat)
    (found : (tids.foldl (fun table tid => table.insert tid position) table)[tid]? = some index) :
    (tid ∈ tids ∧ index = position) ∨ table[tid]? = some index := by
  induction tids generalizing table with
  | nil => exact .inr found
  | cons head tail ih =>
      rcases ih _ found with ⟨listed, same⟩ | earlier
      · exact .inl ⟨List.mem_cons_of_mem _ listed, same⟩
      · rw [TreeMap.getElem?_insert] at earlier
        split at earlier
        next equal =>
          obtain rfl := compare_eq_iff_eq.mp equal
          exact .inl ⟨List.mem_cons_self, (Option.some.inj earlier).symm⟩
        · exact .inr earlier

private theorem wellFormed_push {members : MemberMap} {build next : ItemBuild} {item : PlannerItem}
    (valid : build.WellFormed members) (items : next.items = build.items ++ [item])
    (indexed : ∀ tid index, next.itemIndexByTid[tid]? = some index →
      (tid ∈ item.memberTids ∧ index = build.items.length) ∨
        build.itemIndexByTid[tid]? = some index)
    (domains : ∀ tid ∈ item.memberTids, ∀ domain ∈ item.allowedDomains,
      domain ∈ memberDomains members tid) : next.WellFormed members where
  indexed tid index found := by
    rw [items]
    rcases indexed tid index found with ⟨member, rfl⟩ | earlier
    · exact ⟨item, by simp, member⟩
    · obtain ⟨stored, lookup, member⟩ := valid.indexed tid index earlier
      exact ⟨stored, by rw [List.getElem?_append_left (List.getElem?_eq_some_iff.mp lookup).1, lookup],
        member⟩
  domains stored member := by
    rw [items, List.mem_append, List.mem_singleton] at member
    rcases member with earlier | rfl
    · exact valid.domains stored earlier
    · exact domains

theorem addGroup_wellFormed {features : BuildFeatures} {members : MemberMap}
    {snapshot : PlannerInput} {build : ItemBuild} (valid : build.WellFormed members)
    (group : Nat × List Nat) : (build.addGroup features members snapshot group).WellFormed members := by
  unfold ItemBuild.addGroup
  dsimp only
  split
  · exact valid
  · split
    · refine wellFormed_push valid rfl ?_ ?_
      · intro tid index found
        exact indexAll_cases _ _ found
      · intro tid member domain common
        exact (mem_commonDomains_iff (List.ne_nil_of_mem member)).mp common _ member
    · exact ⟨valid.indexed, valid.domains⟩

theorem addSingle_wellFormed {members : MemberMap} {build : ItemBuild}
    (valid : build.WellFormed members) (tid : Nat) : (build.addSingle members tid).WellFormed members := by
  unfold ItemBuild.addSingle
  split
  · exact valid
  · split
    · exact valid
    next member found =>
      refine wellFormed_push valid rfl ?_ ?_
      · intro other index lookup
        exact indexAll_cases [tid] build.itemIndexByTid lookup
      · intro other listed domain allowed
        obtain rfl := List.mem_singleton.mp listed
        simpa [memberDomains, found] using allowed

theorem buildItems_wellFormed (features : BuildFeatures) (members : MemberMap)
    (snapshot : PlannerInput) (mode : PlanMode) :
    (buildItems features members snapshot mode).WellFormed members := by
  unfold buildItems
  dsimp only
  refine List.foldlRecOn _ _ (motive := ItemBuild.WellFormed members) ?_
    fun build valid tid _ => addSingle_wellFormed valid tid
  refine List.foldlRecOn _ _ (motive := ItemBuild.WellFormed members) ?_
    fun build valid group _ => addGroup_wellFormed valid group
  exact ⟨by simp, by simp⟩

/-! ## Pairs -/

theorem mem_orderedPairs {α : Type} {values : List α} {pair : α × α}
    (listed : pair ∈ orderedPairs values) : pair.1 ∈ values ∧ pair.2 ∈ values := by
  induction values with
  | nil => cases listed
  | cons head tail ih =>
      rcases List.mem_append.mp listed with first | later
      · obtain ⟨other, member, rfl⟩ := List.mem_map.mp first
        exact ⟨List.mem_cons_self, List.mem_cons_of_mem _ member⟩
      · exact ⟨List.mem_cons_of_mem _ (ih later).1, List.mem_cons_of_mem _ (ih later).2⟩

theorem orderedPairs_total {α : Type} {values : List α} {left right : α} (first : left ∈ values)
    (second : right ∈ values) (apart : left ≠ right) :
    (left, right) ∈ orderedPairs values ∨ (right, left) ∈ orderedPairs values := by
  induction values with
  | nil => cases first
  | cons head tail ih =>
      unfold orderedPairs
      rw [List.mem_append, List.mem_append, List.mem_map, List.mem_map]
      rcases List.mem_cons.mp first with rfl | leftLater
      · rcases List.mem_cons.mp second with rfl | rightLater
        · exact absurd rfl apart
        · exact .inl (.inl ⟨right, rightLater, rfl⟩)
      · rcases List.mem_cons.mp second with rfl | rightLater
        · exact .inr (.inl ⟨left, leftLater, rfl⟩)
        · rcases ih leftLater rightLater with listed | listed
          · exact .inl (.inr listed)
          · exact .inr (.inr listed)

/-! ## The seed -/

/-- A seeded domain is allowed to the item or is the home of all its members. -/
theorem seedAssignment_domain {item : PlannerItem} {snapshot : PlannerInput} {members : MemberMap}
    {wasGlobal : Bool} {domain : Nat}
    (seeded : seedAssignment item snapshot members wasGlobal = .domain domain) :
    wasGlobal = false ∧ (domain ∈ item.allowedDomains ∨
      ∀ tid ∈ item.memberTids, members[tid]?.bind (·.currentDomain) = some domain) := by
  unfold seedAssignment at seeded
  split at seeded
  · simp at seeded
  next incremental =>
    split at seeded
    · simp at seeded
    · split at seeded
      · simp at seeded
      next legal =>
        rw [Assignment.domain.inj seeded] at legal
        refine ⟨by simpa using incremental, ?_⟩
        simp only [Bool.and_eq_true, Bool.not_eq_true', not_and, Bool.not_eq_false,
          List.all_eq_true, beq_iff_eq] at legal
        by_cases allowed : domain ∈ item.allowedDomains
        · exact .inl allowed
        · exact .inr (legal (Bool.eq_false_iff.mpr (mt TreeSet.contains_iff_mem.mp allowed)))

theorem buildState_assignment {features : BuildFeatures} {config : PlannerConfig}
    {snapshot : PlannerInput} {mode : PlanMode} {index : Nat} {assignment : Assignment}
    (found : (buildState features config snapshot mode).assignments[index]? = some assignment) :
    ∃ item, (buildState features config snapshot mode).items[index]? = some item ∧
      assignment = seedAssignment item snapshot (buildMembers config snapshot mode) mode.isGlobal := by
  simp only [buildState, List.getElem?_map] at found ⊢
  obtain ⟨item, stored, rfl⟩ := Option.map_eq_some_iff.mp found
  exact ⟨item, stored, rfl⟩

end CSwitch.Planner
