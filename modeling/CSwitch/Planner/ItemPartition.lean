import CSwitch.Library.FoldPrefix
import CSwitch.Planner.StateProperties

/-! The items of a planner state are a partition of the threads in scope: every
thread that is known there belongs to exactly one item, and the index table
finds it. -/

set_option autoImplicit false

namespace CSwitch.Planner

open Library
open Std (TreeMap TreeSet)

structure ItemBuild.Partition (members : MemberMap) (scope : List Nat) (build : ItemBuild) :
    Prop where
  placed : ∀ (index : Nat) item, build.items[index]? = some item → ∀ tid ∈ item.memberTids,
    build.itemIndexByTid[tid]? = some index
  distinct : ∀ item ∈ build.items, item.memberTids.Nodup
  known : ∀ item ∈ build.items, ∀ tid ∈ item.memberTids, (members[tid]?).isSome = true
  inScope : ∀ item ∈ build.items, ∀ tid ∈ item.memberTids, tid ∈ scope

theorem getElem?_indexAll (tids : List Nat) (position tid : Nat) (table : TreeMap Nat Nat) :
    (tids.foldl (fun table tid => table.insert tid position) table)[tid]? =
      if tid ∈ tids then some position else table[tid]? := by
  induction tids generalizing table with
  | nil => simp
  | cons head tail ih =>
      rw [List.foldl_cons, ih, TreeMap.getElem?_insert]
      by_cases later : tid ∈ tail
      · simp [later]
      · by_cases here : head = tid
        · simp [here]
        · have other : tid ≠ head := fun same => here same.symm
          have apart : compare head tid ≠ .eq := mt compare_eq_iff_eq.mp here
          simp [later, other, apart]

/-- A new item of threads that are in no item yet. -/
theorem ItemBuild.Partition.push {members : MemberMap} {scope : List Nat}
    {build next : ItemBuild} {item : PlannerItem} (valid : build.Partition members scope)
    (items : next.items = build.items ++ [item])
    (table : next.itemIndexByTid =
      item.memberTids.foldl (fun table tid => table.insert tid build.items.length)
        build.itemIndexByTid)
    (distinct : item.memberTids.Nodup)
    (known : ∀ tid ∈ item.memberTids, (members[tid]?).isSome = true)
    (inScope : ∀ tid ∈ item.memberTids, tid ∈ scope)
    (fresh : ∀ tid ∈ item.memberTids, build.itemIndexByTid[tid]? = none) :
    next.Partition members scope where
  placed index stored found tid member := by
    rw [table, getElem?_indexAll]
    rw [items] at found
    rcases Nat.lt_or_ge index build.items.length with old | new
    · rw [List.getElem?_append_left old] at found
      have before := valid.placed index stored found tid member
      rw [if_neg]
      · exact before
      · intro again
        rw [fresh tid again] at before
        cases before
    · rw [List.getElem?_append_right new] at found
      obtain ⟨bound, same⟩ := List.getElem?_eq_some_iff.mp found
      have last : index = build.items.length := by
        rw [List.length_singleton] at bound
        omega
      subst last
      obtain rfl : item = stored := by simpa using found
      exact if_pos member
  distinct stored member := by
    rw [items, List.mem_append, List.mem_singleton] at member
    rcases member with earlier | rfl
    · exact valid.distinct stored earlier
    · exact distinct
  known stored member := by
    rw [items, List.mem_append, List.mem_singleton] at member
    rcases member with earlier | rfl
    · exact valid.known stored earlier
    · exact known
  inScope stored member := by
    rw [items, List.mem_append, List.mem_singleton] at member
    rcases member with earlier | rfl
    · exact valid.inScope stored earlier
    · exact inScope

/-! ## Groups -/

/-- The groups hold threads of the scope, each under its own process. -/
def GroupsOf (members : MemberMap) (scope : List Nat) (groups : TreeMap Nat (List Nat)) : Prop :=
  ∀ (tgid : Nat) (tids : List Nat), groups[tgid]? = some tids → tids.Nodup ∧ ∀ tid ∈ tids,
    tid ∈ scope ∧ ∃ member, members[tid]? = some member ∧ member.tgid = tgid

theorem GroupsOf.mono {members : MemberMap} {scope wider : List Nat}
    {groups : TreeMap Nat (List Nat)} (valid : GroupsOf members scope groups)
    (wide : ∀ tid ∈ scope, tid ∈ wider) : GroupsOf members wider groups := by
  intro tgid tids found
  obtain ⟨distinct, each⟩ := valid tgid tids found
  refine ⟨distinct, fun tid listed => ?_⟩
  obtain ⟨inside, member⟩ := each tid listed
  exact ⟨wide tid inside, member⟩

theorem groupTids_groupsOf (members : MemberMap) (tids : TreeSet Nat) :
    GroupsOf members tids.toList (groupTids members tids) := by
  unfold groupTids
  refine foldl_prefix_invariant (GroupsOf members) ?_ ?_
  · intro tgid group found
    simp at found
  · intro done tid rest groups split valid
    have wider : GroupsOf members (done ++ [tid]) groups :=
      valid.mono fun other listed => List.mem_append_left _ listed
    have new : tid ∉ done := by
      have unique := nodup_toList tids
      rw [split] at unique
      exact fun listed => List.disjoint_of_nodup_append unique listed List.mem_cons_self
    cases found : members[tid]? with
    | none => exact wider
    | some member =>
        dsimp only
        split
        · intro tgid group lookup
          rw [TreeMap.getElem?_insert] at lookup
          split at lookup
          next same =>
            obtain rfl := compare_eq_iff_eq.mp same
            obtain rfl := Option.some.inj lookup
            have own : tid ∈ done ++ [tid] ∧ ∃ stored, members[tid]? = some stored ∧
                stored.tgid = member.tgid :=
              ⟨List.mem_append_right _ (List.mem_singleton.mpr rfl), member, found, rfl⟩
            cases earlier : groups[member.tgid]? with
            | none =>
                refine ⟨by simp, fun other listed => ?_⟩
                obtain rfl : other = tid := by simpa using listed
                exact own
            | some peers =>
                obtain ⟨distinct, each⟩ := wider member.tgid peers earlier
                rw [Option.getD_some]
                refine ⟨?_, fun other listed => ?_⟩
                · refine List.Nodup.append distinct (List.nodup_singleton tid) ?_
                  intro other listed last
                  obtain rfl := List.mem_singleton.mp last
                  exact new ((valid member.tgid peers earlier).2 other listed).1
                · rcases List.mem_append.mp listed with peer | last
                  · exact each other peer
                  · obtain rfl := List.mem_singleton.mp last
                    exact own
          · exact wider tgid group lookup
        · exact wider

/-! ## The two passes -/

/-- Included tids are the ones in an item, as long as only groups have one. -/
structure ItemBuild.Grouped (members : MemberMap) (scope : List Nat) (build : ItemBuild)
    (done : List (Nat × List Nat)) : Prop where
  partition : build.Partition members scope
  included : ∀ tid : Nat, tid ∈ build.includedTids ↔ (build.itemIndexByTid[tid]?).isSome = true
  grouped : ∀ tid : Nat, (build.itemIndexByTid[tid]?).isSome = true →
    ∃ group ∈ done, tid ∈ group.2

theorem empty_partition (members : MemberMap) (scope : List Nat) :
    ItemBuild.Partition members scope {} where
  placed _ _ found := by simp at found
  distinct _ member := by simp at member
  known _ member := by simp at member
  inScope _ member := by simp at member

/-- A tid is in the group of its own process only. -/
theorem GroupsOf.key_eq {members : MemberMap} {scope : List Nat}
    {groups : TreeMap Nat (List Nat)} (valid : GroupsOf members scope groups)
    {first second tid : Nat} {left right : List Nat} (leftStored : groups[first]? = some left)
    (rightStored : groups[second]? = some right) (inLeft : tid ∈ left) (inRight : tid ∈ right) :
    first = second := by
  obtain ⟨_, leftMember, leftFound, leftTgid⟩ := (valid first left leftStored).2 tid inLeft
  obtain ⟨_, rightMember, rightFound, rightTgid⟩ := (valid second right rightStored).2 tid inRight
  obtain rfl := Option.some.inj (leftFound.symm.trans rightFound)
  exact leftTgid.symm.trans rightTgid

theorem ItemBuild.Grouped.addGroup (features : BuildFeatures) {members : MemberMap}
    (snapshot : PlannerInput) {scope : List Nat} {groups : TreeMap Nat (List Nat)}
    (valid : GroupsOf members scope groups) {build : ItemBuild} {done : List (Nat × List Nat)}
    (running : build.Grouped members scope done) {tgid : Nat} {tids : List Nat}
    (stored : groups[tgid]? = some tids)
    (others : ∀ group ∈ done, groups[group.1]? = some group.2 ∧ group.1 ≠ tgid) :
    (build.addGroup features members snapshot (tgid, tids)).Grouped members scope
      (done ++ [(tgid, tids)]) := by
  obtain ⟨partition, included, grouped⟩ := running
  obtain ⟨distinct, each⟩ := valid tgid tids stored
  have wider : ∀ tid : Nat, (∃ group ∈ done, tid ∈ group.2) →
      ∃ group ∈ done ++ [(tgid, tids)], tid ∈ group.2 := by
    rintro tid ⟨group, earlier, listed⟩
    exact ⟨group, List.mem_append_left _ earlier, listed⟩
  unfold ItemBuild.addGroup
  dsimp only
  split
  · exact ⟨partition, included, fun tid found => wider tid (grouped tid found)⟩
  · split
    · have indexed : ∀ tid : Nat, (tids.foldl (fun index tid => index.insert tid build.items.length)
          build.itemIndexByTid)[tid]?.isSome = true ↔
            tid ∈ tids ∨ (build.itemIndexByTid[tid]?).isSome = true := by
        intro tid
        rw [getElem?_indexAll]
        by_cases listed : tid ∈ tids <;> simp [listed]
      refine ⟨?_, ?_, ?_⟩
      · refine partition.push rfl rfl distinct ?_ (fun tid listed => (each tid listed).1) ?_
        · intro tid listed
          obtain ⟨_, member, found, _⟩ := each tid listed
          rw [found]
          rfl
        · -- a tid of an earlier group belongs to another process
          intro tid listed
          by_contra present
          obtain ⟨group, earlier, member⟩ := grouped tid (Option.isSome_iff_ne_none.mpr present)
          obtain ⟨lookup, apart⟩ := others group earlier
          exact apart (valid.key_eq lookup stored member listed)
      · intro tid
        rw [indexed, ← included, TreeSet.mem_insertMany_list]
        simp [or_comm]
      · intro tid found
        rcases (indexed tid).mp found with listed | earlier
        · exact ⟨_, List.mem_append_right _ (List.mem_singleton.mpr rfl), listed⟩
        · exact wider tid (grouped tid earlier)
    · exact ⟨⟨partition.placed, partition.distinct, partition.known, partition.inScope⟩, included,
        fun tid found => wider tid (grouped tid found)⟩

theorem groupPass_grouped (features : BuildFeatures) {members : MemberMap}
    (snapshot : PlannerInput) {scope : List Nat} {groups : TreeMap Nat (List Nat)}
    (valid : GroupsOf members scope groups) :
    (groups.toList.foldl (ItemBuild.addGroup features members snapshot) {}).Grouped members scope
      groups.toList := by
  refine foldl_prefix_invariant (fun done build => ItemBuild.Grouped members scope build done) ?_ ?_
  · exact ⟨empty_partition members scope, fun tid => by simp, fun tid found => by simp at found⟩
  · rintro done ⟨tgid, tids⟩ rest build split running
    have stored : ∀ group ∈ done ++ [(tgid, tids)], groups[group.1]? = some group.2 := by
      intro group listed
      refine TreeMap.mem_toList_iff_getElem?_eq_some.mp ?_
      rw [split, List.append_cons]
      exact List.mem_append_left _ listed
    refine running.addGroup features snapshot valid
      (stored _ (List.mem_append_right _ (List.mem_singleton.mpr rfl))) ?_
    intro group earlier
    refine ⟨stored group (List.mem_append_left _ earlier), ?_⟩
    have keys := TreeMap.distinct_keys_toList (t := groups)
    rw [split, List.pairwise_append] at keys
    intro same
    exact keys.2.2 group earlier _ List.mem_cons_self (compare_eq_iff_eq.mpr same)

/-- After the groups, the rest of the scope gets one item for each known tid. -/
structure ItemBuild.Completed (members : MemberMap) (scope : List Nat) (start : ItemBuild)
    (done : List Nat) (build : ItemBuild) : Prop where
  partition : build.Partition members scope
  included : build.includedTids = start.includedTids
  indexed : ∀ tid : Nat, (build.itemIndexByTid[tid]?).isSome = true ↔
    tid ∈ start.includedTids ∨ (tid ∈ done ∧ (members[tid]?).isSome = true)

theorem ItemBuild.Completed.addSingle {members : MemberMap} {scope done : List Nat}
    {start build : ItemBuild} (running : ItemBuild.Completed members scope start done build)
    {tid : Nat} (listed : tid ∈ scope) (new : tid ∉ done) :
    ItemBuild.Completed members scope start (done ++ [tid]) (build.addSingle members tid) := by
  obtain ⟨partition, included, indexed⟩ := running
  have later : ∀ other : Nat, (other ∈ done ++ [tid] ∧ (members[other]?).isSome = true) ↔
      (other ∈ done ∧ (members[other]?).isSome = true) ∨
        (other = tid ∧ (members[other]?).isSome = true) := by
    intro other
    rw [List.mem_append, List.mem_singleton]
    tauto
  unfold ItemBuild.addSingle
  split
  next inGroup =>
    refine ⟨partition, included, fun other => ?_⟩
    rw [indexed, later]
    have inside : tid ∈ start.includedTids := included ▸ TreeSet.contains_iff_mem.mp inGroup
    constructor
    · tauto
    · rintro (found | found | ⟨rfl, _⟩)
      · exact .inl found
      · exact .inr found
      · exact .inl inside
  next single =>
    split
    next unknown =>
      refine ⟨partition, included, fun other => ?_⟩
      rw [indexed, later]
      constructor
      · tauto
      · rintro (found | found | ⟨rfl, known⟩)
        · exact .inl found
        · exact .inr found
        · rw [unknown] at known
          cases known
    next member found =>
      refine ⟨?_, included, fun other => ?_⟩
      · refine partition.push rfl rfl (List.nodup_singleton tid) ?_ ?_ ?_
        · intro other same
          rw [List.mem_singleton.mp same, found]
          rfl
        · intro other same
          exact List.mem_singleton.mp same ▸ listed
        · intro other same
          obtain rfl := List.mem_singleton.mp same
          by_contra present
          rcases (indexed other).mp (Option.isSome_iff_ne_none.mpr present) with inside | ⟨earlier, _⟩
          · rw [← included, ← TreeSet.contains_iff_mem] at inside
            exact single inside
          · exact new earlier
      · rw [later, TreeMap.getElem?_insert]
        split
        next same =>
          obtain rfl := compare_eq_iff_eq.mp same
          simp [found]
        next apart =>
          have other_ne : other ≠ tid := fun same => apart (compare_eq_iff_eq.mpr same.symm)
          rw [indexed]
          simp [other_ne]

theorem singlePass_completed {members : MemberMap} {tids : TreeSet Nat} {build : ItemBuild}
    {groups : List (Nat × List Nat)} (grouped : build.Grouped members tids.toList groups) :
    ItemBuild.Completed members tids.toList build tids.toList
      (tids.toList.foldl (ItemBuild.addSingle members) build) := by
  refine foldl_prefix_invariant
    (ItemBuild.Completed members tids.toList build) ?_ ?_
  · refine ⟨grouped.partition, rfl, fun tid => ?_⟩
    rw [grouped.included]
    simp
  · intro done tid rest running split completed
    have unique := nodup_toList tids
    rw [split] at unique
    refine completed.addSingle (split ▸ List.mem_append_right _ List.mem_cons_self) ?_
    intro earlier
    exact List.disjoint_of_nodup_append unique earlier List.mem_cons_self

/-- The items of a build partition the known tids of its scope. -/
theorem buildItems_partition (features : BuildFeatures) (members : MemberMap)
    (snapshot : PlannerInput) (mode : PlanMode) :
    (buildItems features members snapshot mode).Partition members
        (targetTids members snapshot mode).toList ∧
      ∀ tid : Nat, ((buildItems features members snapshot mode).itemIndexByTid[tid]?).isSome = true ↔
        tid ∈ targetTids members snapshot mode ∧ (members[tid]?).isSome = true := by
  have valid := groupTids_groupsOf members (targetTids members snapshot mode)
  have grouped := groupPass_grouped features snapshot valid
  have completed := singlePass_completed grouped
  refine ⟨completed.partition, fun tid => ?_⟩
  unfold buildItems
  dsimp only
  rw [completed.indexed tid, TreeSet.mem_toList, grouped.included]
  constructor
  · rintro (inGroup | found)
    · obtain ⟨⟨tgid, group⟩, stored, listed⟩ := grouped.grouped tid inGroup
      obtain ⟨inside, member, found, _⟩ :=
        (valid tgid group (TreeMap.mem_toList_iff_getElem?_eq_some.mp stored)).2 tid listed
      refine ⟨TreeSet.mem_toList.mp inside, ?_⟩
      rw [found]
      rfl
    · exact found
  · exact .inr

end CSwitch.Planner
