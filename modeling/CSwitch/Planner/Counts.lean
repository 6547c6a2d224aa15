import CSwitch.Planner.ItemPartition
import CSwitch.Planner.PlanProperties

/-! The sums behind a plan. Every per-domain vector of the planner is a
saturating sum over members; the members of items and the members placed by an
assignment are sums over the one member table. -/

set_option autoImplicit false

namespace CSwitch.Planner

open Library
open Std (TreeMap TreeSet)

/-! ## Tallies -/

/-- The exact sum that a tally saturates. -/
def tallySum {α : Type} (entries : List α) (index : α → Option Nat) (weight : α → Nat)
    (domain : Nat) : Nat :=
  ((entries.filter fun entry => decide (index entry = some domain)).map weight).sum

theorem tallySum_append {α : Type} (left right : List α) (index : α → Option Nat)
    (weight : α → Nat) (domain : Nat) :
    tallySum (left ++ right) index weight domain =
      tallySum left index weight domain + tallySum right index weight domain := by
  simp [tallySum]

theorem tallySum_one {α : Type} (entries : List α) (index : α → Option Nat) (domain : Nat) :
    tallySum entries index (fun _ => 1) domain =
      entries.countP fun entry => decide (index entry = some domain) := by
  simp [tallySum, List.countP_eq_length_filter]

theorem tallySum_perm {α : Type} {left right : List α} (same : left.Perm right)
    (index : α → Option Nat) (weight : α → Nat) (domain : Nat) :
    tallySum left index weight domain = tallySum right index weight domain :=
  ((same.filter _).map weight).sum_eq

theorem satAdd32_min (total value : Nat) :
    satAdd32 (min total u32Max) value = min (total + value) u32Max := by
  unfold satAdd32
  omega

theorem getElem?_tally {α : Type} (domainCount : Nat) (entries : List α) (index : α → Option Nat)
    (weight : α → Nat) (domain : Nat) :
    (tally domainCount entries index weight)[domain]? =
      if domain < domainCount then some (min (tallySum entries index weight domain) u32Max)
      else none := by
  unfold tally
  refine foldl_prefix_invariant (fun done (totals : List Nat) => totals[domain]? =
    if domain < domainCount then some (min (tallySum done index weight domain) u32Max)
    else none) ?_ ?_
  · rw [List.getElem?_replicate]
    simp [tallySum]
  · intro done entry rest totals _ running
    rw [tallySum_append]
    cases target : index entry with
    | none =>
        rw [running]
        simp [tallySum, target]
    | some other =>
        dsimp only
        rw [List.getElem?_modify, running]
        by_cases same : other = domain
        · subst same
          by_cases bound : other < domainCount
          · have own : tallySum [entry] index weight other = weight entry := by
              simp [tallySum, target]
            simp [bound, own, satAdd32_min]
          · simp [bound]
        · have apart : tallySum [entry] index weight domain = 0 := by
            simp [tallySum, target, same]
          simp [same, apart]

theorem tally_getD {α : Type} {domainCount domain : Nat} {entries : List α}
    {index : α → Option Nat} {weight : α → Nat} (bound : domain < domainCount)
    (fits : tallySum entries index weight domain ≤ u32Max) :
    (tally domainCount entries index weight)[domain]?.getD 0 =
      tallySum entries index weight domain := by
  rw [getElem?_tally, if_pos bound, Option.getD_some, Nat.min_eq_left fits]

/-- A tally depends on its entries through their exact sums only. -/
theorem tally_congr {α : Type} (domainCount : Nat) (index : α → Option Nat) (weight : α → Nat)
    {left right : List α}
    (same : ∀ domain < domainCount, tallySum left index weight domain =
      tallySum right index weight domain) :
    tally domainCount left index weight = tally domainCount right index weight := by
  refine List.ext_getElem? ?_
  intro domain
  rw [getElem?_tally, getElem?_tally]
  split
  next bound => rw [same domain bound]
  · rfl

theorem tally_perm {α : Type} (domainCount : Nat) (index : α → Option Nat) (weight : α → Nat)
    {left right : List α} (same : left.Perm right) :
    tally domainCount left index weight = tally domainCount right index weight :=
  tally_congr domainCount index weight fun domain _ => tallySum_perm same index weight domain

/-! ## Slots -/

/-- The slots of a domain that members are predicted in. -/
def PredictedSlots.ofMembers (domain : Nat) (members : List MemberView) : PredictedSlots :=
  members.foldl (fun slots member => slots.add (member.allowedCpusByDomain[domain]?.getD ∅)) {}

theorem PredictedSlots.ofMembers_concat (domain : Nat) (members : List MemberView)
    (member : MemberView) : ofMembers domain (members ++ [member]) =
      (ofMembers domain members).add (member.allowedCpusByDomain[domain]?.getD ∅) := by
  unfold ofMembers
  rw [List.foldl_append]
  rfl

theorem getElem?_predictedSlots (state : PlannerState) (assignmentOf : Nat → Option Assignment)
    (domain : Nat) :
    (predictedSlots state assignmentOf)[domain]? =
      if domain < state.domains.length then some (.ofMembers domain
        ((state.members.values.filter (·.active)).filter fun member =>
          decide (predictedDomain state assignmentOf member = some domain)))
      else none := by
  unfold predictedSlots
  refine foldl_prefix_invariant (fun done (slots : List PredictedSlots) => slots[domain]? =
    if domain < state.domains.length then some (.ofMembers domain (done.filter fun member =>
      decide (predictedDomain state assignmentOf member = some domain))) else none) ?_ ?_
  · rw [List.getElem?_replicate]
    rfl
  · intro done member rest slots _ running
    rw [List.filter_append]
    unfold addPredictedMemberCpuSlots
    cases target : predictedDomain state assignmentOf member with
    | none => simpa [target] using running
    | some other =>
        dsimp only
        rw [List.getElem?_modify, running]
        by_cases here : other = domain
        · subst here
          by_cases bound : other < state.domains.length
          · simp [target, bound, PredictedSlots.ofMembers_concat]
          · simp [bound]
        · simp [target, here]

/-! ## Members -/

/-- Every member of the table is stored under its own tid. -/
def Keyed (members : MemberMap) : Prop :=
  ∀ (tid : Nat) member, members[tid]? = some member → member.tid = tid

theorem buildMembers_keyed (config : PlannerConfig) (snapshot : PlannerInput) (mode : PlanMode) :
    Keyed (buildMembers config snapshot mode) :=
  fun _ _ found => (buildMembers_reflects found).identity

theorem buildMembers_length (config : PlannerConfig) (snapshot : PlannerInput) (mode : PlanMode) :
    (buildMembers config snapshot mode).values.length = snapshot.threads.size := by
  rw [KeyedTotals.values_eq_map_toList, buildMembers, TreeMap.toList_map]
  simp

theorem mem_values {members : MemberMap} (keyed : Keyed members) {member : MemberView} :
    member ∈ members.values ↔ members[member.tid]? = some member := by
  rw [KeyedTotals.values_eq_map_toList, List.mem_map]
  constructor
  · rintro ⟨⟨tid, stored⟩, listed, rfl⟩
    have found := TreeMap.mem_toList_iff_getElem?_eq_some.mp listed
    rw [keyed tid stored found]
    exact found
  · intro found
    exact ⟨(member.tid, member), TreeMap.mem_toList_iff_getElem?_eq_some.mpr found, rfl⟩

theorem nodup_values {members : MemberMap} (keyed : Keyed members) : members.values.Nodup := by
  have tids : (members.values.map (·.tid)).Nodup := by
    have same : members.values.map (·.tid) = members.keys := by
      rw [KeyedTotals.values_eq_map_toList, ← TreeMap.map_fst_toList_eq_keys, List.map_map]
      refine List.map_congr_left ?_
      rintro ⟨tid, member⟩ listed
      exact keyed tid member (TreeMap.mem_toList_iff_getElem?_eq_some.mp listed)
    rw [same]
    exact TreeMap.nodup_keys
  exact List.Nodup.of_map _ tids

/-! ## Members of items -/

/-- The items of a state hold every tid of the index table once, and there is
one assignment per item. -/
structure PlannerState.Partitioned (state : PlannerState) : Prop where
  keyed : Keyed state.members
  placed : ∀ (index : Nat) item, state.items[index]? = some item → ∀ tid ∈ item.memberTids,
    state.itemIndexByTid[tid]? = some index
  distinct : ∀ item ∈ state.items, item.memberTids.Nodup
  known : ∀ item ∈ state.items, ∀ tid ∈ item.memberTids, (state.members[tid]?).isSome = true
  indexed : ∀ (tid : Nat) index, state.itemIndexByTid[tid]? = some index →
    ∃ item, state.items[index]? = some item ∧ tid ∈ item.memberTids
  assigned : state.assignments.length = state.items.length

theorem buildState_partitioned (features : BuildFeatures) (config : PlannerConfig)
    (snapshot : PlannerInput) (mode : PlanMode) :
    (buildState features config snapshot mode).Partitioned := by
  have partition := (buildItems_partition features (buildMembers config snapshot mode) snapshot
    mode).1
  have valid := buildItems_wellFormed features (buildMembers config snapshot mode) snapshot mode
  exact ⟨buildMembers_keyed config snapshot mode, partition.placed, partition.distinct,
    partition.known, valid.indexed, List.length_map _⟩

/-! ## One assignment per item -/

theorem PlannerState.assign_length (state : PlannerState) (itemIndex : Nat)
    (assignment : Assignment) :
    (state.assign itemIndex assignment).assignments.length = state.assignments.length := by
  simp [PlannerState.assign]

theorem movePasses_length (features : BuildFeatures) (snapshot : PlannerInput) (wasGlobal : Bool)
    (passes : Nat) (state : PlannerState) :
    (movePasses features snapshot wasGlobal passes state).assignments.length =
      state.assignments.length := by
  induction passes generalizing state with
  | zero => rfl
  | succ passes ih =>
      unfold movePasses
      split
      · rfl
      · rw [ih, PlannerState.assign_length]

theorem optimizeState_length (features : BuildFeatures) (snapshot : PlannerInput)
    (config : PlannerConfig) (state : PlannerState) (wasGlobal : Bool) :
    (optimizeState features snapshot config state wasGlobal).assignments.length =
      state.assignments.length := by
  unfold optimizeState swapPass
  split
  · exact movePasses_length _ _ _ _ _
  · rw [PlannerState.assign_length, PlannerState.assign_length, movePasses_length]

theorem applyPaperGreedySeed_length (snapshot : PlannerInput) (state : PlannerState)
    (wasGlobal : Bool) :
    (applyPaperGreedySeed snapshot state wasGlobal).assignments.length =
      state.assignments.length := by
  unfold applyPaperGreedySeed
  split
  · rfl
  · refine List.foldlRecOn _ _ (motive := fun (seed : PaperGreedyState) =>
      seed.state.assignments.length = state.assignments.length) rfl ?_
    intro seed kept itemIndex _
    unfold seedItem
    dsimp only
    split
    · exact kept
    · rw [PlannerState.assign_length, kept]

theorem PlannerState.Partitioned.reassign {before after : PlannerState}
    (valid : before.Partitioned) (frame : after = { before with assignments := after.assignments })
    (length : after.assignments.length = before.assignments.length) : after.Partitioned := by
  rw [frame]
  exact ⟨valid.keyed, valid.placed, valid.distinct, valid.known, valid.indexed,
    length.trans valid.assigned⟩

section Partitioned

variable {state : PlannerState} (valid : state.Partitioned)

include valid

theorem PlannerState.Partitioned.mem_tids {tid : Nat} :
    tid ∈ state.items.flatMap (·.memberTids) ↔ (state.itemIndexByTid[tid]?).isSome = true := by
  rw [List.mem_flatMap]
  constructor
  · rintro ⟨item, stored, listed⟩
    obtain ⟨index, found⟩ := List.mem_iff_getElem?.mp stored
    rw [valid.placed index item found tid listed]
    rfl
  · intro present
    obtain ⟨index, indexed⟩ := Option.isSome_iff_exists.mp present
    obtain ⟨item, found, listed⟩ := valid.indexed tid index indexed
    exact ⟨item, List.mem_of_getElem? found, listed⟩

theorem PlannerState.Partitioned.nodup_tids : (state.items.flatMap (·.memberTids)).Nodup := by
  refine List.nodup_flatMap.mpr ⟨valid.distinct, ?_⟩
  refine List.pairwise_iff_getElem.mpr ?_
  intro first second firstBound secondBound before tid left right
  have one := valid.placed first _ (List.getElem?_eq_getElem firstBound) tid left
  have two := valid.placed second _ (List.getElem?_eq_getElem secondBound) tid right
  rw [one] at two
  exact absurd (Option.some.inj two) before.ne

theorem PlannerState.Partitioned.itemMembers_perm :
    (itemMembers state.members state.items).Perm
      (state.members.values.filter fun member => (state.itemIndexByTid[member.tid]?).isSome) := by
  refine (List.perm_ext_iff_of_nodup ?_ ((nodup_values valid.keyed).filter _)).mpr ?_
  · refine valid.nodup_tids.filterMap ?_
    intro left right member leftFound rightFound
    rw [← valid.keyed left member leftFound, valid.keyed right member rightFound]
  · intro member
    rw [List.mem_filter, mem_values valid.keyed, itemMembers, List.mem_filterMap]
    constructor
    · rintro ⟨tid, listed, found⟩
      obtain rfl := valid.keyed tid member found
      exact ⟨found, valid.mem_tids.mp listed⟩
    · rintro ⟨found, present⟩
      exact ⟨member.tid, valid.mem_tids.mpr present, found⟩

theorem PlannerState.Partitioned.effectiveMemberDomain_eq {index tid : Nat} {item : PlannerItem}
    {assignment : Assignment} {member : MemberView} (stored : state.items[index]? = some item)
    (assigned : state.assignments[index]? = some assignment) (listed : tid ∈ item.memberTids)
    (found : state.members[tid]? = some member) :
    effectiveMemberDomain tid state = targetDomainForHome assignment member.currentDomain := by
  simp [effectiveMemberDomain, valid.placed index item stored tid listed, assigned, found]

/-- The placed members are the members of items that have an effective domain. -/
theorem PlannerState.Partitioned.placedMembers_eq :
    placedMembers state = (itemMembers state.members state.items).filterMap fun member =>
      (effectiveMemberDomain member.tid state).map fun domain => (member, domain) := by
  have each : (state.items.zip state.assignments).map (fun entry : PlannerItem × Assignment =>
      entry.1.memberTids.filterMap fun tid => do
        let member ← state.members[tid]?
        let targetDomain ← targetDomainForHome entry.2 member.currentDomain
        pure (member, targetDomain)) =
      state.items.map fun item => item.memberTids.filterMap fun tid =>
        state.members[tid]?.bind fun member =>
          (effectiveMemberDomain member.tid state).map fun domain => (member, domain) := by
    refine List.ext_getElem ?_ ?_
    · simp [valid.assigned]
    · intro index left right
      rw [List.getElem_map, List.getElem_map, List.getElem_zip]
      refine List.filterMap_congr ?_
      intro tid listed
      have itemBound : index < state.items.length := by simpa using right
      have assignedBound : index < state.assignments.length := valid.assigned ▸ itemBound
      cases found : state.members[tid]? with
      | none => rfl
      | some member =>
          have domain := valid.effectiveMemberDomain_eq (List.getElem?_eq_getElem itemBound)
            (List.getElem?_eq_getElem assignedBound) listed found
          rw [Option.bind_some, valid.keyed tid member found, domain, Option.map_eq_bind]
          rfl
  unfold placedMembers itemMembers
  rw [List.flatMap_def, each, ← List.flatMap_def, List.filterMap_filterMap, List.filterMap_flatMap]

end Partitioned

end CSwitch.Planner
