import CSwitch.Planner.SyncGroups

/-! Incremental planning and synchronised groups. The scope takes in the peers of
a touched thread, but not those of a thread that only runs in a touched domain, so
part of a group can be planned alone. -/

set_option autoImplicit false

namespace CSwitch.Planner

open Library
open Std (TreeMap TreeSet)

/-! ## The scope -/

def PlannerInput.domainTouched (snapshot : PlannerInput) (scope : PlannerScope) (domain : Nat) :
    Prop :=
  domain ∈ scope.touchedDomains ∨ ∃ tid ∈ scope.touchedTids, snapshot.home tid = some domain

/-- What the triggers pull into the scope. -/
inductive Affected (config : PlannerConfig) (snapshot : PlannerInput) (scope : PlannerScope)
    (tid : Nat) : Prop where
  | touched : tid ∈ scope.touchedTids → Affected config snapshot scope tid
  | peer {other : Nat} {thread : ManagedThreadState} : other ∈ scope.touchedTids →
      snapshot.threads[other]? = some thread → snapshot.inSyncGroup config thread.tgid tid = true →
      Affected config snapshot scope tid
  | home {thread : ManagedThreadState} {domain : Nat} : snapshot.threads[tid]? = some thread →
      snapshot.isActive tid thread = true → threadHome thread = some domain →
      snapshot.domainTouched scope domain → Affected config snapshot scope tid

/-- A scope without any thread falls back to the pending ones. -/
def InScope (config : PlannerConfig) (snapshot : PlannerInput) (scope : PlannerScope) (tid : Nat) :
    Prop :=
  Affected config snapshot scope tid ∨
    ((∀ other, ¬ Affected config snapshot scope other) ∧ tid ∈ snapshot.pendingTids)

theorem mem_tids_filter {members : MemberMap} (keyed : Keyed members) {counts : MemberView → Bool}
    {tid : Nat} :
    tid ∈ (members.values.filter counts).map (·.tid) ↔
      ∃ member, members[tid]? = some member ∧ counts member = true := by
  rw [List.mem_map]
  constructor
  · rintro ⟨member, listed, rfl⟩
    obtain ⟨stored, counted⟩ := List.mem_filter.mp listed
    exact ⟨member, (mem_values keyed).mp stored, counted⟩
  · rintro ⟨member, found, counted⟩
    obtain rfl := keyed tid member found
    exact ⟨member, List.mem_filter.mpr ⟨(mem_values keyed).mpr found, counted⟩, rfl⟩

section Scope

variable {config : PlannerConfig} {snapshot : PlannerInput} {scope : PlannerScope}

theorem buildMembers_home (mode : PlanMode) (tid : Nat) :
    (buildMembers config snapshot mode)[tid]?.bind (·.currentDomain) = snapshot.home tid := by
  unfold PlannerInput.home
  rw [getElem?_buildMembers]
  cases snapshot.threads[tid]? with
  | none => rfl
  | some thread => rfl

theorem mem_touchedDomains (mode : PlanMode) {domain : Nat} :
    domain ∈ scope.touchedTids.toList.foldl (fun (domains : TreeSet Nat) tid =>
      match (buildMembers config snapshot mode)[tid]?.bind (·.currentDomain) with
      | none => domains
      | some domain => domains.insert domain) scope.touchedDomains ↔
      snapshot.domainTouched scope domain := by
  rw [mem_foldl_iff fun tid domain => snapshot.home tid = some domain]
  · simp only [TreeSet.mem_toList]
    rfl
  · intro domains tid value
    rw [buildMembers_home]
    cases snapshot.home tid with
    | none => simp
    | some home =>
        rw [TreeSet.mem_insert, compare_eq_iff_eq, or_comm]
        simp

/-- The peers of the touched threads. -/
theorem mem_touchedPeers (mode : PlanMode) {tid : Nat} :
    tid ∈ scope.touchedTids.toList.foldl (fun (affected : TreeSet Nat) other =>
      match (buildMembers config snapshot mode)[other]? with
      | none => affected.insert other
      | some member => (affected.insert other).insertMany
          (((buildMembers config snapshot mode).values.filter fun peer =>
            peer.active && peer.tgid == member.tgid && peer.syncQualified).map (·.tid))) ∅ ↔
      tid ∈ scope.touchedTids ∨ ∃ other ∈ scope.touchedTids, ∃ thread,
        snapshot.threads[other]? = some thread ∧
          snapshot.inSyncGroup config thread.tgid tid = true := by
  rw [mem_foldl_iff fun other tid => other = tid ∨ ∃ thread,
    snapshot.threads[other]? = some thread ∧ snapshot.inSyncGroup config thread.tgid tid = true]
  · simp only [TreeSet.mem_toList, TreeSet.not_mem_emptyc, false_or]
    constructor
    · rintro ⟨other, listed, rfl | peer⟩
      · exact .inl listed
      · exact .inr ⟨other, listed, peer⟩
    · rintro (listed | ⟨other, listed, peer⟩)
      · exact ⟨tid, listed, .inl rfl⟩
      · exact ⟨other, listed, .inr peer⟩
  · intro affected other value
    rw [getElem?_buildMembers]
    cases snapshot.threads[other]? with
    | none =>
        rw [Option.map_none]
        dsimp only
        rw [TreeSet.mem_insert, compare_eq_iff_eq]
        simp [or_comm]
    | some thread =>
        rw [Option.map_some]
        dsimp only
        rw [TreeSet.mem_insertMany_list, List.contains_iff_mem,
          mem_tids_filter (buildMembers_keyed config snapshot mode), TreeSet.mem_insert,
          compare_eq_iff_eq]
        have peers : (∃ member, (buildMembers config snapshot mode)[value]? = some member ∧
            (member.active && member.tgid == (memberView config snapshot mode other thread).tgid &&
              member.syncQualified) = true) ↔
            snapshot.inSyncGroup config thread.tgid value = true := by
          rw [inSyncGroup_iff mode]
          refine exists_congr fun member => and_congr_right fun _ => ?_
          unfold MemberView.synced
          rw [Bool.and_comm member.active]
          rfl
        rw [peers]
        simp only [Option.some.injEq, exists_eq_left']
        tauto

theorem mem_homeTouched (mode : PlanMode) {domains : TreeSet Nat} {tid : Nat}
    (touched : ∀ domain : Nat, domain ∈ domains ↔ snapshot.domainTouched scope domain) :
    tid ∈ ((buildMembers config snapshot mode).values.filter fun member =>
      member.active && (member.currentDomain.map domains.contains).getD false).map (·.tid) ↔
      ∃ thread domain, snapshot.threads[tid]? = some thread ∧ snapshot.isActive tid thread = true ∧
        threadHome thread = some domain ∧ snapshot.domainTouched scope domain := by
  rw [mem_tids_filter (buildMembers_keyed config snapshot mode), getElem?_buildMembers]
  cases snapshot.threads[tid]? with
  | none => simp
  | some thread =>
      rw [Option.map_some]
      simp only [Option.some.injEq, exists_eq_left', Bool.and_eq_true]
      change (snapshot.isActive tid thread = true ∧
        ((threadHome thread).map domains.contains).getD false = true) ↔ _
      cases known : threadHome thread with
      | none => simp [known]
      | some home =>
          rw [Option.map_some, Option.getD_some, TreeSet.contains_iff_mem, touched]
          simp [known]

/-- `affected_tids` in terms of the snapshot. -/
theorem mem_affectedTids (mode : PlanMode) {tid : Nat} :
    tid ∈ affectedTids (buildMembers config snapshot mode) snapshot scope ↔
      InScope config snapshot scope tid := by
  unfold affectedTids
  dsimp only
  generalize filled : TreeSet.insertMany (_ : TreeSet Nat) (_ : List Nat) = affected
  have members : ∀ other : Nat, other ∈ affected ↔ Affected config snapshot scope other := by
    intro other
    rw [← filled, TreeSet.mem_insertMany_list, List.contains_iff_mem]
    refine (or_congr (mem_touchedPeers mode)
      (mem_homeTouched mode fun domain => mem_touchedDomains mode)).trans ?_
    constructor
    · rintro ((listed | ⟨peer, listed, thread, found, synced⟩) | ⟨thread, domain, found, active,
        home, touched⟩)
      · exact .touched listed
      · exact .peer listed found synced
      · exact .home found active home touched
    · intro reached
      cases reached with
      | touched listed => exact .inl (.inl listed)
      | peer listed found synced => exact .inl (.inr ⟨_, listed, _, found, synced⟩)
      | home found active home touched => exact .inr ⟨_, _, found, active, home, touched⟩
  unfold InScope
  split
  next empty =>
    have nobody : ∀ other, ¬ Affected config snapshot scope other := by
      intro other reached
      exact TreeSet.not_mem_of_isEmpty empty ((members other).mpr reached)
    rw [TreeSet.mem_insertMany_list, List.contains_iff_mem, members, TreeSet.mem_toList]
    exact or_congr_right (and_iff_right nobody).symm
  next filledScope =>
    rw [members]
    refine (or_iff_left ?_).symm
    rintro ⟨nobody, _⟩
    obtain ⟨other, listed⟩ := TreeSet.isEmpty_eq_false_iff_exists_mem.mp
      (Bool.eq_false_iff.mpr filledScope)
    exact nobody other ((members other).mp listed)

end Scope

/-! ## Groups that were planned together -/

/-- A group of at least two threads that the previous plan keeps together, in a
domain that all of them may use. -/
structure PlannedTogether (config : PlannerConfig) (snapshot : PlannerInput) (tgid domain : Nat) :
    Prop where
  several : ∃ left right : Nat, left ≠ right ∧ snapshot.inSyncGroup config tgid left = true ∧
    snapshot.inSyncGroup config tgid right = true
  allowed : ∀ tid : Nat, snapshot.inSyncGroup config tgid tid = true →
    domain ∈ snapshot.allowedDomainsOf tid
  planned : ∀ tid : Nat, snapshot.inSyncGroup config tgid tid = true →
    snapshot.previousTarget tid = some domain

/-- The group gets one target, or the evaluation reports that it is split. -/
def KeptTogether (config : PlannerConfig) (snapshot : PlannerInput) (tgid : Nat)
    (target : Nat → Option Nat) (evaluation : PlanEvaluation) : Prop :=
  (∃ domain, ∀ tid, snapshot.inSyncGroup config tgid tid = true → target tid = some domain) ∨
    SplitReported (fun tid => snapshot.inSyncGroup config tgid tid = true) tgid evaluation

/-- The target of a thread in the plan made from a state. -/
def emittedTarget (snapshot : PlannerInput) (mode : PlanMode) (state : PlannerState) (tid : Nat) :
    Option Nat :=
  state.members[tid]?.bind (entryTarget snapshot state mode tid)

/-- The target of a thread outside the scope. -/
def PlannerInput.restingTarget (snapshot : PlannerInput) (tid : Nat) : Option Nat :=
  (previousPlanDomainForMember tid (snapshot.home tid) (snapshot.allowedDomainsOf tid) snapshot).or
    (snapshot.home tid)

/-- Whether an item may be sent to a domain, or back to it. -/
def PlannerItem.MayGo (members : MemberMap) (snapshot : PlannerInput) (domain : Nat)
    (item : PlannerItem) : Prop :=
  (domain ∈ item.allowedDomains ∧
    ∀ tid ∈ item.memberTids, memberMayTake members snapshot domain tid = true) ∨
  ∀ tid ∈ item.memberTids, snapshot.home tid = some domain

/-- Whether the part of the group in scope may be sent to one domain. -/
def PartMayGo (config : PlannerConfig) (snapshot : PlannerInput) (tgid : Nat) (state : PlannerState)
    (domain : Nat) : Prop :=
  ∀ item ∈ state.items, (∃ tid ∈ item.memberTids, snapshot.inSyncGroup config tgid tid = true) →
    item.MayGo state.members snapshot domain

/-- When an incremental plan cannot separate the group silently: the group is in
scope as a whole, or not at all, or the part in scope may not leave the others. -/
inductive StaysTogether (config : PlannerConfig) (snapshot : PlannerInput) (scope : PlannerScope)
    (tgid domain : Nat) (state : PlannerState) : Prop where
  | whole : (∀ tid, snapshot.inSyncGroup config tgid tid = true →
      InScope config snapshot scope tid) → StaysTogether config snapshot scope tgid domain state
  | outside {target : Nat} : (∀ tid, snapshot.inSyncGroup config tgid tid = true →
      ¬ InScope config snapshot scope tid ∧ snapshot.restingTarget tid = some target) →
      StaysTogether config snapshot scope tgid domain state
  | held : (∀ tid, snapshot.inSyncGroup config tgid tid = true →
      ¬ InScope config snapshot scope tid → snapshot.restingTarget tid = some domain) →
      (∀ other ≠ domain, ¬ PartMayGo config snapshot tgid state other) →
      StaysTogether config snapshot scope tgid domain state

/-! ## What the search leaves of a group -/

section Outcome

variable {features : BuildFeatures} {config : PlannerConfig} {snapshot : PlannerInput}
  {scope : PlannerScope} {tgid domain : Nat} {outcome : PlannerState}

/-- What the search can make of a state: legal reassignments of its items. -/
structure SearchOutcome (snapshot : PlannerInput) (before outcome : PlannerState) : Prop where
  reassigns : Reassigns snapshot before outcome
  length : outcome.assignments.length = before.assignments.length

theorem SearchOutcome.partitioned {mode : PlanMode}
    (searched : SearchOutcome snapshot (buildState features config snapshot mode) outcome) :
    outcome.Partitioned :=
  (buildState_partitioned features config snapshot mode).reassign searched.reassigns.frame
    searched.length

theorem plannedState_searchOutcome (triggers : List PlannerTrigger) :
    SearchOutcome snapshot
      (buildState features config snapshot (modeAndState features config snapshot triggers).1)
      (plannedState features config snapshot triggers) where
  reassigns := plannedState_reassigns features config snapshot triggers
  length := by
    have reassigned := plannedState_reassigns features config snapshot triggers
    rw [(plannedState_partitioned features config snapshot triggers).assigned, reassigned.items,
      (buildState_partitioned features config snapshot _).assigned]

theorem SearchOutcome.syncConstraints {mode : PlanMode}
    (searched : SearchOutcome snapshot (buildState features config snapshot mode) outcome) :
    outcome.syncConstraints =
      (buildItems features (buildMembers config snapshot mode) snapshot mode).syncConstraints := by
  rw [searched.reassigns.frame]
  rfl

/-- Every item of the built state has an assignment in the outcome, old or legal. -/
theorem SearchOutcome.assigned {mode : PlanMode}
    (searched : SearchOutcome snapshot (buildState features config snapshot mode) outcome)
    {item : PlannerItem} (stored : item ∈ (buildState features config snapshot mode).items) :
    ∃ index assignment, (buildState features config snapshot mode).items[index]? = some item ∧
      outcome.assignments[index]? = some assignment ∧
      (assignment = seedAssignment item snapshot (buildMembers config snapshot mode) mode.isGlobal ∨
        candidateAllowed index assignment snapshot
          (buildState features config snapshot mode) = true) := by
  obtain ⟨index, found⟩ := List.mem_iff_getElem?.mp stored
  have bound : index < outcome.assignments.length := by
    rw [searched.partitioned.assigned, searched.reassigns.items]
    exact (List.getElem?_eq_some_iff.mp found).1
  refine ⟨index, _, found, List.getElem?_eq_getElem bound, ?_⟩
  rcases searched.reassigns.legal index _ (List.getElem?_eq_getElem bound) with seeded | allowed
  · obtain ⟨seed, seedFound, seedValue⟩ := buildState_assignment seeded
    obtain rfl := Option.some.inj (found.symm.trans seedFound)
    exact .inl seedValue
  · exact .inr allowed

/-- The domain of a thread follows the assignment of its item. -/
theorem SearchOutcome.effectiveMemberDomain_eq {mode : PlanMode}
    (searched : SearchOutcome snapshot (buildState features config snapshot mode) outcome)
    {item : PlannerItem} {index tid : Nat} {assignment : Assignment}
    (found : (buildState features config snapshot mode).items[index]? = some item)
    (assigned : outcome.assignments[index]? = some assignment) (listed : tid ∈ item.memberTids) :
    effectiveMemberDomain tid outcome = targetDomainForHome assignment (snapshot.home tid) := by
  obtain ⟨member, known⟩ := Option.isSome_iff_exists.mp
    ((buildState_partitioned features config snapshot mode).known item
      (List.mem_of_getElem? found) tid listed)
  have reflects := buildMembers_reflects known
  rw [← reflects.home]
  refine searched.partitioned.effectiveMemberDomain_eq ?_ assigned listed ?_
  · rw [searched.reassigns.items]
    exact found
  · rw [searched.reassigns.members]
    exact known

/-! ## The part of a group in scope -/

theorem mem_memberDomains_buildMembers {mode : PlanMode} {tid domain : Nat}
    (known : ((buildMembers config snapshot mode)[tid]?).isSome = true) :
    domain ∈ memberDomains (buildMembers config snapshot mode) tid ↔
      domain ∈ snapshot.allowedDomainsOf tid := by
  obtain ⟨member, found⟩ := Option.isSome_iff_exists.mp known
  unfold memberDomains
  rw [found, Option.map_some, Option.getD_some, (buildMembers_reflects found).domains]

/-- All the threads of an item belong to the group as soon as one does. -/
theorem item_grouped {mode : PlanMode} {item : PlannerItem} {tid other : Nat}
    (stored : item ∈ (buildState features config snapshot mode).items)
    (listed : tid ∈ item.memberTids) (grouped : snapshot.inSyncGroup config tgid tid = true)
    (peer : other ∈ item.memberTids) : snapshot.inSyncGroup config tgid other = true :=
  (inSyncGroup_iff mode).mpr ((buildItems_fromScope features _ snapshot mode item stored).uniform
    tgid tid listed ((inSyncGroup_iff mode).mp grouped) other peer)

/-- A thread is in an item exactly when it is known and in scope. -/
theorem exists_item_iff {tid : Nat} (grouped : snapshot.inSyncGroup config tgid tid = true) :
    (∃ item ∈ (buildState features config snapshot (.incremental scope)).items,
      tid ∈ item.memberTids) ↔ InScope config snapshot scope tid := by
  have partition := buildItems_partition features
    (buildMembers config snapshot (.incremental scope)) snapshot (.incremental scope)
  obtain ⟨member, found, _⟩ := (inSyncGroup_iff (.incremental scope)).mp grouped
  have known : ((buildMembers config snapshot (.incremental scope))[tid]?).isSome = true := by
    rw [found]
    rfl
  rw [← mem_affectedTids (.incremental scope)]
  constructor
  · rintro ⟨item, stored, listed⟩
    obtain ⟨index, position⟩ := List.mem_iff_getElem?.mp stored
    have placed := partition.1.placed index item position tid listed
    exact ((partition.2 tid).mp (by rw [placed]; rfl)).1
  · intro inside
    have present := (partition.2 tid).mpr ⟨inside, known⟩
    obtain ⟨index, indexed⟩ := Option.isSome_iff_exists.mp present
    obtain ⟨item, position, listed⟩ :=
      (buildState_partitioned features config snapshot (.incremental scope)).indexed tid index indexed
    exact ⟨item, List.mem_of_getElem? position, listed⟩

section Together

variable (together : PlannedTogether config snapshot tgid domain)

include together

theorem PlannedTogether.seed {item : PlannerItem} {tid : Nat}
    (stored : item ∈ (buildState features config snapshot (.incremental scope)).items)
    (listed : tid ∈ item.memberTids) (grouped : snapshot.inSyncGroup config tgid tid = true) :
    seedAssignment item snapshot (buildMembers config snapshot (.incremental scope)) false =
      .domain domain := by
  have peers : ∀ other ∈ item.memberTids, snapshot.inSyncGroup config tgid other = true :=
    fun other peer => item_grouped stored listed grouped peer
  refine seedAssignment_previous (buildItems_fromScope features _ snapshot _ item stored) ?_ ?_
  · intro other peer
    refine (mem_memberDomains_buildMembers ?_).mpr (together.allowed other (peers other peer))
    exact (buildState_partitioned features config snapshot _).known item stored other peer
  · intro other peer
    exact together.planned other (peers other peer)

/-- What an item of the group can end with: a target for every thread, and if all
have the same, the previous one or one that the item may be sent to. -/
theorem SearchOutcome.part_final
    (searched : SearchOutcome snapshot (buildState features config snapshot (.incremental scope))
      outcome) {item : PlannerItem} {tid : Nat}
    (stored : item ∈ (buildState features config snapshot (.incremental scope)).items)
    (listed : tid ∈ item.memberTids) (grouped : snapshot.inSyncGroup config tgid tid = true) :
    (∀ other ∈ item.memberTids, ∃ target, effectiveMemberDomain other outcome = some target) ∧
      ∀ target, (∀ other ∈ item.memberTids, effectiveMemberDomain other outcome = some target) →
        target = domain ∨ item.MayGo
          (buildState features config snapshot (.incremental scope)).members snapshot target := by
  obtain ⟨index, assignment, found, assigned, origin⟩ := searched.assigned stored
  have domains : ∀ other ∈ item.memberTids, effectiveMemberDomain other outcome =
      targetDomainForHome assignment (snapshot.home other) :=
    fun other peer => searched.effectiveMemberDomain_eq found assigned peer
  rcases origin with seeded | allowed
  · rw [seeded, PlanMode.isGlobal, together.seed stored listed grouped] at domains
    refine ⟨fun other peer => ⟨domain, domains other peer⟩, fun target same => .inl ?_⟩
    exact Option.some.inj ((same tid listed).symm.trans (domains tid listed))
  · unfold candidateAllowed at allowed
    rw [found] at allowed
    cases assignment with
    | currentHome =>
        have homes := List.all_eq_true.mp allowed
        refine ⟨fun other peer => ?_, fun target same => .inr (.inr fun other peer => ?_)⟩
        · have known := homes other peer
          rw [show (buildState features config snapshot (.incremental scope)).members =
            buildMembers config snapshot (.incremental scope) from rfl, buildMembers_home] at known
          rw [domains other peer]
          exact Option.isSome_iff_exists.mp known
        · rw [← same other peer, domains other peer]
          rfl
    | domain chosen =>
        rw [Bool.and_eq_true, TreeSet.contains_iff_mem, List.all_eq_true] at allowed
        refine ⟨fun other peer => ⟨chosen, domains other peer⟩, fun target same => .inr (.inl ?_)⟩
        obtain rfl := Option.some.inj ((domains tid listed).symm.trans (same tid listed))
        exact allowed

end Together

theorem SearchOutcome.emittedTarget_inside {mode : PlanMode} {tid target : Nat}
    (searched : SearchOutcome snapshot (buildState features config snapshot mode) outcome)
    (grouped : snapshot.inSyncGroup config tgid tid = true)
    (sent : effectiveMemberDomain tid outcome = some target) :
    emittedTarget snapshot mode outcome tid = some target := by
  obtain ⟨member, found, _⟩ := (inSyncGroup_iff mode).mp grouped
  have known : outcome.members[tid]? = some member := by
    rw [searched.reassigns.members]
    exact found
  unfold emittedTarget entryTarget
  rw [known, Option.bind_some, sent]
  rfl

theorem SearchOutcome.emittedTarget_outside {tid : Nat}
    (searched : SearchOutcome snapshot (buildState features config snapshot (.incremental scope))
      outcome)
    (grouped : snapshot.inSyncGroup config tgid tid = true)
    (outside : ¬ InScope config snapshot scope tid) :
    emittedTarget snapshot (.incremental scope) outcome tid = snapshot.restingTarget tid := by
  obtain ⟨member, found, _⟩ := (inSyncGroup_iff (.incremental scope)).mp grouped
  have reflects := buildMembers_reflects found
  have known : outcome.members[tid]? = some member := by
    rw [searched.reassigns.members]
    exact found
  have unplaced : outcome.itemIndexByTid[tid]? = none := by
    rw [searched.reassigns.itemIndexByTid]
    by_contra present
    obtain ⟨index, indexed⟩ := Option.ne_none_iff_exists'.mp present
    obtain ⟨item, position, listed⟩ :=
      (buildState_partitioned features config snapshot (.incremental scope)).indexed tid index indexed
    exact outside ((exists_item_iff grouped).mp ⟨item, List.mem_of_getElem? position, listed⟩)
  unfold emittedTarget entryTarget effectiveMemberDomain PlannerInput.restingTarget
  rw [known, Option.bind_some, unplaced, reflects.home, reflects.domains]
  rfl

section Together

variable (together : PlannedTogether config snapshot tgid domain)

include together

/-- A silent outcome sends the whole part in scope to one domain, the previous one
or one that the part may be sent to. -/
theorem SearchOutcome.part_target
    (searched : SearchOutcome snapshot (buildState features config snapshot (.incremental scope))
      outcome)
    (silent : ¬ SplitReported (SyncedIn (buildMembers config snapshot (.incremental scope)) tgid)
      tgid (evaluatePlan outcome)) {first : Nat}
    (grouped : snapshot.inSyncGroup config tgid first = true)
    (inside : InScope config snapshot scope first) :
    ∃ target, (∀ tid, snapshot.inSyncGroup config tgid tid = true →
        InScope config snapshot scope tid → effectiveMemberDomain tid outcome = some target) ∧
      (target = domain ∨ PartMayGo config snapshot tgid
        (buildState features config snapshot (.incremental scope)) target) := by
  have sent : ∀ tid, snapshot.inSyncGroup config tgid tid = true →
      InScope config snapshot scope tid →
      ∃ target, effectiveMemberDomain tid outcome = some target := by
    intro tid grouped inside
    obtain ⟨item, stored, listed⟩ := (exists_item_iff grouped).mpr inside
    exact (searched.part_final together stored listed grouped).1 tid listed
  obtain ⟨target, firstSent⟩ := sent first grouped inside
  have same : ∀ tid, snapshot.inSyncGroup config tgid tid = true →
      InScope config snapshot scope tid → effectiveMemberDomain tid outcome = some target := by
    intro tid peer peerInside
    obtain ⟨other, peerSent⟩ := sent tid peer peerInside
    by_contra different
    have apart : target ≠ other := by
      rintro rfl
      exact different peerSent
    have usable : ∀ tid, snapshot.inSyncGroup config tgid tid = true →
        domain ∈ memberDomains (buildMembers config snapshot (.incremental scope)) tid := by
      intro tid grouped
      obtain ⟨member, found, _⟩ := (inSyncGroup_iff (.incremental scope)).mp grouped
      exact (mem_memberDomains_buildMembers (by rw [found]; rfl)).mpr (together.allowed tid grouped)
    refine silent (splitReported_of_apart searched.syncConstraints ((mem_affectedTids _).mpr inside)
      ((mem_affectedTids _).mpr peerInside) ((inSyncGroup_iff _).mp grouped)
      ((inSyncGroup_iff _).mp peer) (usable first grouped) (usable tid peer) firstSent peerSent apart)
  refine ⟨target, same, ?_⟩
  by_cases stays : target = domain
  · exact .inl stays
  · refine .inr fun item stored ⟨tid, listed, peer⟩ => ?_
    have all : ∀ other ∈ item.memberTids, effectiveMemberDomain other outcome = some target := by
      intro other otherListed
      have otherGrouped := item_grouped stored listed peer otherListed
      exact same other otherGrouped ((exists_item_iff otherGrouped).mp ⟨item, stored, otherListed⟩)
    exact ((searched.part_final together stored listed peer).2 target all).resolve_left stays

/-- Nothing the search can do separates a group that stays together. -/
theorem StaysTogether.kept
    (stays : StaysTogether config snapshot scope tgid domain
      (buildState features config snapshot (.incremental scope)))
    (searched : SearchOutcome snapshot (buildState features config snapshot (.incremental scope))
      outcome) :
    KeptTogether config snapshot tgid (emittedTarget snapshot (.incremental scope) outcome)
      (evaluatePlan outcome) := by
  have group : (fun tid => snapshot.inSyncGroup config tgid tid = true) =
      SyncedIn (buildMembers config snapshot (.incremental scope)) tgid :=
    funext fun tid => propext (inSyncGroup_iff (.incremental scope))
  unfold KeptTogether
  rw [group]
  by_cases silent : SplitReported (SyncedIn (buildMembers config snapshot (.incremental scope)) tgid)
      tgid (evaluatePlan outcome)
  · exact .inr silent
  left
  cases stays with
  | whole whole =>
      obtain ⟨first, _, _, grouped, _⟩ := together.several
      obtain ⟨target, sent, _⟩ := searched.part_target together silent grouped (whole first grouped)
      exact ⟨target, fun tid peer =>
        searched.emittedTarget_inside peer (sent tid peer (whole tid peer))⟩
  | @outside target outside =>
      refine ⟨target, fun tid peer => ?_⟩
      rw [searched.emittedTarget_outside peer (outside tid peer).1]
      exact (outside tid peer).2
  | held resting held =>
      refine ⟨domain, fun tid peer => ?_⟩
      by_cases inside : InScope config snapshot scope tid
      · obtain ⟨target, sent, goes⟩ := searched.part_target together silent peer inside
        rcases goes with rfl | may
        · exact searched.emittedTarget_inside peer (sent tid peer inside)
        · by_cases same : target = domain
          · exact searched.emittedTarget_inside peer (same ▸ sent tid peer inside)
          · exact absurd may (held target same)
      · rw [searched.emittedTarget_outside peer inside]
        exact resting tid peer inside

end Together

/-! ## An outcome that separates a group -/

/-- The part of a group in scope is sent to one domain, everything else stays as
it is. -/
def PlannerState.relocate (config : PlannerConfig) (snapshot : PlannerInput) (tgid domain : Nat)
    (state : PlannerState) : PlannerState :=
  { state with
    assignments := state.assignments.mapIdx fun index assignment =>
      match state.items[index]? with
      | none => assignment
      | some item =>
          if !item.memberTids.any (snapshot.inSyncGroup config tgid) then assignment
          else if candidateAllowed index (.domain domain) snapshot state then .domain domain
          else .currentHome }

/-- The item of a group that may go somewhere goes there by a legal assignment. -/
theorem mayGo_candidateAllowed {mode : PlanMode} {item : PlannerItem} {index target : Nat}
    (found : (buildState features config snapshot mode).items[index]? = some item)
    (may : item.MayGo (buildState features config snapshot mode).members snapshot target) :
    candidateAllowed index (.domain target) snapshot (buildState features config snapshot mode) =
        true ∨
      candidateAllowed index .currentHome snapshot (buildState features config snapshot mode) =
          true ∧ ∀ tid ∈ item.memberTids, snapshot.home tid = some target := by
  unfold candidateAllowed
  rw [found]
  rcases may with ⟨usable, each⟩ | homes
  · left
    dsimp only
    rw [Bool.and_eq_true, TreeSet.contains_iff_mem, List.all_eq_true]
    exact ⟨usable, each⟩
  · refine .inr ⟨List.all_eq_true.mpr fun tid listed => ?_, homes⟩
    rw [show (buildState features config snapshot mode).members = buildMembers config snapshot mode
      from rfl, buildMembers_home, homes tid listed]
    rfl

theorem relocate_searchOutcome {target : Nat}
    (may : PartMayGo config snapshot tgid
      (buildState features config snapshot (.incremental scope)) target) :
    SearchOutcome snapshot (buildState features config snapshot (.incremental scope))
      ((buildState features config snapshot (.incremental scope)).relocate config snapshot tgid
        target) where
  reassigns := by
    refine ⟨rfl, fun index assignment moved => ?_⟩
    unfold PlannerState.relocate at moved
    rw [List.getElem?_mapIdx] at moved
    obtain ⟨old, kept, moved⟩ := Option.map_eq_some_iff.mp moved
    cases found : (buildState features config snapshot (.incremental scope)).items[index]? with
    | none =>
        rw [found] at moved
        exact .inl (moved ▸ kept)
    | some item =>
        rw [found] at moved
        dsimp only at moved
        split at moved
        · exact .inl (moved ▸ kept)
        next touched =>
          split at moved
          next allowed => exact .inr (moved ▸ allowed)
          next refused =>
            rw [Bool.not_eq_true, Bool.not_eq_false', List.any_eq_true] at touched
            rcases mayGo_candidateAllowed found (may item (List.mem_of_getElem? found) touched) with
              allowed | ⟨home, _⟩
            · exact absurd allowed refused
            · exact .inr (moved ▸ home)
  length := List.length_mapIdx

theorem relocate_sent {target tid : Nat}
    (may : PartMayGo config snapshot tgid
      (buildState features config snapshot (.incremental scope)) target)
    (grouped : snapshot.inSyncGroup config tgid tid = true)
    (inside : InScope config snapshot scope tid) :
    effectiveMemberDomain tid ((buildState features config snapshot
      (.incremental scope)).relocate config snapshot tgid target) = some target := by
  have searched := relocate_searchOutcome may
  obtain ⟨item, stored, listed⟩ := (exists_item_iff grouped).mpr inside
  obtain ⟨index, assignment, found, assigned, _⟩ := searched.assigned stored
  rw [searched.effectiveMemberDomain_eq found assigned listed]
  unfold PlannerState.relocate at assigned
  rw [List.getElem?_mapIdx] at assigned
  obtain ⟨old, _, moved⟩ := Option.map_eq_some_iff.mp assigned
  have touched : item.memberTids.any (snapshot.inSyncGroup config tgid) = true :=
    List.any_eq_true.mpr ⟨tid, listed, grouped⟩
  rw [found] at moved
  dsimp only at moved
  rw [if_neg (by simp [touched])] at moved
  split at moved
  · rw [← moved]
    rfl
  next refused =>
    rcases mayGo_candidateAllowed found (may item stored ⟨tid, listed, grouped⟩) with
      allowed | ⟨_, homes⟩
    · exact absurd allowed refused
    · rw [← moved, homes tid listed]
      rfl

section Together

variable (together : PlannedTogether config snapshot tgid domain)

include together

theorem PlannedTogether.seed_sent {tid : Nat}
    (grouped : snapshot.inSyncGroup config tgid tid = true)
    (inside : InScope config snapshot scope tid) :
    effectiveMemberDomain tid (buildState features config snapshot (.incremental scope)) =
      some domain := by
  have searched : SearchOutcome snapshot
      (buildState features config snapshot (.incremental scope))
      (buildState features config snapshot (.incremental scope)) := ⟨.refl _, rfl⟩
  obtain ⟨item, stored, listed⟩ := (exists_item_iff grouped).mpr inside
  obtain ⟨index, assignment, found, assigned, _⟩ := searched.assigned stored
  obtain ⟨seed, seedFound, seeded⟩ := buildState_assignment assigned
  obtain rfl := Option.some.inj (found.symm.trans seedFound)
  rw [PlanMode.isGlobal, together.seed stored listed grouped] at seeded
  rw [searched.effectiveMemberDomain_eq found assigned listed, seeded]
  rfl

end Together

/-- An outcome that sends the part in scope to one domain is silent, so the group
is kept together only if the others have that target too. -/
theorem SearchOutcome.not_kept {target : Nat}
    (searched : SearchOutcome snapshot (buildState features config snapshot (.incremental scope))
      outcome)
    (sent : ∀ tid, snapshot.inSyncGroup config tgid tid = true →
      InScope config snapshot scope tid → effectiveMemberDomain tid outcome = some target)
    (apart : ¬ ∃ common, ∀ tid, snapshot.inSyncGroup config tgid tid = true →
      (InScope config snapshot scope tid → target = common) ∧
        (¬ InScope config snapshot scope tid → snapshot.restingTarget tid = some common)) :
    ¬ KeptTogether config snapshot tgid (emittedTarget snapshot (.incremental scope) outcome)
      (evaluatePlan outcome) := by
  have group : (fun tid => snapshot.inSyncGroup config tgid tid = true) =
      SyncedIn (buildMembers config snapshot (.incremental scope)) tgid :=
    funext fun tid => propext (inSyncGroup_iff (.incremental scope))
  unfold KeptTogether
  rw [group]
  rintro (⟨common, same⟩ | reported)
  · refine apart ⟨common, fun tid peer => ⟨fun inside => ?_, fun outside => ?_⟩⟩
    · exact Option.some.inj ((searched.emittedTarget_inside peer (sent tid peer inside)).symm.trans
        (same tid peer))
    · rw [← searched.emittedTarget_outside peer outside]
      exact same tid peer
  · have listed : ∀ tid, tid ∈ targetTids (buildMembers config snapshot (.incremental scope))
        snapshot (.incremental scope) →
        SyncedIn (buildMembers config snapshot (.incremental scope)) tgid tid →
        effectiveMemberDomain tid outcome = some target := by
      intro tid listed peer
      exact sent tid ((inSyncGroup_iff _).mpr peer) ((mem_affectedTids _).mp listed)
    exact not_splitReported_of_together searched.syncConstraints listed reported

/-- A group that does not stay together is separated silently by some outcome. -/
theorem exists_separated (together : PlannedTogether config snapshot tgid domain)
    (loose : ¬ StaysTogether config snapshot scope tgid domain
      (buildState features config snapshot (.incremental scope))) :
    ∃ outcome, SearchOutcome snapshot (buildState features config snapshot (.incremental scope))
        outcome ∧
      ¬ KeptTogether config snapshot tgid (emittedTarget snapshot (.incremental scope) outcome)
        (evaluatePlan outcome) := by
  have unsearched : SearchOutcome snapshot
      (buildState features config snapshot (.incremental scope))
      (buildState features config snapshot (.incremental scope)) := ⟨.refl _, rfl⟩
  have partly : ∃ tid, snapshot.inSyncGroup config tgid tid = true ∧
      ¬ InScope config snapshot scope tid := by
    by_contra all
    push Not at all
    exact loose (.whole all)
  obtain ⟨last, lastGrouped, lastOutside⟩ := partly
  by_cases resting : ∀ tid, snapshot.inSyncGroup config tgid tid = true →
      ¬ InScope config snapshot scope tid → snapshot.restingTarget tid = some domain
  · -- the others keep their target, so the part in scope has to leave them
    have goes : ∃ other ≠ domain, PartMayGo config snapshot tgid
        (buildState features config snapshot (.incremental scope)) other := by
      by_contra none
      push Not at none
      exact loose (.held resting none)
    obtain ⟨other, moved, may⟩ := goes
    have entered : ∃ tid, snapshot.inSyncGroup config tgid tid = true ∧
        InScope config snapshot scope tid := by
      by_contra none
      push Not at none
      exact loose (.outside fun tid grouped => ⟨none tid grouped,
        resting tid grouped (none tid grouped)⟩)
    obtain ⟨first, firstGrouped, firstInside⟩ := entered
    refine ⟨_, relocate_searchOutcome may, (relocate_searchOutcome may).not_kept
      (fun tid grouped inside => relocate_sent may grouped inside) ?_⟩
    rintro ⟨common, same⟩
    have here := (same first firstGrouped).1 firstInside
    have there := (same last lastGrouped).2 lastOutside
    rw [resting last lastGrouped lastOutside] at there
    exact moved (here.trans (Option.some.inj there).symm)
  · -- the seed itself separates the group
    refine ⟨_, unsearched, unsearched.not_kept
      (fun tid grouped inside => together.seed_sent grouped inside) ?_⟩
    rintro ⟨common, same⟩
    by_cases entered : ∃ tid, snapshot.inSyncGroup config tgid tid = true ∧
        InScope config snapshot scope tid
    · obtain ⟨first, firstGrouped, firstInside⟩ := entered
      obtain rfl := (same first firstGrouped).1 firstInside
      exact resting fun tid grouped outside => (same tid grouped).2 outside
    · push Not at entered
      exact loose (.outside fun tid grouped => ⟨entered tid grouped,
        (same tid grouped).2 (entered tid grouped)⟩)

end Outcome

/-- An incremental plan keeps a group together, or the evaluation reports it, when
the group is in scope as a whole, not at all, or in part but unable to leave the
others; in every other case some legal outcome of the search separates it and
nothing is reported. -/
theorem incrementalPlan_keptTogether (features : BuildFeatures) (config : PlannerConfig)
    (snapshot : PlannerInput) (triggers : List PlannerTrigger) (moveTrace planDebug : TraceLogger)
    {scope : PlannerScope} {tgid domain : Nat}
    (incremental : (modeAndState features config snapshot triggers).1 = .incremental scope)
    (together : PlannedTogether config snapshot tgid domain) :
    (StaysTogether config snapshot scope tgid domain
        (modeAndState features config snapshot triggers).2 →
      KeptTogether config snapshot tgid
        (fun tid => (computePlanWithDebug features config snapshot triggers moveTrace
          planDebug).output.plan.entries[tid]?.map (·.targetDomain))
        (evaluatePlan (plannedState features config snapshot triggers))) ∧
    (¬ StaysTogether config snapshot scope tgid domain
        (modeAndState features config snapshot triggers).2 →
      ∃ outcome, SearchOutcome snapshot (modeAndState features config snapshot triggers).2 outcome ∧
        ¬ KeptTogether config snapshot tgid (emittedTarget snapshot (.incremental scope) outcome)
          (evaluatePlan outcome)) := by
  have searched : SearchOutcome snapshot
      (buildState features config snapshot (modeAndState features config snapshot triggers).1)
      (plannedState features config snapshot triggers) := plannedState_searchOutcome triggers
  rw [modeAndState_built, incremental]
  rw [incremental] at searched
  constructor
  · intro stays
    have emitted : ∀ tid, snapshot.inSyncGroup config tgid tid = true →
        (computePlanWithDebug features config snapshot triggers moveTrace
          planDebug).output.plan.entries[tid]?.map (·.targetDomain) =
          emittedTarget snapshot (.incremental scope)
            (plannedState features config snapshot triggers) tid := by
      intro tid grouped
      obtain ⟨member, found, _⟩ := (inSyncGroup_iff (.incremental scope)).mp grouped
      have planned := computePlan_targetDomain features config snapshot triggers moveTrace planDebug
        (by rw [incremental]; exact found)
      rw [planned, ← entryTarget_eq found]
      unfold emittedTarget
      rw [searched.reassigns.members]
      rw [show (buildState features config snapshot (.incremental scope)).members =
        buildMembers config snapshot (.incremental scope) from rfl, found]
      rfl
    rcases stays.kept together searched with ⟨target, same⟩ | reported
    · exact .inl ⟨target, fun tid grouped => (emitted tid grouped).trans (same tid grouped)⟩
    · exact .inr reported
  · exact exists_separated together

/-! ## A thread away from its group

The previous plan sends two threads of one process to domain 1, and one of them
still runs in domain 0. When domain 0 flips its state, only that thread is planned. -/

def awayThread : ManagedThreadState := { tid := 7, tgid := 5, lastObservedDomain := some 0 }

def joinedPlan : PlacementPlan where
  entries := ((∅ : TreeMap Nat PlacementPlanEntry).insert 7 { targetDomain := 1 }).insert 8
    { targetDomain := 1 }

def awayInput : PlannerInput :=
  { lostInput with
    threads := ((∅ : ThreadMap).insert 7 awayThread).insert 8 settledThread
    previousPlan := some joinedPlan }

theorem awayInput_group {tid : Nat} (grouped : awayInput.inSyncGroup lostConfig 5 tid = true) :
    tid = 7 ∨ tid = 8 := by
  by_contra other
  push Not at other
  have unknown : awayInput.threads[tid]? = none := by
    change (((∅ : ThreadMap).insert 7 awayThread).insert 8 settledThread)[tid]? = none
    rw [TreeMap.getElem?_insert, if_neg (mt compare_eq_iff_eq.mp other.2.symm),
      TreeMap.getElem?_insert, if_neg (mt compare_eq_iff_eq.mp other.1.symm)]
    exact TreeMap.getElem?_emptyc
  unfold PlannerInput.inSyncGroup at grouped
  rw [unknown] at grouped
  cases grouped

theorem awayInput_plannedTogether : PlannedTogether lostConfig awayInput 5 1 where
  several := ⟨7, 8, by decide, by decide +kernel, by decide +kernel⟩
  allowed tid grouped := by
    rcases awayInput_group grouped with rfl | rfl
    · decide +kernel
    · decide +kernel
  planned tid grouped := by
    rcases awayInput_group grouped with rfl | rfl
    · decide +kernel
    · decide +kernel

theorem awayInput_incremental (trigger : PlannerTrigger)
    (calm : needsGlobalRebuild (buildState ⟨false⟩ lostConfig awayInput
      (.incremental (PlannerScope.touch ⟨∅, ∅⟩ trigger))) lostConfig
      (.incremental (PlannerScope.touch ⟨∅, ∅⟩ trigger)) = false)
    (unswept : trigger.isSweep = false) :
    (modeAndState ⟨false⟩ lostConfig awayInput [trigger]).1 =
      .incremental (PlannerScope.touch ⟨∅, ∅⟩ trigger) := by
  have mode : resolvePlanMode awayInput [trigger] =
      .incremental (PlannerScope.touch ⟨∅, ∅⟩ trigger) := by
    simp [resolvePlanMode, unswept, awayInput]
  unfold modeAndState
  rw [mode]
  dsimp only
  rw [calm]
  rfl

theorem incrementalPlan_keptTogether_peers :
    KeptTogether lostConfig awayInput 5
      (fun tid => (computePlanWithDebug ⟨false⟩ lostConfig awayInput [.runnableDelta 7] {}
        {}).output.plan.entries[tid]?.map (·.targetDomain))
      (evaluatePlan (plannedState ⟨false⟩ lostConfig awayInput [.runnableDelta 7])) := by
  refine (incrementalPlan_keptTogether ⟨false⟩ lostConfig awayInput [.runnableDelta 7] {} {}
    (awayInput_incremental _ (by decide +kernel) rfl) awayInput_plannedTogether).1 (.whole ?_)
  intro tid grouped
  have known : awayInput.threads[7]? = some awayThread := rfl
  exact .inl (.peer TreeSet.mem_insert_self known grouped)

theorem awayInput_separated :
    (modeAndState ⟨false⟩ lostConfig awayInput [.domainStateFlip 0]).1.isGlobal = false ∧
      PlannedTogether lostConfig awayInput 5 1 ∧
      ¬ KeptTogether lostConfig awayInput 5
        (fun tid => (computePlanWithDebug ⟨false⟩ lostConfig awayInput [.domainStateFlip 0] {}
          {}).output.plan.entries[tid]?.map (·.targetDomain))
        (evaluatePlan (plannedState ⟨false⟩ lostConfig awayInput [.domainStateFlip 0])) := by
  have away : (computePlanWithDebug ⟨false⟩ lostConfig awayInput [.domainStateFlip 0] {}
      {}).output.plan.entries[7]?.map (·.targetDomain) = some 0 := by decide +kernel
  have settled : (computePlanWithDebug ⟨false⟩ lostConfig awayInput [.domainStateFlip 0] {}
      {}).output.plan.entries[8]?.map (·.targetDomain) = some 1 := by decide +kernel
  have groups : (evaluatePlan (plannedState ⟨false⟩ lostConfig awayInput
      [.domainStateFlip 0])).violations.syncGroupSplits = [] := by decide +kernel
  have pairs : (evaluatePlan (plannedState ⟨false⟩ lostConfig awayInput
      [.domainStateFlip 0])).violations.residualPairSplits = [] := by decide +kernel
  refine ⟨by decide +kernel, awayInput_plannedTogether, ?_⟩
  rintro (⟨domain, same⟩ | grouped | ⟨pair, listed, _⟩)
  · have first := same 7 (by decide +kernel)
    have second := same 8 (by decide +kernel)
    dsimp only at first second
    rw [away] at first
    rw [settled] at second
    cases first
    cases second
  · rw [groups] at grouped
    cases grouped
  · rw [pairs] at listed
    cases listed

end CSwitch.Planner
