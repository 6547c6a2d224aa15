import CSwitch.Planner.Counts

/-! The task counts a plan is scored with against the plan that is emitted. The
evaluation moves members by a delta over baselines, the entries follow a chain of
fallbacks; the two differ on a thread that the delta loses. -/

set_option autoImplicit false

namespace CSwitch.Planner

open Std (TreeMap TreeSet)

/-- The threads that a snapshot plans for: pending now or seen recently. -/
def PlannerInput.isActive (snapshot : PlannerInput) (tid : Nat) (thread : ManagedThreadState) :
    Bool :=
  snapshot.pendingTids.contains tid || decide (thread.lastSeenNs ≥ snapshot.activeCutoffNs)

/-- The active threads that a plan sends to a domain. -/
def emittedTaskCount (snapshot : PlannerInput) (plan : PlacementPlan) (domain : Nat) : Nat :=
  snapshot.threads.toList.countP fun entry => snapshot.isActive entry.1 entry.2 &&
    decide (plan.entries[entry.1]?.map (·.targetDomain) = some domain)

/-- `predicted_active_task_count` of one domain in the evaluation of a state. -/
def predictedTaskCount (state : PlannerState) (domain : Nat) : Nat :=
  ((evaluatePlan state).domains[domain]?.map (·.predictedActiveTaskCount)).getD 0

/-! ## The scored count -/

/-- The members with a property that counts them once. -/
def memberCount (state : PlannerState) (counts : MemberView → Bool) : Nat :=
  state.members.values.countP counts

def inItem (state : PlannerState) (member : MemberView) : Bool :=
  (state.itemIndexByTid[member.tid]?).isSome

theorem memberCount_le (state : PlannerState) (counts : MemberView → Bool) :
    memberCount state counts ≤ state.members.values.length :=
  List.countP_le_length

/-- The counts that `build_state` keeps for a domain. -/
theorem buildDomains_counts (snapshot : PlannerInput) (members : MemberMap)
    (items : List PlannerItem) {domain : Nat} (bound : domain < snapshot.topo.domains.length) :
    ∃ model, (buildDomains snapshot members items)[domain]? = some model ∧
      model.currentActiveTaskCount = (tally snapshot.topo.domains.length
        (members.values.filter (·.active)) (·.baselineDomain) fun _ => 1)[domain]?.getD 0 ∧
      model.currentItemActiveTaskCount = (tally snapshot.topo.domains.length
        ((itemMembers members items).filter (·.active)) (·.baselineDomain)
        fun _ => 1)[domain]?.getD 0 := by
  simp only [buildDomains, List.getElem?_map, List.getElem?_range bound, Option.map_some]
  exact ⟨_, rfl, rfl, rfl⟩

theorem predictedTaskCount_eq {state : PlannerState} {domain : Nat} {model : DomainModel}
    (found : state.domains[domain]? = some model) :
    predictedTaskCount state domain = satAdd32 model.currentActiveTaskCount
      ((tally state.domains.length ((placedMembers state).filter (·.1.active)) (some ·.2)
        fun _ => 1)[domain]?.getD 0) - model.currentItemActiveTaskCount := by
  simp only [predictedTaskCount, evaluatePlan, domainScores, List.getElem?_mapIdx, found,
    Option.map_some, Option.getD_some, domainScore, collectAssignmentTotals]

section Scored

variable {state : PlannerState} (valid : state.Partitioned)

include valid

theorem countP_itemMembers (counts : MemberView → Bool) :
    (itemMembers state.members state.items).countP counts =
      memberCount state fun member => counts member && inItem state member := by
  rw [valid.itemMembers_perm.countP_eq, List.countP_filter]
  rfl

theorem countP_placedMembers (domain : Nat) :
    ((placedMembers state).filter (·.1.active)).countP
        (fun entry => decide (some entry.2 = some domain)) =
      memberCount state fun member => member.active &&
        decide (effectiveMemberDomain member.tid state = some domain) && inItem state member := by
  rw [← countP_itemMembers valid fun member => member.active &&
    decide (effectiveMemberDomain member.tid state = some domain), valid.placedMembers_eq,
    List.countP_filter]
  induction itemMembers state.members state.items with
  | nil => rfl
  | cons member rest ih =>
      rw [List.filterMap_cons, List.countP_cons, ← ih]
      cases target : effectiveMemberDomain member.tid state with
      | none => simp
      | some other =>
          simp only [Option.map_some, List.countP_cons, Option.some.injEq, Bool.and_comm]

/-- The scored count: members at their baselines, with those of items moved to
their assigned domains. -/
theorem predictedTaskCount_add {snapshot : PlannerInput} {domain : Nat}
    (domains : state.domains = buildDomains snapshot state.members state.items)
    (fits : 2 * state.members.values.length ≤ u32Max)
    (bound : domain < snapshot.topo.domains.length) :
    predictedTaskCount state domain + memberCount state (fun member => member.active &&
        decide (member.baselineDomain = some domain) && inItem state member) =
      memberCount state (fun member => member.active &&
        decide (member.baselineDomain = some domain)) +
      memberCount state (fun member => member.active &&
        decide (effectiveMemberDomain member.tid state = some domain) && inItem state member) := by
  have size : state.domains.length = snapshot.topo.domains.length := by
    simp [domains, buildDomains]
  have current : tallySum (state.members.values.filter (·.active)) (·.baselineDomain) (fun _ => 1)
      domain = memberCount state fun member => member.active &&
        decide (member.baselineDomain = some domain) := by
    rw [tallySum_one, List.countP_filter]
    simp only [Bool.and_comm]
    rfl
  have itemized : tallySum ((itemMembers state.members state.items).filter (·.active))
      (·.baselineDomain) (fun _ => 1) domain = memberCount state fun member => member.active &&
        decide (member.baselineDomain = some domain) && inItem state member := by
    rw [tallySum_one, List.countP_filter, countP_itemMembers valid]
    simp only [Bool.and_comm]
  have assigned : tallySum ((placedMembers state).filter (·.1.active)) (some ·.2) (fun _ => 1)
      domain = memberCount state fun member => member.active &&
        decide (effectiveMemberDomain member.tid state = some domain) && inItem state member := by
    rw [tallySum_one]
    exact countP_placedMembers valid domain
  obtain ⟨model, found, active, item⟩ := buildDomains_counts snapshot state.members state.items bound
  rw [← domains] at found
  have all := memberCount_le state fun member => member.active &&
    decide (member.baselineDomain = some domain)
  have inside := memberCount_le state fun member => member.active &&
    decide (member.baselineDomain = some domain) && inItem state member
  have moved := memberCount_le state fun member => member.active &&
    decide (effectiveMemberDomain member.tid state = some domain) && inItem state member
  have fewer : (memberCount state fun member => member.active &&
      decide (member.baselineDomain = some domain) && inItem state member) ≤
      memberCount state fun member => member.active &&
        decide (member.baselineDomain = some domain) := by
    refine List.countP_mono_left ?_
    intro member _ counted
    exact (Bool.and_eq_true_iff.mp counted).1
  rw [tally_getD bound (by rw [current]; omega), current] at active
  rw [tally_getD bound (by rw [itemized]; omega), itemized] at item
  have predicted := predictedTaskCount_eq found
  rw [size, tally_getD bound (by rw [assigned]; omega), assigned, active, item,
    satAdd32_of_le (by omega)] at predicted
  omega

end Scored

/-! ## The emitted count -/

/-- An entry follows the assignment of its item, else the baseline. -/
theorem entryTarget_eq {config : PlannerConfig} {snapshot : PlannerInput} {mode : PlanMode}
    {state : PlannerState} {tid : Nat} {member : MemberView}
    (found : (buildMembers config snapshot mode)[tid]? = some member) :
    entryTarget snapshot state mode tid member =
      (effectiveMemberDomain tid state).or member.baselineDomain := by
  rw [getElem?_buildMembers] at found
  obtain ⟨thread, _, rfl⟩ := Option.map_eq_some_iff.mp found
  unfold entryTarget
  dsimp only [memberView, baselineDomainForMember]
  cases mode.isGlobal with
  | true => simp
  | false => simp [Option.or_assoc]

section Emitted

variable (features : BuildFeatures) (config : PlannerConfig) (snapshot : PlannerInput)
  (triggers : List PlannerTrigger) (moveTrace planDebug : TraceLogger)

theorem computePlan_targetDomain {tid : Nat} {member : MemberView}
    (found : (buildMembers config snapshot
      (modeAndState features config snapshot triggers).1)[tid]? = some member) :
    (computePlanWithDebug features config snapshot triggers moveTrace
        planDebug).output.plan.entries[tid]?.map (·.targetDomain) =
      (effectiveMemberDomain tid (plannedState features config snapshot triggers)).or
        member.baselineDomain := by
  have members : (plannedState features config snapshot triggers).members =
      buildMembers config snapshot (modeAndState features config snapshot triggers).1 :=
    (plannedState_reassigns features config snapshot triggers).members
  rw [← entryTarget_eq found]
  unfold computePlanWithDebug
  dsimp only
  rw [emitMoveTrace_state]
  generalize satAdd64 (previousRevision snapshot) 1 = revision
  have built : ∀ other : Nat, (planEntries snapshot (plannedState features config snapshot triggers)
      (modeAndState features config snapshot triggers).1 revision)[other]? =
      (buildMembers config snapshot (modeAndState features config snapshot triggers).1)[other]?.bind
        (planEntry snapshot (plannedState features config snapshot triggers)
          (modeAndState features config snapshot triggers).1 revision other) := by
    intro other
    rw [planEntries, TreeMap.getElem?_filterMap', members]
  have targets := (assignPlanTargetCpus_targets snapshot
    (planEntries snapshot (plannedState features config snapshot triggers)
      (modeAndState features config snapshot triggers).1 revision) (by
        intro other entry listed
        rw [built] at listed
        obtain ⟨view, _, planned⟩ := Option.bind_eq_some_iff.mp listed
        obtain ⟨target, _, rfl⟩ := Option.map_eq_some_iff.mp planned
        rfl)).same tid
  have domains := congrArg (Option.map (·.targetDomain)) targets
  rw [Option.map_map, Option.map_map, built, found, Option.bind_some, planEntry,
    Option.map_map] at domains
  have kept : ∀ entry : Option PlacementPlanEntry,
      entry.map ((·.targetDomain) ∘ (·.withoutCpu)) = entry.map (·.targetDomain) := by
    intro entry
    cases entry <;> rfl
  rw [kept] at domains
  rw [domains]
  cases entryTarget snapshot (plannedState features config snapshot triggers)
    (modeAndState features config snapshot triggers).1 tid member <;> rfl

/-- The emitted count over the members of the planned state. -/
theorem emittedTaskCount_eq (domain : Nat) :
    emittedTaskCount snapshot (computePlanWithDebug features config snapshot triggers moveTrace
        planDebug).output.plan domain =
      memberCount (plannedState features config snapshot triggers) fun member => member.active &&
        decide ((effectiveMemberDomain member.tid
          (plannedState features config snapshot triggers)).or member.baselineDomain =
            some domain) := by
  unfold memberCount
  rw [(plannedState_reassigns features config snapshot triggers).members]
  change _ = (buildMembers config snapshot
    (modeAndState features config snapshot triggers).1).values.countP _
  rw [KeyedTotals.values_eq_map_toList, buildMembers, TreeMap.toList_map, List.map_map, List.countP_map]
  unfold emittedTaskCount
  refine List.countP_congr ?_
  rintro ⟨tid, thread⟩ listed
  have stored := TreeMap.mem_toList_iff_getElem?_eq_some.mp listed
  have found : (buildMembers config snapshot
      (modeAndState features config snapshot triggers).1)[tid]? =
      some (memberView config snapshot (modeAndState features config snapshot triggers).1 tid
        thread) := by
    rw [getElem?_buildMembers, stored]
    rfl
  rw [computePlan_targetDomain features config snapshot triggers moveTrace planDebug found]
  rfl

end Emitted

/-! ## The difference -/

theorem countP_add_eq {α : Type} (entries : List α) {first second third fourth fifth : α → Bool}
    (each : ∀ entry, (first entry).toNat + (second entry).toNat =
      (third entry).toNat + (fourth entry).toNat + (fifth entry).toNat) :
    entries.countP first + entries.countP second =
      entries.countP third + entries.countP fourth + entries.countP fifth := by
  have counted : ∀ (counts : α → Bool) head tail,
      List.countP counts (head :: tail) = List.countP counts tail + (counts head).toNat := by
    intro counts head tail
    rw [List.countP_cons]
    cases counts head <;> rfl
  induction entries with
  | nil => rfl
  | cons head tail ih =>
      simp only [counted]
      have here := each head
      omega

/-- A member of an item that the assignment sends nowhere although it has a baseline. -/
def lostAt (state : PlannerState) (domain : Nat) (member : MemberView) : Bool :=
  member.active && inItem state member &&
    decide (effectiveMemberDomain member.tid state = none) &&
    decide (member.baselineDomain = some domain)

theorem effectiveMemberDomain_of_not_inItem {state : PlannerState} {member : MemberView}
    (outside : inItem state member = false) : effectiveMemberDomain member.tid state = none := by
  cases found : state.itemIndexByTid[member.tid]? with
  | none => simp [effectiveMemberDomain, found]
  | some index => simp [inItem, found] at outside

theorem memberCount_emitted (state : PlannerState) (domain : Nat) :
    memberCount state (fun member => member.active && decide ((effectiveMemberDomain member.tid
        state).or member.baselineDomain = some domain)) +
      memberCount state (fun member => member.active &&
        decide (member.baselineDomain = some domain) && inItem state member) =
      memberCount state (fun member => member.active &&
        decide (member.baselineDomain = some domain)) +
      memberCount state (fun member => member.active &&
        decide (effectiveMemberDomain member.tid state = some domain) && inItem state member) +
      memberCount state (lostAt state domain) := by
  refine countP_add_eq _ ?_
  intro member
  cases active : member.active with
  | false => simp [lostAt, active]
  | true =>
      cases inside : inItem state member with
      | false =>
          simp [lostAt, active, inside, effectiveMemberDomain_of_not_inItem inside]
      | true =>
          cases target : effectiveMemberDomain member.tid state with
          | none =>
              by_cases base : member.baselineDomain = some domain <;>
                simp [lostAt, active, inside, target, base]
          | some other => simp [lostAt, active, inside, target, Nat.add_comm]

section Agreement

variable (features : BuildFeatures) (config : PlannerConfig) (snapshot : PlannerInput)
  (triggers : List PlannerTrigger) (moveTrace planDebug : TraceLogger)

theorem plannedState_partitioned :
    (plannedState features config snapshot triggers).Partitioned := by
  refine (buildState_partitioned features config snapshot
    (modeAndState features config snapshot triggers).1).reassign
      (plannedState_reassigns features config snapshot triggers).frame ?_
  rw [← modeAndState_built]
  unfold plannedState
  dsimp only
  rw [optimizeState_length]
  split
  · exact applyPaperGreedySeed_length _ _ _
  · rfl

theorem emittedTaskCount_eq_add (fits : 2 * snapshot.threads.size ≤ u32Max) {domain : Nat}
    (bound : domain < snapshot.topo.domains.length) :
    emittedTaskCount snapshot (computePlanWithDebug features config snapshot triggers moveTrace
        planDebug).output.plan domain =
      predictedTaskCount (plannedState features config snapshot triggers) domain +
        memberCount (plannedState features config snapshot triggers)
          (lostAt (plannedState features config snapshot triggers) domain) := by
  have reassigned := plannedState_reassigns features config snapshot triggers
  have domains : (plannedState features config snapshot triggers).domains =
      buildDomains snapshot (plannedState features config snapshot triggers).members
        (plannedState features config snapshot triggers).items := by
    rw [reassigned.frame]
    rfl
  have size : (plannedState features config snapshot triggers).members.values.length =
      snapshot.threads.size := by
    rw [reassigned.members]
    exact buildMembers_length config snapshot _
  have scored := predictedTaskCount_add (plannedState_partitioned features config snapshot triggers)
    domains (by rw [size]; exact fits) bound
  have counted := memberCount_emitted (plannedState features config snapshot triggers) domain
  rw [emittedTaskCount_eq]
  omega

end Agreement

/-! ## Lost threads -/

/-- An active thread without a known home in an item that stays put, although
the previous plan has a target for it that still stands. -/
def Lost (snapshot : PlannerInput) (mode : PlanMode) (state : PlannerState) (tid : Nat) : Prop :=
  ∃ member index, state.members[tid]? = some member ∧ member.active = true ∧
    member.currentDomain = none ∧ state.itemIndexByTid[tid]? = some index ∧
    state.assignments[index]? = some .currentHome ∧ mode.isGlobal = false ∧
    (previousPlanDomainForMember tid none member.allowedDomains snapshot).isSome = true

/-- Homeless threads are never sent back home: what the search leaves at home
was seeded there. -/
theorem Lost.seeded {snapshot : PlannerInput} {mode : PlanMode} {before after : PlannerState}
    {tid : Nat} (valid : before.Partitioned) (reassigned : Reassigns snapshot before after)
    (lost : Lost snapshot mode after tid) : Lost snapshot mode before tid := by
  obtain ⟨member, index, found, active, homeless, indexed, stays, incremental, previous⟩ := lost
  rw [reassigned.members] at found
  rw [reassigned.itemIndexByTid] at indexed
  refine ⟨member, index, found, active, homeless, indexed, ?_, incremental, previous⟩
  rcases reassigned.legal index _ stays with seeded | allowed
  · exact seeded
  · obtain ⟨item, stored, listed⟩ := valid.indexed tid index indexed
    have homes : item.memberTids.all (fun other =>
        (before.members[other]?.bind (·.currentDomain)).isSome) = true := by
      simpa [candidateAllowed, stored] using allowed
    have known := List.all_eq_true.mp homes tid listed
    simp [found, homeless] at known

section Agreement

variable (features : BuildFeatures) (config : PlannerConfig) (snapshot : PlannerInput)
  (triggers : List PlannerTrigger) (moveTrace planDebug : TraceLogger)

theorem buildMembers_baseline (mode : PlanMode) {tid : Nat} {member : MemberView}
    (found : (buildMembers config snapshot mode)[tid]? = some member) :
    member.baselineDomain = baselineDomainForMember tid member.currentDomain
      member.allowedDomains snapshot mode := by
  rw [getElem?_buildMembers] at found
  obtain ⟨thread, _, rfl⟩ := Option.map_eq_some_iff.mp found
  rfl

theorem previousPlanDomainForMember_lt {snapshot : PlannerInput} {tid target : Nat}
    {home : Option Nat} {allowed : TreeSet Nat}
    (found : previousPlanDomainForMember tid home allowed snapshot = some target) :
    target < snapshot.topo.domains.length := by
  obtain ⟨plan, _, found⟩ := Option.bind_eq_some_iff.mp found
  obtain ⟨entry, _, found⟩ := Option.bind_eq_some_iff.mp found
  dsimp only at found
  split at found
  · cases found
  next small =>
    split at found
    · obtain rfl := Option.some.inj found
      omega
    · cases found

/-- A lost thread is missing from the count of its previous target. -/
theorem Lost.lostAt {mode : PlanMode} {state : PlannerState} {tid : Nat} (valid : state.Partitioned)
    (members : state.members = buildMembers config snapshot mode)
    (lost : Lost snapshot mode state tid) :
    ∃ member ∈ state.members.values, ∃ target < snapshot.topo.domains.length,
      CSwitch.Planner.lostAt state target member = true := by
  obtain ⟨member, index, found, active, homeless, indexed, stays, incremental, previous⟩ := lost
  obtain ⟨target, planned⟩ := Option.isSome_iff_exists.mp previous
  have based := buildMembers_baseline config snapshot mode (members ▸ found)
  obtain rfl := valid.keyed tid member found
  refine ⟨member, (mem_values valid.keyed).mpr found, target,
    previousPlanDomainForMember_lt planned, ?_⟩
  simp [CSwitch.Planner.lostAt, inItem, active, indexed, effectiveMemberDomain, stays, found,
    homeless, targetDomainForHome, based, baselineDomainForMember, incremental, planned]

theorem lost_of_lostAt {mode : PlanMode} {state : PlannerState} {domain : Nat}
    {member : MemberView} (valid : state.Partitioned)
    (members : state.members = buildMembers config snapshot mode)
    (listed : member ∈ state.members.values) (counted : lostAt state domain member = true) :
    Lost snapshot mode state member.tid := by
  have found := (mem_values valid.keyed).mp listed
  simp only [lostAt, inItem, Bool.and_eq_true, decide_eq_true_eq] at counted
  obtain ⟨⟨⟨active, inside⟩, nowhere⟩, based⟩ := counted
  obtain ⟨index, indexed⟩ := Option.isSome_iff_exists.mp inside
  obtain ⟨item, stored, _⟩ := valid.indexed member.tid index indexed
  have assigned : index < state.assignments.length :=
    valid.assigned ▸ (List.getElem?_eq_some_iff.mp stored).1
  have target : targetDomainForHome state.assignments[index] member.currentDomain = none := by
    simpa [effectiveMemberDomain, indexed, List.getElem?_eq_getElem assigned, found] using nowhere
  rw [buildMembers_baseline config snapshot mode (members ▸ found), baselineDomainForMember] at based
  cases chosen : state.assignments[index] with
  | domain other =>
      rw [chosen] at target
      cases target
  | currentHome =>
      have homeless : member.currentDomain = none := by
        rw [chosen] at target
        exact target
      rw [homeless] at based
      split at based
      · cases based
      next incremental =>
        refine ⟨member, index, found, active, homeless, indexed, ?_, ?_, ?_⟩
        · rw [List.getElem?_eq_getElem assigned, chosen]
        · simpa using incremental
        · rw [Option.or_none] at based
          rw [based]
          rfl

/-- Some domain loses a member exactly when there is a lost thread. -/
theorem lostAt_iff :
    (∀ domain < snapshot.topo.domains.length,
      memberCount (plannedState features config snapshot triggers)
        (lostAt (plannedState features config snapshot triggers) domain) = 0) ↔
    ∀ tid, ¬ Lost snapshot (modeAndState features config snapshot triggers).1
      (plannedState features config snapshot triggers) tid := by
  have valid := plannedState_partitioned features config snapshot triggers
  have members : (plannedState features config snapshot triggers).members =
      buildMembers config snapshot (modeAndState features config snapshot triggers).1 :=
    (plannedState_reassigns features config snapshot triggers).members
  constructor
  · intro kept tid lost
    obtain ⟨member, listed, target, bound, counted⟩ := lost.lostAt config snapshot valid members
    exact List.countP_eq_zero.mp (kept target bound) member listed counted
  · intro kept domain _
    refine List.countP_eq_zero.mpr ?_
    intro member listed counted
    exact kept member.tid (lost_of_lostAt config snapshot valid members listed counted)

/-- The budgets of the search; the rest of the configuration decides the items. -/
def PlannerConfig.withBudgets (config : PlannerConfig) (maxPasses swapPassItems : Nat) :
    PlannerConfig :=
  { config with maxPasses, swapPassItems }

/-- Without a search an incremental plan is its seed. -/
theorem plannedState_unsearched
    (incremental : (modeAndState features config snapshot triggers).1.isGlobal = false) :
    plannedState features (config.withBudgets 0 0) snapshot triggers =
      (modeAndState features config snapshot triggers).2 := by
  have same : modeAndState features (config.withBudgets 0 0) snapshot triggers =
      modeAndState features config snapshot triggers := rfl
  have unseeded : ∀ state, applyPaperGreedySeed snapshot state false = state := fun _ => rfl
  unfold plannedState
  rw [same]
  dsimp only
  rw [incremental, unseeded, ite_self]
  rfl

/-- Whatever the budgets of the search, every domain is scored with the number
of active threads that the plan sends there, exactly when no thread is lost by
the state the search starts from. -/
theorem predictedTaskCount_emitted_iff (fits : 2 * snapshot.threads.size ≤ u32Max) :
    (∀ maxPasses swapPassItems domain : Nat, domain < snapshot.topo.domains.length →
      predictedTaskCount (plannedState features (config.withBudgets maxPasses swapPassItems)
          snapshot triggers) domain =
        emittedTaskCount snapshot (computePlanWithDebug features
          (config.withBudgets maxPasses swapPassItems) snapshot triggers moveTrace
            planDebug).output.plan domain) ↔
    ∀ tid, ¬ Lost snapshot (modeAndState features config snapshot triggers).1
      (modeAndState features config snapshot triggers).2 tid := by
  constructor
  · intro agree tid lost
    have incremental := lost.choose_spec.choose_spec.2.2.2.2.2.1
    have unsearched := plannedState_unsearched features config snapshot triggers incremental
    have kept := (lostAt_iff features (config.withBudgets 0 0) snapshot triggers).mp (by
      intro domain bound
      have scored := agree 0 0 domain bound
      have emitted := emittedTaskCount_eq_add features (config.withBudgets 0 0) snapshot triggers
        moveTrace planDebug fits bound
      omega)
    rw [unsearched] at kept
    exact kept tid lost
  · intro kept maxPasses swapPassItems domain bound
    have unlost := (lostAt_iff features (config.withBudgets maxPasses swapPassItems) snapshot
      triggers).mpr (by
        intro tid lost
        have seeded := lost.seeded (buildState_partitioned _ _ _ _)
          (plannedState_reassigns features (config.withBudgets maxPasses swapPassItems) snapshot
            triggers)
        rw [← modeAndState_built] at seeded
        exact kept tid seeded)
    have emitted := emittedTaskCount_eq_add features (config.withBudgets maxPasses swapPassItems)
      snapshot triggers moveTrace planDebug fits bound
    rw [unlost domain bound] at emitted
    exact emitted.symm

end Agreement

/-- The crew in domain 1: the thread that moved there and the one that is pinned. -/
theorem predictedTaskCount_emitted_crew :
    predictedTaskCount (plannedState ⟨false⟩ (sampleConfig.withBudgets 4 8) crewInput []) 1 = 2 ∧
      emittedTaskCount crewInput (computePlanWithDebug ⟨false⟩ (sampleConfig.withBudgets 4 8)
        crewInput [] {} {}).output.plan 1 = 2 := by
  have scored : predictedTaskCount
      (plannedState ⟨false⟩ (sampleConfig.withBudgets 4 8) crewInput []) 1 = 2 := by decide +kernel
  refine ⟨scored, scored ▸ Eq.symm ?_⟩
  refine (predictedTaskCount_emitted_iff ⟨false⟩ sampleConfig crewInput [] {} {}
    (by decide +kernel)).mpr ?_ 4 8 1 (by decide)
  rintro tid ⟨member, index, _, _, _, _, _, incremental, _⟩
  have global : (modeAndState ⟨false⟩ sampleConfig crewInput []).1.isGlobal = true := rfl
  rw [global] at incremental
  cases incremental

/-! ## A lost thread

Two threads of one process under a sync override. The previous plan sends them to
different domains, so the group is seeded at home, and the home of one is not known. -/

def lostConfig : PlannerConfig := { sampleConfig with syncTgidOverrides := .ofList [5] }

def homelessThread : ManagedThreadState := { tid := 7, tgid := 5 }

def settledThread : ManagedThreadState := { tid := 8, tgid := 5, lastObservedDomain := some 1 }

def splitPlan : PlacementPlan where
  entries := ((∅ : TreeMap Nat PlacementPlanEntry).insert 7 { targetDomain := 0 }).insert 8
    { targetDomain := 1 }

def lostInput : PlannerInput :=
  { strandedInput with
    pendingTids := .ofList [7, 8]
    threads := ((∅ : ThreadMap).insert 7 homelessThread).insert 8 settledThread
    allowedCpus := ((∅ : CpuSetMap).insert 7 (.ofList [0, 1])).insert 8 (.ofList [0, 1])
    allowedDomains := ((∅ : CpuSetMap).insert 7 (.ofList [0, 1])).insert 8 (.ofList [0, 1])
    previousPlan := some splitPlan }

theorem lostInput_scored_apart :
    ¬ ∀ (features : BuildFeatures) (config : PlannerConfig) (snapshot : PlannerInput)
        (triggers : List PlannerTrigger) (moveTrace planDebug : TraceLogger) (domain : Nat),
      2 * snapshot.threads.size ≤ u32Max → domain < snapshot.topo.domains.length →
      predictedTaskCount (plannedState features config snapshot triggers) domain =
        emittedTaskCount snapshot (computePlanWithDebug features config snapshot triggers moveTrace
          planDebug).output.plan domain := by
  intro claim
  have agree := claim ⟨false⟩ lostConfig lostInput [.runnableDelta 7] {} {} 0 (by decide +kernel)
    (by decide)
  have scored : predictedTaskCount (plannedState ⟨false⟩ lostConfig lostInput [.runnableDelta 7]) 0 =
      0 := by decide +kernel
  have emitted : emittedTaskCount lostInput (computePlanWithDebug ⟨false⟩ lostConfig lostInput
      [.runnableDelta 7] {} {}).output.plan 0 = 1 := by decide +kernel
  rw [scored, emitted] at agree
  cases agree

end CSwitch.Planner
