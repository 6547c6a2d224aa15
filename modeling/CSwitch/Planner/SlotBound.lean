import CSwitch.Library.Matching
import CSwitch.Planner.LoadAccounting
import CSwitch.Planner.Settled

/-! The slot constraint of a domain as a bound on matchings: whatever CPUs the active
threads of a domain get, at least as many stay without one as the constraint counts. -/

set_option autoImplicit false

namespace CSwitch.Planner

open Library FiberCount
open Std (TreeMap TreeSet)
open Policy

/-! ## Slot constraints -/

theorem extraTasks_taskSlotConstraint (taskCount cpuCapacity : Nat) :
    (taskSlotConstraint taskCount cpuCapacity).extraTasks = taskCount - cpuCapacity := by
  unfold taskSlotConstraint SlotCapacityConstraint.fromTaskCount
  by_cases none : cpuCapacity = 0
  · by_cases empty : taskCount = 0
    · simp [none, empty, SlotCapacityConstraint.extraTasks]
    · simp [none, empty, SlotCapacityConstraint.extraTasks]
  · by_cases within : taskCount - cpuCapacity = 0
    · simp [none, within, SlotCapacityConstraint.extraTasks]
    · simp [none, within, SlotCapacityConstraint.extraTasks]

theorem extraTasks_combine_le (left right : SlotCapacityConstraint) :
    (left.combine right).extraTasks ≤ left.extraTasks + right.extraTasks := by
  cases left with
  | withinCapacity => exact Nat.le_add_left _ _
  | overCapacity leftExtra leftCount =>
      cases right with
      | withinCapacity => exact Nat.le_refl _
      | overCapacity rightExtra rightCount => exact Nat.min_le_left _ _

theorem maxOf_cases (left right : SlotCapacityConstraint) :
    left.maxOf right = left ∨ left.maxOf right = right := by
  unfold SlotCapacityConstraint.maxOf
  split
  · exact .inl rfl
  · exact .inr rfl

/-- A constraint that says over capacity counts a task. -/
def Counts (constraint : SlotCapacityConstraint) : Prop :=
  constraint.extraTasks = 0 → constraint = .withinCapacity

theorem counts_taskSlotConstraint (taskCount cpuCapacity : Nat) :
    Counts (taskSlotConstraint taskCount cpuCapacity) := by
  unfold Counts taskSlotConstraint SlotCapacityConstraint.fromTaskCount
  dsimp only
  generalize (if cpuCapacity = 0 then taskCount else taskCount - cpuCapacity) = extraTasks
  split
  · exact fun _ => rfl
  next positive => exact fun zero => absurd zero positive

theorem Counts.combine {left right : SlotCapacityConstraint} (leftCounts : Counts left)
    (rightCounts : Counts right) : Counts (left.combine right) := by
  cases left with
  | withinCapacity => exact rightCounts
  | overCapacity leftExtra leftCount =>
      cases right with
      | withinCapacity => exact leftCounts
      | overCapacity rightExtra rightCount =>
          intro zero
          have leftPositive : leftExtra ≠ 0 := fun none => by cases leftCounts none
          have sum : satAdd32 leftExtra rightExtra = 0 := zero
          unfold satAdd32 at sum
          have large : 0 < u32Max := by decide
          omega

theorem affinityGroupSlotConstraint_le (groups : TreeMap (List Nat) Nat) :
    (affinityGroupSlotConstraint groups).extraTasks ≤
        KeyedTotals.total (fun (cpus : List Nat) count => count - cpus.length) groups ∧
      Counts (affinityGroupSlotConstraint groups) := by
  unfold affinityGroupSlotConstraint KeyedTotals.total
  refine foldl_prefix_invariant (fun done (acc : SlotCapacityConstraint) =>
    acc.extraTasks ≤ (done.map fun group : List Nat × Nat => group.2 - group.1.length).sum ∧
      Counts acc) ?_ ?_
  · exact ⟨Nat.le_refl _, fun _ => rfl⟩
  · rintro done group rest acc _ ⟨bounded, counts⟩
    have more := extraTasks_combine_le acc (taskSlotConstraint group.2 group.1.length)
    rw [extraTasks_taskSlotConstraint] at more
    refine ⟨?_, counts.combine (counts_taskSlotConstraint _ _)⟩
    rw [List.map_append, List.sum_append]
    simp only [List.map_cons, List.map_nil, List.sum_singleton]
    omega

/-! ## The slots of members -/

theorem mem_allowedCpusByDomain {snapshot : PlannerInput} {allowedCpus : TreeSet Nat}
    {domain cpu : Nat} :
    cpu ∈ (allowedCpusByDomain snapshot allowedCpus)[domain]?.getD ∅ ↔
      cpu ∈ allowedCpus ∧ cpu ∈ snapshot.mapping.eligibleCpus ∧
        snapshot.topo.domainOfCpu cpu = some domain := by
  rw [← TreeSet.mem_toList (t := allowedCpus)]
  unfold allowedCpusByDomain
  refine foldl_prefix_invariant (fun done (byDomain : CpuSetMap) =>
    cpu ∈ byDomain[domain]?.getD ∅ ↔ cpu ∈ done ∧ cpu ∈ snapshot.mapping.eligibleCpus ∧
      snapshot.topo.domainOfCpu cpu = some domain) ?_ ?_
  · simp
  · intro done other rest byDomain _ running
    rw [List.mem_append, List.mem_singleton]
    have skipped : ¬ (other ∈ snapshot.mapping.eligibleCpus ∧
        snapshot.topo.domainOfCpu other = some domain) →
        (cpu ∈ byDomain[domain]?.getD ∅ ↔ (cpu ∈ done ∨ cpu = other) ∧
          cpu ∈ snapshot.mapping.eligibleCpus ∧ snapshot.topo.domainOfCpu cpu = some domain) := by
      intro outside
      rw [running]
      constructor
      · exact fun known => ⟨.inl known.1, known.2⟩
      · rintro ⟨earlier | rfl, known⟩
        · exact ⟨earlier, known⟩
        · exact absurd known outside
    cases eligible : snapshot.mapping.eligibleCpus.contains other with
    | false =>
        refine skipped ?_
        rw [← TreeSet.contains_iff_mem, eligible]
        exact fun known => Bool.false_ne_true known.1
    | true =>
        cases place : snapshot.topo.domainOfCpu other with
        | none =>
            refine skipped ?_
            rw [place]
            rintro ⟨_, ⟨⟩⟩
        | some home =>
            dsimp only
            rw [Bool.not_true, if_neg Bool.false_ne_true, TreeMap.getElem?_insert]
            by_cases here : home = domain
            · subst here
              rw [if_pos (compare_eq_iff_eq.mpr rfl), Option.getD_some, TreeSet.mem_insert, running,
                compare_eq_iff_eq]
              constructor
              · rintro (rfl | known)
                · exact ⟨.inr rfl, TreeSet.contains_iff_mem.mp eligible, place⟩
                · exact ⟨.inl known.1, known.2⟩
              · rintro ⟨earlier | rfl, known⟩
                · exact .inr ⟨earlier, known⟩
                · exact .inl rfl
            · rw [if_neg (mt compare_eq_iff_eq.mp here)]
              refine skipped ?_
              rw [place]
              exact fun known => here (Option.some.inj known.2)

/-- The CPUs that a member may use in a domain. -/
def MemberView.cpusIn (domain : Nat) (member : MemberView) : TreeSet Nat :=
  member.allowedCpusByDomain[domain]?.getD ∅

theorem PredictedSlots.mem_cpuSet {domain cpu : Nat} {members : List MemberView} :
    cpu ∈ (ofMembers domain members).cpuSet ↔ ∃ member ∈ members, cpu ∈ member.cpusIn domain := by
  induction members using List.reverseRecOn with
  | nil => simp [ofMembers]
  | append_singleton members member ih =>
      rw [ofMembers_concat, add, TreeSet.mem_insertMany_list, List.contains_iff_mem,
        TreeSet.mem_toList, ih]
      constructor
      · rintro (⟨other, listed, own⟩ | own)
        · exact ⟨other, List.mem_append_left _ listed, own⟩
        · exact ⟨member, List.mem_append_right _ (List.mem_singleton.mpr rfl), own⟩
      · rintro ⟨other, listed, own⟩
        rcases List.mem_append.mp listed with earlier | last
        · exact .inl ⟨other, earlier, own⟩
        · obtain rfl := List.mem_singleton.mp last
          exact .inr own

theorem PredictedSlots.affinityGroups_getD (domain : Nat) (members : List MemberView)
    (cpus : List Nat) : (ofMembers domain members).affinityGroups[cpus]?.getD 0 =
      members.countP fun member => decide ((member.cpusIn domain).toList = cpus) := by
  induction members using List.reverseRecOn with
  | nil => simp [ofMembers]
  | append_singleton members member ih =>
      rw [ofMembers_concat, add, List.countP_append, List.countP_singleton, ← ih]
      dsimp only
      rw [TreeMap.getElem?_insert]
      by_cases same : (member.cpusIn domain).toList = cpus
      · subst same
        simp [MemberView.cpusIn]
      · have apart : compare (member.allowedCpusByDomain[domain]?.getD ∅).toList cpus ≠ .eq :=
          mt Std.LawfulEqCmp.compare_eq_iff_eq.mp same
        simp [same, apart]

/-- What the constraint of a slot counts, whoever gets which CPU. -/
theorem PredictedSlots.constraint_le {domain : Nat} {members : List MemberView} (unique : members.Nodup)
    {give : MemberView → Option Nat}
    (suits : ∀ member ∈ members, ∀ cpu, give member = some cpu → cpu ∈ member.cpusIn domain)
    (apart : ∀ left ∈ members, ∀ right ∈ members, ∀ cpu, give left = some cpu →
      give right = some cpu → left = right) :
    members.length - (ofMembers domain members).cpuSet.size ≤
        members.countP (fun member => decide (give member = none)) ∧
      (affinityGroupSlotConstraint (ofMembers domain members).affinityGroups).extraTasks ≤
        members.countP fun member => decide (give member = none) := by
  classical
  let slotsOf (member : MemberView) : Finset Nat := (member.cpusIn domain).toList.toFinset
  have matching : Matching members.toFinset slotsOf give := by
    constructor
    · intro member listed cpu given
      rw [List.mem_toFinset, TreeSet.mem_toList]
      exact suits member (List.mem_toFinset.mp listed) cpu given
    · intro left onLeft right onRight cpu leftGiven rightGiven
      exact apart left (List.mem_toFinset.mp onLeft) right (List.mem_toFinset.mp onRight) cpu
        leftGiven rightGiven
  have without : (unmatched members.toFinset give).card =
      members.countP fun member => decide (give member = none) :=
    fiberCount_toFinset unique give none
  rw [← without]
  constructor
  · have pooled : ∀ member ∈ members.toFinset,
        slotsOf member ⊆ (ofMembers domain members).cpuSet.toList.toFinset := by
      intro member listed cpu own
      rw [List.mem_toFinset, TreeSet.mem_toList] at own ⊢
      exact mem_cpuSet.mpr ⟨member, List.mem_toFinset.mp listed, own⟩
    have deficit := matching.deficit_le pooled
    rwa [List.toFinset_card_of_nodup unique, List.toFinset_card_of_nodup (nodup_toList _),
      TreeSet.length_toList] at deficit
  · let groups := (ofMembers domain members).affinityGroups
    let classOf (member : MemberView) : List Nat := (member.cpusIn domain).toList
    have sums := matching.sum_deficits_le groups.keys.toFinset classOf (·.toFinset)
      fun member _ => Finset.Subset.refl _
    refine le_trans ((affinityGroupSlotConstraint_le groups).1.trans ?_) sums
    rw [List.sum_toFinset _ TreeMap.nodup_keys, ← TreeMap.map_fst_toList_eq_keys, List.map_map,
      KeyedTotals.total]
    refine List.sum_le_sum ?_
    rintro ⟨cpus, count⟩ listed
    have stored := TreeMap.mem_toList_iff_getElem?_eq_some.mp listed
    have counted := affinityGroups_getD domain members cpus
    rw [stored, Option.getD_some] at counted
    have fiber : fiberCount members.toFinset classOf cpus = count := by
      rw [fiberCount_toFinset unique, counted]
    have fewer := List.toFinset_card_le cpus
    dsimp only [Function.comp]
    omega

/-! ## A global plan -/

/-- An active thread that a plan assigns to a domain. -/
def ActiveIn (state : PlannerState) (domain tid : Nat) : Prop :=
  ∃ member, state.members[tid]? = some member ∧ member.active = true ∧
    effectiveMemberDomain tid state = some domain

/-- CPUs of their own for active threads of a domain: allowed, eligible, in the
domain, and no CPU for two. -/
structure OwnCpus (snapshot : PlannerInput) (state : PlannerState) (domain : Nat)
    (give : Nat → Option Nat) : Prop where
  usable : ∀ tid cpu, ActiveIn state domain tid → give tid = some cpu →
    cpu ∈ snapshot.allowedCpusOf tid ∧ cpu ∈ snapshot.mapping.eligibleCpus ∧
      snapshot.topo.domainOfCpu cpu = some domain
  distinct : ∀ left right cpu, ActiveIn state domain left → ActiveIn state domain right →
    give left = some cpu → give right = some cpu → left = right

/-- The active threads of a domain that are left without a CPU of their own. -/
def withoutCpuCount (state : PlannerState) (domain : Nat) (give : Nat → Option Nat) : Nat :=
  memberCount state fun member => member.active && assignedTo state domain member &&
    decide (give member.tid = none)

/-- The active members that a plan assigns to a domain. -/
def membersIn (state : PlannerState) (domain : Nat) : List MemberView :=
  state.members.values.filter fun member => member.active && assignedTo state domain member

section Members

variable {snapshot : PlannerInput} {state : PlannerState} {domain : Nat}
  {give : Nat → Option Nat}

theorem length_membersIn : (membersIn state domain).length = memberCount state fun member =>
    member.active && assignedTo state domain member :=
  List.countP_eq_length_filter.symm

theorem withoutCpuCount_eq : withoutCpuCount state domain give =
    (membersIn state domain).countP fun member => decide (give member.tid = none) := by
  unfold withoutCpuCount memberCount membersIn
  rw [List.countP_filter]
  simp only [Bool.and_comm]

theorem mem_membersIn (valid : state.Partitioned) {member : MemberView}
    (listed : member ∈ membersIn state domain) :
    state.members[member.tid]? = some member ∧ ActiveIn state domain member.tid := by
  obtain ⟨present, counts⟩ := List.mem_filter.mp listed
  obtain ⟨active, assigned⟩ := Bool.and_eq_true_iff.mp counts
  have found := (mem_values valid.keyed).mp present
  exact ⟨found, member, found, active, of_decide_eq_true assigned⟩

theorem OwnCpus.apart (own : OwnCpus snapshot state domain give) (valid : state.Partitioned)
    {left right : MemberView} {cpu : Nat} (onLeft : left ∈ membersIn state domain)
    (onRight : right ∈ membersIn state domain) (leftGiven : give left.tid = some cpu)
    (rightGiven : give right.tid = some cpu) : left = right := by
  obtain ⟨leftFound, leftActive⟩ := mem_membersIn valid onLeft
  obtain ⟨rightFound, rightActive⟩ := mem_membersIn valid onRight
  have same := own.distinct left.tid right.tid cpu leftActive rightActive leftGiven rightGiven
  rw [same, rightFound] at leftFound
  exact (Option.some.inj leftFound).symm

end Members

section Global

variable (features : BuildFeatures) (config : PlannerConfig) (snapshot : PlannerInput)
  (assignments : List Assignment)
  (oneEach : assignments.length = (buildState features config snapshot .global).items.length)

include oneEach

/-- An active thread is predicted where its item is assigned, and nowhere else. -/
theorem global_predictedDomain {member : MemberView}
    (found : (assignedState features config snapshot .global assignments).members[member.tid]? =
      some member) (active : member.active = true) :
    predictedDomain (assignedState features config snapshot .global assignments)
        ((assignedState features config snapshot .global assignments).assignments[·]?) member =
      effectiveMemberDomain member.tid
        (assignedState features config snapshot .global assignments) := by
  have valid := assignedState_partitioned features config snapshot .global assignments oneEach
  have inItem := global_inItem features config snapshot found
  rw [active] at inItem
  obtain ⟨index, indexed⟩ := Option.isSome_iff_exists.mp inItem
  obtain ⟨item, stored, listed⟩ := valid.indexed member.tid index indexed
  obtain ⟨assignment, assigned⟩ : ∃ assignment, (assignedState features config snapshot .global
      assignments).assignments[index]? = some assignment :=
    ⟨_, List.getElem?_eq_getElem (valid.assigned ▸ (List.getElem?_eq_some_iff.mp stored).1)⟩
  have target := valid.effectiveMemberDomain_eq stored assigned listed found
  rw [predictedDomain_eq found, global_baseline features config snapshot found, target]
  cases assignment with
  | currentHome => exact Option.or_self
  | domain other => rfl

/-- The scored count never exceeds the active threads assigned to the domain. -/
theorem global_predictedTaskCount_le {domain : Nat} (bound : domain < snapshot.topo.domains.length) :
    predictedTaskCount (assignedState features config snapshot .global assignments) domain ≤
      memberCount (assignedState features config snapshot .global assignments) fun member =>
        member.active &&
          assignedTo (assignedState features config snapshot .global assignments) domain member := by
  have valid := assignedState_partitioned features config snapshot .global assignments oneEach
  have sameCounts : tally snapshot.topo.domains.length
      ((itemMembers (buildState features config snapshot .global).members
        (buildState features config snapshot .global).items).filter (·.active)) (·.baselineDomain)
        (fun _ => 1) = tally snapshot.topo.domains.length
      ((buildState features config snapshot .global).members.values.filter (·.active))
        (·.baselineDomain) fun _ => 1 := by
    refine tally_perm _ _ _ ?_
    have active := (itemMembers_active features config snapshot).filter (·.active)
    rwa [List.filter_filter, List.filter_congr (fun _ _ => Bool.and_self _)] at active
  obtain ⟨model, found, current, item⟩ := buildDomains_counts snapshot
    (buildState features config snapshot .global).members
    (buildState features config snapshot .global).items bound
  rw [sameCounts, ← current] at item
  have placed : (tally (assignedState features config snapshot .global assignments).domains.length
      ((placedMembers (assignedState features config snapshot .global assignments)).filter
        (·.1.active)) (some ·.2) fun _ => 1)[domain]?.getD 0 ≤
      memberCount (assignedState features config snapshot .global assignments) fun member =>
        member.active &&
          assignedTo (assignedState features config snapshot .global assignments) domain member := by
    have counted := countP_placedMembers valid domain
    rw [getElem?_tally, tallySum_one, counted]
    split
    · refine (Nat.min_le_left _ _).trans (List.countP_mono_left ?_)
      intro member _ counts
      exact (Bool.and_eq_true_iff.mp counts).1
    · exact Nat.zero_le _
  rw [predictedTaskCount_eq found, item]
  unfold satAdd32
  omega

/-- The predicted slots of a domain are those of the members assigned to it. -/
theorem global_predictedSlots {domain : Nat} (bound : domain < snapshot.topo.domains.length) :
    (predictedSlots (assignedState features config snapshot .global assignments)
      ((assignedState features config snapshot .global assignments).assignments[·]?))[domain]? =
      some (.ofMembers domain
        (membersIn (assignedState features config snapshot .global assignments) domain)) := by
  have valid := assignedState_partitioned features config snapshot .global assignments oneEach
  have inside : domain <
      (assignedState features config snapshot .global assignments).domains.length := by
    simpa [assignedState, buildState, buildDomains] using bound
  rw [getElem?_predictedSlots, if_pos inside, List.filter_filter]
  apply congrArg (some ∘ PredictedSlots.ofMembers domain)
  apply List.filter_congr
  intro member listed
  cases active : member.active with
  | false => simp
  | true =>
      have found := (mem_values valid.keyed).mp listed
      rw [global_predictedDomain features config snapshot assignments oneEach found active]
      simp [assignedTo]

/-- A CPU that an active thread may be given is one its member lists for the domain. -/
theorem OwnCpus.suits {domain : Nat} {give : Nat → Option Nat}
    (own : OwnCpus snapshot (assignedState features config snapshot .global assignments) domain
      give) {member : MemberView} {cpu : Nat}
    (listed : member ∈ membersIn (assignedState features config snapshot .global assignments) domain)
    (given : give member.tid = some cpu) : cpu ∈ member.cpusIn domain := by
  have valid := assignedState_partitioned features config snapshot .global assignments oneEach
  obtain ⟨found, active⟩ := mem_membersIn valid listed
  obtain ⟨thread, _, viewed⟩ := globalMember features config snapshot found
  have cpus : member.allowedCpusByDomain =
      allowedCpusByDomain snapshot (snapshot.allowedCpusOf member.tid) :=
    congrArg MemberView.allowedCpusByDomain viewed
  rw [MemberView.cpusIn, cpus]
  exact mem_allowedCpusByDomain.mpr (own.usable member.tid cpu active given)

/-- The slot constraint of a domain in a global plan: no way to give its active
threads CPUs of their own leaves fewer of them without than it counts. -/
theorem global_slotConstraint_le {domain : Nat} {score : DomainScore}
    (scored : (evaluatePlan (assignedState features config snapshot .global
      assignments)).domains[domain]? = some score) {give : Nat → Option Nat}
    (own : OwnCpus snapshot (assignedState features config snapshot .global assignments) domain
      give) :
    score.cost.hardConstraints.slotOverCapacity.extraTasks ≤ withoutCpuCount
        (assignedState features config snapshot .global assignments) domain give ∧
      (withoutCpuCount (assignedState features config snapshot .global assignments) domain give =
        0 → score.cost.hardConstraints.slotOverCapacity = .withinCapacity) := by
  have valid := assignedState_partitioned features config snapshot .global assignments oneEach
  have bound : domain < snapshot.topo.domains.length := by
    have inside := (List.getElem?_eq_some_iff.mp scored).1
    simpa [evaluatePlan, domainScores, assignedState, buildState, buildDomains] using inside
  have fewer := global_predictedTaskCount_le features config snapshot assignments oneEach bound
  have slot := global_predictedSlots features config snapshot assignments oneEach bound
  have unique : (membersIn (assignedState features config snapshot .global assignments)
      domain).Nodup := (nodup_values valid.keyed).filter _
  obtain ⟨byTotal, byGroup⟩ := PredictedSlots.constraint_le unique
    (fun member listed cpu given =>
      own.suits features config snapshot assignments oneEach listed given)
    (fun left onLeft right onRight cpu leftGiven rightGiven =>
      own.apart valid onLeft onRight leftGiven rightGiven)
  unfold predictedTaskCount at fewer
  rw [scored, Option.map_some, Option.getD_some, ← length_membersIn] at fewer
  rw [← withoutCpuCount_eq] at byTotal byGroup
  generalize assignedState features config snapshot .global assignments = state at *
  obtain ⟨model, _, rfl⟩ : ∃ model, state.domains[domain]? = some model ∧
      domainScore model (collectAssignmentTotals state) domain = score := by
    simpa only [evaluatePlan, domainScores, List.getElem?_mapIdx, Option.map_eq_some_iff] using scored
  rw [domainScore_slotOverCapacity slot]
  rcases maxOf_cases (taskSlotConstraint (domainScore model (collectAssignmentTotals state)
      domain).predictedActiveTaskCount (PredictedSlots.ofMembers domain
        (membersIn state domain)).cpuSet.size)
    (affinityGroupSlotConstraint (PredictedSlots.ofMembers domain
      (membersIn state domain)).affinityGroups) with
    total | groups
  · rw [total]
    have extra := extraTasks_taskSlotConstraint (domainScore model (collectAssignmentTotals state)
      domain).predictedActiveTaskCount (PredictedSlots.ofMembers domain
        (membersIn state domain)).cpuSet.size
    exact ⟨by omega, fun none => counts_taskSlotConstraint _ _ (by omega)⟩
  · rw [groups]
    exact ⟨byGroup, fun none => (affinityGroupSlotConstraint_le _).2 (by omega)⟩

end Global

/-- The crew in domain 1: the pinned thread keeps CPU 2, and the other takes CPU 3. -/
def crewCpu (tid : Nat) : Option Nat :=
  if tid = 7 then some 3 else if tid = 9 then some 2 else none

theorem crewCpu_eq_some {tid cpu : Nat} (given : crewCpu tid = some cpu) :
    tid = 7 ∧ cpu = 3 ∨ tid = 9 ∧ cpu = 2 := by
  unfold crewCpu at given
  split at given
  next moved => exact .inl ⟨moved, (Option.some.inj given).symm⟩
  · split at given
    next pinned => exact .inr ⟨pinned, (Option.some.inj given).symm⟩
    · cases given

theorem global_slotConstraint_le_crew : ∃ score,
    (evaluatePlan (assignedState ⟨false⟩ sampleConfig crewInput .global
      [.domain 1, .currentHome, .currentHome])).domains[1]? = some score ∧
      score.predictedActiveTaskCount = 2 ∧
      score.cost.hardConstraints.slotOverCapacity = .withinCapacity := by
  have own : OwnCpus crewInput (assignedState ⟨false⟩ sampleConfig crewInput .global
      [.domain 1, .currentHome, .currentHome]) 1 crewCpu := by
    constructor
    · intro tid cpu _ given
      obtain ⟨rfl, rfl⟩ | ⟨rfl, rfl⟩ := crewCpu_eq_some given
      · exact ⟨by decide +kernel, by decide +kernel, by decide +kernel⟩
      · exact ⟨by decide +kernel, by decide +kernel, by decide +kernel⟩
    · intro left right cpu _ _ leftGiven rightGiven
      obtain ⟨rfl, rfl⟩ | ⟨rfl, rfl⟩ := crewCpu_eq_some leftGiven
      · obtain ⟨rfl, _⟩ | ⟨_, other⟩ := crewCpu_eq_some rightGiven
        · rfl
        · cases other
      · obtain ⟨_, other⟩ | ⟨rfl, _⟩ := crewCpu_eq_some rightGiven
        · cases other
        · rfl
  obtain ⟨score, scored, two⟩ : ∃ score, (evaluatePlan (assignedState ⟨false⟩ sampleConfig
      crewInput .global [.domain 1, .currentHome, .currentHome])).domains[1]? = some score ∧
      score.predictedActiveTaskCount = 2 :=
    Option.map_eq_some_iff.mp (by decide +kernel)
  exact ⟨score, scored, two, (global_slotConstraint_le ⟨false⟩ sampleConfig crewInput
    [.domain 1, .currentHome, .currentHome] (by decide +kernel) scored own).2 (by decide +kernel)⟩

end CSwitch.Planner
