import CSwitch.Planner.Uncongested

/-! The DF load a plan is scored with. The evaluation adds the effects assigned
to a domain to its load and takes the effects based there away; the counters of
items also hold inactive members, which the managed counter leaves out. -/

set_option autoImplicit false

namespace CSwitch.Planner

open Library Policy

/-! ## Sums of effects -/

/-- The DF effects of the members with a property. -/
def memberDf (state : PlannerState) (counts : MemberView → Bool) : Nat :=
  ((state.members.values.filter counts).map (·.effectDfX100)).sum

section Sums

variable {state : PlannerState}

theorem memberDf_split (counts split : MemberView → Bool) :
    memberDf state counts = memberDf state (fun member => counts member && split member) +
      memberDf state (fun member => counts member && !split member) := by
  unfold memberDf
  induction state.members.values with
  | nil => rfl
  | cons member rest ih =>
      cases counted : counts member with
      | false => simpa [List.filter_cons, counted] using ih
      | true =>
          cases side : split member with
          | false =>
              simp [counted, side, ih]
              omega
          | true =>
              simp [counted, side, ih]
              omega

theorem memberDf_congr {counts other : MemberView → Bool}
    (same : ∀ member ∈ state.members.values, counts member = other member) :
    memberDf state counts = memberDf state other := by
  unfold memberDf
  rw [List.filter_congr same]

theorem memberDf_eq_zero_iff {counts : MemberView → Bool} : memberDf state counts = 0 ↔
    ∀ member ∈ state.members.values, counts member = true → member.effectDfX100 = 0 := by
  unfold memberDf
  rw [List.sum_eq_zero_iff]
  constructor
  · intro zero member listed counted
    exact zero _ (List.mem_map_of_mem (List.mem_filter.mpr ⟨listed, counted⟩))
  · intro zero effect listed
    obtain ⟨member, found, rfl⟩ := List.mem_map.mp listed
    obtain ⟨present, counted⟩ := List.mem_filter.mp found
    exact zero member present counted

end Sums

/-! ## What is in a domain -/

section Domain

variable (state : PlannerState) (domain : Nat)

/-- The domain a plan runs a member in: the one its item is assigned to, or the
baseline of a member outside every item. -/
def accountedDomain (member : MemberView) : Option Nat :=
  if inItem state member then effectiveMemberDomain member.tid state else member.baselineDomain

def basedIn (member : MemberView) : Bool := decide (member.baselineDomain = some domain)

def assignedTo (member : MemberView) : Bool :=
  decide (effectiveMemberDomain member.tid state = some domain)

def accountedIn (member : MemberView) : Bool := decide (accountedDomain state member = some domain)

def movedInDf : Nat :=
  memberDf state fun member => member.active && accountedIn state domain member &&
    !basedIn domain member

def movedOutDf : Nat :=
  memberDf state fun member => member.active && basedIn domain member &&
    !accountedIn state domain member

/-- The active members outside every item. -/
def outsideDf : Nat :=
  memberDf state fun member => member.active && basedIn domain member && !inItem state member

/-- The inactive members of items that are based in the domain. -/
def idleBasedDf : Nat :=
  memberDf state fun member => inItem state member && basedIn domain member && !member.active

/-- The inactive members of items that are assigned to the domain. -/
def idleAssignedDf : Nat :=
  memberDf state fun member => inItem state member && assignedTo state domain member &&
    !member.active

/-! The three exact sums behind the counters of the source. -/

def managedDf : Nat := memberDf state fun member => member.active && basedIn domain member

def itemDf : Nat := memberDf state fun member => inItem state member && basedIn domain member

def assignedDf : Nat := memberDf state fun member => inItem state member && assignedTo state domain member

end Domain

section Balance

variable {state : PlannerState} {domain : Nat}

theorem accountedIn_of_inItem {member : MemberView} (inside : inItem state member = true) :
    accountedIn state domain member = assignedTo state domain member := by
  unfold accountedIn accountedDomain
  rw [if_pos inside]
  rfl

theorem accountedIn_of_not_inItem {member : MemberView} (outside : inItem state member = false) :
    accountedIn state domain member = basedIn domain member := by
  unfold accountedIn accountedDomain
  rw [outside, if_neg Bool.false_ne_true]
  rfl

/-- The parts of the three counters: `based` and `assigned` are the active members
of items, and what stays in the domain is in both. -/
theorem counters_parts : ∃ based assigned, managedDf state domain = based + outsideDf state domain ∧
    itemDf state domain = based + idleBasedDf state domain ∧
    assignedDf state domain = assigned + idleAssignedDf state domain ∧
    (memberDf state fun member => member.active && accountedIn state domain member) =
      assigned + outsideDf state domain ∧
    assigned + movedOutDf state domain = based + movedInDf state domain := by
  let based := memberDf state fun member =>
    member.active && basedIn domain member && inItem state member
  let assigned := memberDf state fun member =>
    member.active && accountedIn state domain member && inItem state member
  have managed : managedDf state domain = based + outsideDf state domain := memberDf_split _ _
  have accounted : (memberDf state fun member => member.active &&
      accountedIn state domain member) = assigned + outsideDf state domain := by
    rw [memberDf_split _ (inItem state)]
    refine congrArg (assigned + ·) (memberDf_congr ?_)
    intro member _
    cases inside : inItem state member with
    | false => rw [accountedIn_of_not_inItem inside]
    | true => simp
  refine ⟨based, assigned, managed, ?_, ?_, accounted, ?_⟩
  · unfold itemDf
    rw [memberDf_split _ (·.active)]
    refine congrArg (· + idleBasedDf state domain) (memberDf_congr ?_)
    intro member _
    cases member.active <;> simp [Bool.and_comm]
  · unfold assignedDf
    rw [memberDf_split _ (·.active)]
    refine congrArg (· + idleAssignedDf state domain) (memberDf_congr ?_)
    intro member _
    cases inside : inItem state member with
    | false => simp
    | true => simp [accountedIn_of_inItem inside, Bool.and_comm]
  · have arrivals : _ = _ + movedInDf state domain :=
      memberDf_split (fun member => member.active && accountedIn state domain member)
        (basedIn domain)
    have departures : managedDf state domain = _ + movedOutDf state domain := memberDf_split _ _
    have kept : (memberDf state fun member => member.active && basedIn domain member &&
        accountedIn state domain member) = memberDf state fun member => member.active &&
          accountedIn state domain member && basedIn domain member := by
      refine memberDf_congr ?_
      intro member _
      rw [Bool.and_right_comm]
    omega

end Balance

/-! ## The counters of a state -/

/-- The live DF bandwidth that a state has for a domain. -/
def PlannerState.liveDf (state : PlannerState) (domain : Nat) : Nat :=
  (state.domains[domain]?.map (·.liveDfX100)).getD 0

/-- The exact sums behind the predictions of a domain fit the machine integers. -/
structure SumsFit (state : PlannerState) (domain : Nat) : Prop where
  item : itemDf state domain ≤ u32Max
  managed : managedDf state domain + assignedDf state domain ≤ u32Max
  live : state.liveDf domain + assignedDf state domain ≤ u32Max

/-- `predicted_managed_df` in `evaluate_plan`. -/
def predictedManagedDf (model : DomainModel) (totals : AssignmentTotals) (domain : Nat) : Nat :=
  satAdd32 (model.currentManagedDfX100 - model.currentItemDfX100)
    (totals.assignedDfX100[domain]?.getD 0)

theorem buildDomains_df (snapshot : PlannerInput) (members : MemberMap) (items : List PlannerItem)
    {domain : Nat} (bound : domain < snapshot.topo.domains.length) :
    ∃ model, (buildDomains snapshot members items)[domain]? = some model ∧
      model.currentManagedDfX100 = (tally snapshot.topo.domains.length
        (members.values.filter (·.active)) (·.baselineDomain) (·.effectDfX100))[domain]?.getD 0 ∧
      model.currentItemDfX100 = (tally snapshot.topo.domains.length (itemMembers members items)
        (·.baselineDomain) (·.effectDfX100))[domain]?.getD 0 := by
  simp only [buildDomains, List.getElem?_map, List.getElem?_range bound, Option.map_some]
  exact ⟨_, rfl, rfl, rfl⟩

section Counters

variable {state : PlannerState} (valid : state.Partitioned) (domain : Nat)

theorem tallySum_filter (keep : MemberView → Bool) (target : MemberView → Option Nat) :
    tallySum (state.members.values.filter keep) target (·.effectDfX100) domain =
      memberDf state fun member => keep member && decide (target member = some domain) := by
  unfold tallySum
  rw [List.filter_filter]
  apply memberDf_congr
  intro member _
  exact Bool.and_comm _ _

theorem tallySum_managed : tallySum (state.members.values.filter (·.active)) (·.baselineDomain)
    (·.effectDfX100) domain = managedDf state domain :=
  tallySum_filter domain _ _

include valid

theorem tallySum_items : tallySum (itemMembers state.members state.items) (·.baselineDomain)
    (·.effectDfX100) domain = itemDf state domain := by
  rw [tallySum_perm valid.itemMembers_perm]
  exact tallySum_filter domain _ _

theorem tallySum_placed : tallySum (placedMembers state) (some ·.2) (·.1.effectDfX100) domain =
    assignedDf state domain := by
  have targets : tallySum (placedMembers state) (some ·.2) (·.1.effectDfX100) domain =
      tallySum (itemMembers state.members state.items)
        (fun member => effectiveMemberDomain member.tid state) (·.effectDfX100) domain := by
    rw [valid.placedMembers_eq]
    unfold tallySum
    induction itemMembers state.members state.items with
    | nil => rfl
    | cons member rest ih =>
        cases target : effectiveMemberDomain member.tid state with
        | none => simpa [List.filterMap_cons, List.filter_cons, target] using ih
        | some other =>
            by_cases here : other = domain
            · simpa [List.filterMap_cons, List.filter_cons, target, here] using ih
            · simpa [List.filterMap_cons, List.filter_cons, target, here] using ih
  rw [targets, tallySum_perm valid.itemMembers_perm]
  exact tallySum_filter domain _ _

end Counters

/-! ## The predicted loads -/

/-- The loads a plan is scored with are those of the active threads: the managed load
that of the threads accounted in the domain, the DF load the live one with the moves. -/
def LoadAccounted (state : PlannerState) (domain : Nat) : Prop :=
  ∃ model score, state.domains[domain]? = some model ∧
    (evaluatePlan state).domains[domain]? = some score ∧
    predictedManagedDf model (collectAssignmentTotals state) domain =
      (memberDf state fun member => member.active && accountedIn state domain member) ∧
    score.predictedDfX100 =
      state.liveDf domain + movedInDf state domain - movedOutDf state domain

/-- The inactive members of items stay out of the account of a domain: those assigned
to it make up for those based in it. -/
def IdleBalanced (state : PlannerState) (domain : Nat) : Prop :=
  idleAssignedDf state domain = min (outsideDf state domain) (idleBasedDf state domain) ∧
    (idleAssignedDf state domain = idleBasedDf state domain ∨
      state.liveDf domain + movedInDf state domain ≤ movedOutDf state domain)

/-- The two predictions over the exact sums. -/
theorem predictions_eq {snapshot : PlannerInput} {state : PlannerState} {domain : Nat}
    (valid : state.Partitioned)
    (domains : state.domains = buildDomains snapshot state.members state.items)
    (bound : domain < snapshot.topo.domains.length) (fits : SumsFit state domain) :
    ∃ model, state.domains[domain]? = some model ∧
      predictedManagedDf model (collectAssignmentTotals state) domain =
        managedDf state domain - itemDf state domain + assignedDf state domain ∧
      (domainScore model (collectAssignmentTotals state) domain).predictedDfX100 =
        state.liveDf domain + assignedDf state domain - itemDf state domain := by
  have size : state.domains.length = snapshot.topo.domains.length := by
    simp [domains, buildDomains]
  obtain ⟨itemFits, managedFits, liveFits⟩ := fits
  obtain ⟨model, found, managed, item⟩ :=
    buildDomains_df snapshot state.members state.items bound
  rw [← domains] at found
  have live : state.liveDf domain = model.liveDfX100 := by
    rw [PlannerState.liveDf, found]
    rfl
  rw [tally_getD bound (by rw [tallySum_managed]; omega), tallySum_managed] at managed
  rw [tally_getD bound (by rw [tallySum_items valid]; omega), tallySum_items valid] at item
  have assigned : (collectAssignmentTotals state).assignedDfX100[domain]?.getD 0 =
      assignedDf state domain := by
    have placed := tallySum_placed valid domain
    change (tally state.domains.length (placedMembers state) (some ·.2)
      (·.1.effectDfX100))[domain]?.getD 0 = _
    rw [tally_getD (by omega) (by rw [placed]; omega), placed]
  refine ⟨model, found, ?_, ?_⟩
  · rw [predictedManagedDf, assigned, managed, item, satAdd32_of_le (by omega)]
  · change satAdd32 model.liveDfX100 (_ : Nat) - model.currentItemDfX100 = _
    rw [assigned, item, ← live, satAdd32_of_le liveFits]

theorem loadAccounted_iff {snapshot : PlannerInput} {state : PlannerState} {domain : Nat}
    (valid : state.Partitioned)
    (domains : state.domains = buildDomains snapshot state.members state.items)
    (bound : domain < snapshot.topo.domains.length) (fits : SumsFit state domain) :
    LoadAccounted state domain ↔ IdleBalanced state domain := by
  obtain ⟨model, found, managed, predicted⟩ := predictions_eq valid domains bound fits
  have scored : (evaluatePlan state).domains[domain]? =
      some (domainScore model (collectAssignmentTotals state) domain) := by
    simp only [evaluatePlan, domainScores, List.getElem?_mapIdx, found, Option.map_some]
  obtain ⟨based, assigned, managedParts, itemParts, assignedParts, accounted, moved⟩ :=
    counters_parts
  constructor
  · rintro ⟨other, score, stored, listed, sameManaged, samePredicted⟩
    obtain rfl := Option.some.inj (found.symm.trans stored)
    obtain rfl := Option.some.inj (scored.symm.trans listed)
    rw [managed, accounted] at sameManaged
    rw [predicted] at samePredicted
    exact ⟨by omega, by omega⟩
  · rintro ⟨covered, balanced⟩
    refine ⟨model, _, found, scored, ?_, ?_⟩
    · rw [managed, accounted]
      omega
    · rw [predicted]
      cases balanced with
      | inl same => omega
      | inr emptied => omega

section Built

variable (features : BuildFeatures) (config : PlannerConfig) (snapshot : PlannerInput)
  (mode : PlanMode) (assignments : List Assignment)

/-- A built state under any assignment of its items. -/
def assignedState : PlannerState :=
  { buildState features config snapshot mode with assignments }

variable (oneEach : assignments.length = (buildState features config snapshot mode).items.length)

include oneEach

theorem assignedState_partitioned :
    (assignedState features config snapshot mode assignments).Partitioned := by
  have built := buildState_partitioned features config snapshot mode
  refine built.reassign rfl ?_
  rw [built.assigned]
  exact oneEach

/-- The loads that a plan is scored with are those of the active threads exactly when
the inactive members of items balance. -/
theorem assignedState_loadAccounted_iff {domain : Nat}
    (bound : domain < snapshot.topo.domains.length)
    (fits : SumsFit (assignedState features config snapshot mode assignments) domain) :
    LoadAccounted (assignedState features config snapshot mode assignments) domain ↔
      IdleBalanced (assignedState features config snapshot mode assignments) domain :=
  loadAccounted_iff (assignedState_partitioned features config snapshot mode assignments oneEach) rfl
    bound fits

end Built

theorem idleBalanced_of_active {state : PlannerState} {domain : Nat}
    (active : ∀ member ∈ state.members.values, inItem state member = true →
      member.active = true) : IdleBalanced state domain := by
  have assigned : idleAssignedDf state domain = 0 := by
    refine memberDf_eq_zero_iff.mpr ?_
    intro member listed idle
    simp only [Bool.and_eq_true, Bool.not_eq_true'] at idle
    rw [active member listed idle.1.1] at idle
    cases idle.2
  have based : idleBasedDf state domain = 0 := by
    refine memberDf_eq_zero_iff.mpr ?_
    intro member listed idle
    simp only [Bool.and_eq_true, Bool.not_eq_true'] at idle
    rw [active member listed idle.1.1] at idle
    cases idle.2
  refine ⟨?_, .inl ?_⟩
  · rw [assigned, based, Nat.min_zero]
  · rw [assigned, based]

/-- A global plan has active threads in its items only. -/
theorem global_idleBalanced (features : BuildFeatures) (config : PlannerConfig)
    (snapshot : PlannerInput) (assignments : List Assignment) (domain : Nat) :
    IdleBalanced (assignedState features config snapshot .global assignments) domain := by
  refine idleBalanced_of_active ?_
  intro member listed inside
  have keyed := buildMembers_keyed config snapshot .global
  have found := (mem_values keyed).mp listed
  rw [← global_inItem features config snapshot found]
  exact inside

/-- Thread 7 of the crew takes its 3000 MiB/s to domain 1. -/
def crewState : PlannerState :=
  assignedState ⟨false⟩ sampleConfig crewInput .global [.domain 1, .currentHome, .currentHome]

theorem assignedState_loadAccounted_crew :
    movedOutDf crewState 0 = 300000 ∧ movedInDf crewState 1 = 300000 ∧
      LoadAccounted crewState 0 ∧ LoadAccounted crewState 1 := by
  have accounted (domain : Nat) (bound : domain < 2) (fits : SumsFit crewState domain) :
      LoadAccounted crewState domain :=
    (assignedState_loadAccounted_iff ⟨false⟩ sampleConfig crewInput .global
      [.domain 1, .currentHome, .currentHome] (by decide +kernel) bound fits).mpr
      (global_idleBalanced ⟨false⟩ sampleConfig crewInput _ domain)
  refine ⟨by decide +kernel, by decide +kernel, accounted 0 (by decide) ?_,
    accounted 1 (by decide) ?_⟩
  · exact ⟨by decide +kernel, by decide +kernel, by decide +kernel⟩
  · exact ⟨by decide +kernel, by decide +kernel, by decide +kernel⟩

/-! ## An inactive thread in the scope

A thread that was last seen long ago is touched, so it gets an item of its own. -/

def restingInput : PlannerInput :=
  { strandedInput with
    nowNs := 1000000000
    pendingTids := ∅
    threads := (∅ : ThreadMap).insert 7 demandingThread
    previousPlan := some {} }

def restingState : PlannerState :=
  assignedState ⟨false⟩ sampleConfig restingInput (.incremental ⟨.ofList [7], ∅⟩) [.currentHome]

theorem restingState_accounted_apart :
    ¬ ∀ (features : BuildFeatures) (config : PlannerConfig) (snapshot : PlannerInput)
        (mode : PlanMode) (assignments : List Assignment) (domain : Nat),
      assignments.length = (buildState features config snapshot mode).items.length →
      domain < snapshot.topo.domains.length →
      SumsFit (assignedState features config snapshot mode assignments) domain →
      LoadAccounted (assignedState features config snapshot mode assignments) domain := by
  intro claim
  obtain ⟨model, score, found, _, managed, _⟩ := claim ⟨false⟩ sampleConfig restingInput
    (.incremental ⟨.ofList [7], ∅⟩) [.currentHome] 0 (by decide +kernel) (by decide)
    ⟨by decide +kernel, by decide +kernel, by decide +kernel⟩
  have predicted : (restingState.domains[0]?.map fun model =>
      predictedManagedDf model (collectAssignmentTotals restingState) 0) = some 300 := by
    decide +kernel
  have active : (memberDf restingState fun member => member.active &&
      accountedIn restingState 0 member) = 0 := by decide +kernel
  change restingState.domains[0]? = some model at found
  rw [found, Option.map_some] at predicted
  have charged := Option.some.inj predicted
  change predictedManagedDf model (collectAssignmentTotals restingState) 0 = (memberDf restingState
    fun member => member.active && accountedIn restingState 0 member) at managed
  omega

end CSwitch.Planner
