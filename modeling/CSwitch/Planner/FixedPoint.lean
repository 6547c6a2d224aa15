import CSwitch.Planner.GreedyAtHome

/-! Planning an uncongested snapshot again. The greedy seed and the single moves
leave every thread at home; the swap pass does not ask whether a domain is short
of bandwidth. -/

set_option autoImplicit false

namespace CSwitch.Planner

open Library
open Std (TreeMap TreeSet)
open Policy

/-! ## Single moves -/

section Moves

variable {features : BuildFeatures} {snapshot : PlannerInput} {base state : PlannerState}
  {load : Nat → Nat} (settled : base.Settled load) (kept : StaysHome base state)

include settled kept

/-- The rule of the paper build against moves off a domain that is not full. -/
theorem blocks_off_home (snapshot : PlannerInput) {index home target : Nat} {item : PlannerItem}
    (stored : base.items[index]? = some item) (atHome : ItemHome base item home)
    (away : target ≠ home) :
    paperGreedyBlocksUnderSubscribedSoftMove index target snapshot state = true := by
  have own : state.items[index]? = some item := kept.items ▸ stored
  have here := kept.itemHome atHome
  obtain ⟨model, found⟩ : ∃ model, state.domains[home]? = some model :=
    ⟨_, List.getElem?_eq_getElem here.inRange⟩
  have carries := settled.models home model (kept.domains ▸ found)
  have live : liveDfExceedsCapacity state home = false := by
    unfold liveDfExceedsCapacity
    rw [found]
    simpa using carries.live
  have same := (kept.sameDomains settled).evaluatePlan_eq settled.partitioned
  have hard : (evaluatePlan state).cost.hardConstraints = {} := by
    rw [same]
    exact settled.calm
  obtain ⟨score, scored⟩ : ∃ score, (evaluatePlan state).domains[home]? = some score := by
    refine ⟨domainScore model (collectAssignmentTotals state) home, ?_⟩
    simp only [evaluatePlan, domainScores, List.getElem?_mapIdx, found, Option.map_some]
  have carried := settled.predictedDf_le (same ▸ scored) (kept.domains ▸ found)
  have within := (calm_spec settled.calm).2 score (List.mem_of_getElem? (same ▸ scored))
  have bound : index < state.assignments.length :=
    kept.length ▸ settled.partitioned.assigned ▸ (List.getElem?_eq_some_iff.mp stored).1
  have assigned := List.getElem?_eq_getElem bound
  have stays := homeAssignment_cases (kept.stays index item home _ stored atHome assigned)
  unfold paperGreedyBlocksUnderSubscribedSoftMove
  rw [here.singleSourceDomain own]
  dsimp only
  rw [if_neg away, if_neg, live, here.candidateAllowed own, hard, scored, found]
  · simp [within, SlotCapacityConstraint.extraTasks, carried]
  · rw [assigned]
    rintro ⟨notStay, notHome⟩
    rcases stays with current | named
    · exact notStay (congrArg some current)
    · exact notHome (congrArg some named)

theorem bestMove_none (greedy : features.schedulerPaperGreedy = true) :
    bestMove features snapshot state true = none := by
  cases found : bestMove features snapshot state true with
  | none => rfl
  | some move =>
      exfalso
      have known := bestMove_found found
      cases assigned : move.assignment with
      | currentHome => cases known.returns assigned
      | domain target =>
          have allowed := known.allowed
          rw [assigned] at allowed
          obtain ⟨item, own, _⟩ := candidateAllowed_domain allowed
          have stored : base.items[move.itemIndex]? = some item := kept.items ▸ own
          obtain ⟨home, atHome⟩ := settled.homes _ item stored
          by_cases away : target = home
          · subst away
            have better := improvementClearsMargin_better known.clears
            have same := ((kept.assign stored atHome).sameDomains settled).evaluatePlan_eq
              settled.partitioned
            rw [known.evaluated, assigned, same,
              (kept.sameDomains settled).evaluatePlan_eq settled.partitioned,
              PlannerCostBreakdown.not_isBetterThan_self] at better
            cases better
          · have blocked := blocks_off_home settled kept snapshot stored atHome away
            rw [known.unblocked target assigned greedy] at blocked
            cases blocked

theorem movePasses_home (greedy : features.schedulerPaperGreedy = true) (passes : Nat) :
    movePasses features snapshot true passes state = state := by
  cases passes with
  | zero => rfl
  | succ passes =>
      unfold movePasses
      rw [bestMove_none settled kept greedy]

end Moves

/-! ## The swap pass -/

/-- Two items with a demand may take each other's homes, and the plan that
exchanges them is better than the one that leaves everything at home. -/
def UsefulExchange (snapshot : PlannerInput) (state : PlannerState) (pair : Nat × Nat) : Prop :=
  ∃ leftHome rightHome, singleSourceDomain pair.1 state = some leftHome ∧
    singleSourceDomain pair.2 state = some rightHome ∧ leftHome ≠ rightHome ∧
    0 < itemDfDemandX100 pair.1 state ∧ 0 < itemDfDemandX100 pair.2 state ∧
    candidateAllowed pair.1 (.domain rightHome) snapshot state = true ∧
    candidateAllowed pair.2 (.domain leftHome) snapshot state = true ∧
    (evaluatePlan ((state.assign pair.1 (.domain rightHome)).assign pair.2
      (.domain leftHome))).cost.isBetterThan (evaluatePlan state).cost = true

theorem mem_heaviest_lt {config : PlannerConfig} {state : PlannerState} {index : Nat}
    (listed : index ∈ heaviest config state) : index < state.items.length := by
  unfold heaviest at listed
  obtain ⟨entry, taken, rfl⟩ := List.mem_map.mp listed
  have weighed := (List.mem_insertionSort _).mp (List.mem_of_mem_take taken)
  obtain ⟨index, bound, rfl⟩ := List.mem_mapIdx.mp weighed
  exact bound

theorem considerSwap_none_iff (snapshot : PlannerInput) (state : PlannerState)
    (baseline : PlanEvaluation) (best : Option BestSwap) (pair : Nat × Nat) :
    considerSwap snapshot state baseline best pair = none ↔
      best = none ∧ considerSwap snapshot state baseline none pair = none := by
  cases best with
  | none => simp
  | some current =>
      simp only [reduceCtorEq, false_and, iff_false]
      unfold considerSwap offerSwap
      dsimp only
      repeat' split
      all_goals simp

section Swaps

variable {snapshot : PlannerInput} {config : PlannerConfig} {base state : PlannerState}
  {load : Nat → Nat} (settled : base.Settled load) (kept : StaysHome base state)

include settled kept

/-- A swap leaves an item in a domain that is not its home. -/
theorem swapPass_away {swap : BestSwap} (found : bestSwap snapshot config state = some swap) :
    ∃ item home target, base.items[swap.leftIndex]? = some item ∧ ItemHome base item home ∧
      (swapPass snapshot config state).assignments[swap.leftIndex]? = some (.domain target) ∧
      target ≠ home := by
  have known := bestSwap_found found
  obtain ⟨leftHome, toLeft, leftAssigned⟩ := known.left
  obtain ⟨rightHome, toRight, rightAssigned⟩ := known.right
  have allowed := known.leftAllowed
  rw [toRight] at allowed
  obtain ⟨item, own, _⟩ := candidateAllowed_domain allowed
  have stored : base.items[swap.leftIndex]? = some item := kept.items ▸ own
  obtain ⟨home, atHome⟩ := settled.homes _ item stored
  have stays := kept.stays _ item home _ stored atHome leftAssigned
  obtain rfl : leftHome = home := Option.some.inj stays
  have apart : rightHome ≠ leftHome := by
    rintro rfl
    have better := known.better
    rw [known.evaluated, toLeft, toRight, PlannerState.assign_of_getElem? leftAssigned,
      PlannerState.assign_of_getElem? rightAssigned,
      PlannerCostBreakdown.not_isBetterThan_self] at better
    cases better
  have different : swap.rightIndex ≠ swap.leftIndex := by
    intro same
    rw [same, leftAssigned] at rightAssigned
    cases rightAssigned
    exact apart rfl
  have bound : swap.leftIndex < state.assignments.length :=
    (List.getElem?_eq_some_iff.mp leftAssigned).1
  refine ⟨item, leftHome, rightHome, stored, atHome, ?_, apart⟩
  unfold swapPass
  rw [found]
  dsimp only [PlannerState.assign]
  rw [List.getElem?_set_ne different, List.getElem?_set_self bound, toRight]

variable (seeded : ∀ index < base.items.length, state.assignments[index]? =
  some (if 0 < itemDfDemandX100 index base then homeAssignment index base else .currentHome))

include seeded

/-- The swap pass looks at the pairs with a demand only, and asks for a better
plan; with a plan to follow it asks for better hard constraints. -/
theorem considerSwap_seeded {pair : Nat × Nat} (left : pair.1 < base.items.length)
    (right : pair.2 < base.items.length) :
    considerSwap snapshot state (evaluatePlan state) none pair = none ↔
      snapshot.previousPlan.isSome = true ∨ ¬ UsefulExchange snapshot base pair := by
  obtain ⟨leftHome, leftAt⟩ := settled.homes _ _ (List.getElem?_eq_getElem left)
  obtain ⟨rightHome, rightAt⟩ := settled.homes _ _ (List.getElem?_eq_getElem right)
  have leftSource := leftAt.singleSourceDomain (List.getElem?_eq_getElem left)
  have rightSource := rightAt.singleSourceDomain (List.getElem?_eq_getElem right)
  have same := kept.sameDomains settled
  have baseline := same.evaluatePlan_eq settled.partitioned
  have swapped := ((same.assign pair.1 (.domain rightHome)).assign pair.2
    (.domain leftHome)).evaluatePlan_eq (settled.partitioned.reassign rfl (by
      rw [PlannerState.assign_length, PlannerState.assign_length]))
  have legal : ∀ index assignment, candidateAllowed index assignment snapshot state =
      candidateAllowed index assignment snapshot base := by
    intro index assignment
    rw [kept.frame]
    rfl
  have calm : (evaluatePlan base).cost.hardConstraints = {} := settled.calm
  have useful : UsefulExchange snapshot base pair ↔ leftHome ≠ rightHome ∧
      0 < itemDfDemandX100 pair.1 base ∧ 0 < itemDfDemandX100 pair.2 base ∧
      candidateAllowed pair.1 (.domain rightHome) snapshot base = true ∧
      candidateAllowed pair.2 (.domain leftHome) snapshot base = true ∧
      (evaluatePlan ((base.assign pair.1 (.domain rightHome)).assign pair.2
        (.domain leftHome))).cost.isBetterThan (evaluatePlan base).cost = true := by
    simp [UsefulExchange, leftSource, rightSource]
  rw [useful]
  unfold considerSwap
  dsimp only
  rw [seeded _ left, seeded _ right, baseline]
  simp only [homeAssignment, leftSource, rightSource, Option.map_some, Option.getD_some]
  by_cases leftAsks : 0 < itemDfDemandX100 pair.1 base
  · by_cases rightAsks : 0 < itemDfDemandX100 pair.2 base
    · rw [if_pos leftAsks, if_pos rightAsks]
      dsimp only
      simp only [swapped, legal, calm, PlannerHardConstraints.cmp_none_isGE, leftAsks, rightAsks,
        true_and, Bool.and_true]
      by_cases together : leftHome = rightHome
      · simp [together]
      · rw [if_neg together]
        cases leftAllowed : candidateAllowed pair.1 (.domain rightHome) snapshot base with
        | false => simp
        | true =>
            cases rightAllowed : candidateAllowed pair.2 (.domain leftHome) snapshot base with
            | false => simp
            | true =>
                cases better : (evaluatePlan ((base.assign pair.1 (.domain rightHome)).assign pair.2
                    (.domain leftHome))).cost.isBetterThan (evaluatePlan base).cost with
                | false => simp
                | true => cases snapshot.previousPlan.isSome <;> simp [together, offerSwap]
    · simp [leftAsks, rightAsks]
  · simp [leftAsks]

theorem bestSwap_none_iff (config : PlannerConfig) :
    bestSwap snapshot config state = none ↔ snapshot.previousPlan.isSome = true ∨
      ∀ pair ∈ orderedPairs (heaviest config base), ¬ UsefulExchange snapshot base pair := by
  have same : heaviest config state = heaviest config base := by
    rw [kept.frame]
    rfl
  have each : ∀ pair ∈ orderedPairs (heaviest config base),
      (considerSwap snapshot state (evaluatePlan state) none pair = none ↔
        snapshot.previousPlan.isSome = true ∨ ¬ UsefulExchange snapshot base pair) := by
    intro pair listed
    obtain ⟨left, right⟩ := mem_orderedPairs listed
    exact considerSwap_seeded settled kept seeded (mem_heaviest_lt left) (mem_heaviest_lt right)
  unfold bestSwap
  rw [same, foldl_eq_none_iff (considerSwap_none_iff snapshot state (evaluatePlan state))]
  simp only [true_and]
  constructor
  · intro none
    by_cases previous : snapshot.previousPlan.isSome = true
    · exact .inl previous
    · refine .inr fun pair listed => ?_
      exact ((each pair listed).mp (none pair listed)).resolve_left previous
  · rintro (previous | useless) pair listed
    · exact (each pair listed).mpr (.inl previous)
    · exact (each pair listed).mpr (.inr (useless pair listed))

end Swaps

/-! ## The plan -/

/-- Every active thread is sent to the domain it is at home in. -/
def KeepsHomes (snapshot : PlannerInput) (plan : PlacementPlan) : Prop :=
  ∀ (tid : Nat) thread, snapshot.threads[tid]? = some thread → snapshot.isActive tid thread = true →
    plan.entries[tid]?.map (·.targetDomain) = threadHome thread

section Plan

variable (config : PlannerConfig) (snapshot : PlannerInput) (triggers : List PlannerTrigger)
  (moveTrace planDebug : TraceLogger)

theorem plannedState_uncongested
    (global : (modeAndState ⟨true⟩ config snapshot triggers).1.isGlobal = true)
    (uncongested : Uncongested ⟨true⟩ config snapshot) (inRange : snapshot.InRange) :
    plannedState ⟨true⟩ config snapshot triggers = swapPass snapshot config
      (applyPaperGreedySeed snapshot (buildState ⟨true⟩ config snapshot .global) true) := by
  have settled := uncongested.settled inRange
  have kept := (applyPaperGreedySeed_home snapshot settled).1
  unfold plannedState
  rw [modeAndState_global global]
  change swapPass snapshot config (movePasses ⟨true⟩ snapshot true config.maxPasses
    (applyPaperGreedySeed snapshot (buildState ⟨true⟩ config snapshot .global) true)) = _
  rw [movePasses_home settled kept rfl]

/-- The targets of a global plan, read from the state it ends in. -/
theorem computePlan_global
    (global : (modeAndState ⟨true⟩ config snapshot triggers).1.isGlobal = true) {tid : Nat}
    {thread : ManagedThreadState} (found : snapshot.threads[tid]? = some thread) :
    (computePlanWithDebug ⟨true⟩ config snapshot triggers moveTrace
        planDebug).output.plan.entries[tid]?.map (·.targetDomain) =
      (effectiveMemberDomain tid (plannedState ⟨true⟩ config snapshot triggers)).or
        (threadHome thread) := by
  have mode : (modeAndState ⟨true⟩ config snapshot triggers).1 = .global := by
    rw [modeAndState_global global]
  have member : (buildMembers config snapshot
      (modeAndState ⟨true⟩ config snapshot triggers).1)[tid]? =
        some (memberView config snapshot .global tid thread) := by
    rw [mode, getElem?_buildMembers, found]
    rfl
  exact computePlan_targetDomain ⟨true⟩ config snapshot triggers moveTrace planDebug member

/-- In the paper build the global plan of an uncongested snapshot leaves every
active thread at home, unless there is no plan to follow and the swap pass meets
a pair of items whose exchange makes the plan better. -/
theorem computePlan_keepsHomes_iff
    (global : (modeAndState ⟨true⟩ config snapshot triggers).1.isGlobal = true)
    (uncongested : Uncongested ⟨true⟩ config snapshot) (inRange : snapshot.InRange) :
    KeepsHomes snapshot (computePlanWithDebug ⟨true⟩ config snapshot triggers moveTrace
        planDebug).output.plan ↔
      snapshot.previousPlan.isSome = true ∨
        ∀ pair ∈ orderedPairs (heaviest config (buildState ⟨true⟩ config snapshot .global)),
          ¬ UsefulExchange snapshot (buildState ⟨true⟩ config snapshot .global) pair := by
  have settled := uncongested.settled inRange
  obtain ⟨kept, seeded⟩ := applyPaperGreedySeed_home snapshot settled
  have planned := plannedState_uncongested config snapshot triggers global uncongested inRange
  rw [← bestSwap_none_iff settled kept seeded config]
  constructor
  · intro keeps
    cases found : bestSwap snapshot config (applyPaperGreedySeed snapshot
        (buildState ⟨true⟩ config snapshot .global) true) with
    | none => rfl
    | some swap =>
        exfalso
        obtain ⟨item, home, target, stored, atHome, assigned, away⟩ :=
          swapPass_away settled kept found
        obtain ⟨tid, rest, tids⟩ := List.exists_cons_of_ne_nil atHome.inhabited
        have listed : tid ∈ item.memberTids := tids ▸ List.mem_cons_self
        obtain ⟨member, viewed, active, homed⟩ := atHome.members tid listed
        obtain ⟨thread, known, rfl⟩ := globalMember ⟨true⟩ config snapshot viewed
        have reassigned := plannedState_reassigns ⟨true⟩ config snapshot triggers
        rw [modeAndState_global global] at reassigned
        rw [← planned] at assigned
        have moved := (plannedState_partitioned ⟨true⟩ config snapshot
          triggers).effectiveMemberDomain_eq (reassigned.items ▸ stored) assigned listed
            (reassigned.members ▸ viewed)
        have sent := keeps tid thread known active
        rw [computePlan_global config snapshot triggers moveTrace planDebug global known, moved,
          targetDomainForHome, Option.some_or] at sent
        exact away (Option.some.inj (sent.trans homed))
  · intro none tid thread known active
    have unswapped : plannedState ⟨true⟩ config snapshot triggers = applyPaperGreedySeed snapshot
        (buildState ⟨true⟩ config snapshot .global) true := by
      rw [planned]
      unfold swapPass
      rw [none]
    have viewed : (buildState ⟨true⟩ config snapshot .global).members[tid]? =
        some (memberView config snapshot .global tid thread) := by
      change (buildMembers config snapshot .global)[tid]? = _
      rw [getElem?_buildMembers, known]
      rfl
    rw [computePlan_global config snapshot triggers moveTrace planDebug global known, unswapped,
      (kept.sameDomains settled).domains,
      global_effective ⟨true⟩ config snapshot viewed active]
    exact Option.or_self

end Plan

/-! ## An exchange on an idle machine

Two threads at home in two domains that are far below their bandwidth capacity.
One of them weighs on a last-level cache that is half full, and the swap pass
exchanges the two. -/

def pressedThread (tid home llc : Nat) : ManagedThreadState where
  tid := tid
  tgid := tid
  lastObservedDomain := some home
  signature :=
    { valid := true
      stable := true
      projectedDfPressureX100 := 1000
      projectedLlcPressureX100 := llc }

def pressedInput : PlannerInput :=
  { crowdedInput with
    pendingTids := .ofList [1, 2]
    threads := ((∅ : ThreadMap).insert 1 (pressedThread 1 0 3000)).insert 2 (pressedThread 2 1 0)
    allowedCpus := ((∅ : CpuSetMap).insert 1 (.ofList [0, 1, 2, 3, 4, 5, 6, 7])).insert 2
      (.ofList [0, 1, 2, 3, 4, 5, 6, 7])
    allowedDomains := ((∅ : CpuSetMap).insert 1 (.ofList [0, 1])).insert 2 (.ofList [0, 1])
    llcStates := [some { sampleTsNs := 1000, valid := 1, ewmaPressurePctX100 := 5000 }, none]
    dfStates := [] }

theorem pressedInput_inRange : pressedInput.InRange where
  domains tid domain allowed := by
    have listed : domain ∈ (((∅ : CpuSetMap).insert 1 (.ofList [0, 1])).insert 2
        (.ofList [0, 1]))[tid]?.getD ∅ := allowed
    rw [TreeMap.getElem?_insert, TreeMap.getElem?_insert] at listed
    have small : domain ∈ (TreeSet.ofList [0, 1] : TreeSet Nat) → domain < 2 := by
      intro member
      rw [TreeSet.mem_ofList] at member
      rcases (by simpa using member : domain = 0 ∨ domain = 1) with rfl | rfl <;> decide
    split at listed
    · exact small listed
    · split at listed
      · exact small listed
      · simp at listed
  capacities domain := by
    have capacity : pressedInput.mapping.dfCapacityMibSX100 domain = defaultDfCapacityMibSX100 := by
      cases domain <;> rfl
    rw [capacity]
    decide
  threads := by decide +kernel

theorem pressedInput_uncongested : Uncongested ⟨true⟩ sampleConfig pressedInput where
  homes tid thread found _ := by
    change (((∅ : ThreadMap).insert 1 (pressedThread 1 0 3000)).insert 2
      (pressedThread 2 1 0))[tid]? = some thread at found
    rw [TreeMap.getElem?_insert, TreeMap.getElem?_insert] at found
    split at found
    next second =>
      obtain rfl := Std.LawfulEqCmp.eq_of_compare second
      obtain rfl := Option.some.inj found
      exact ⟨1, rfl, by decide +kernel⟩
    · split at found
      next first =>
        obtain rfl := Std.LawfulEqCmp.eq_of_compare first
        obtain rfl := Option.some.inj found
        exact ⟨0, rfl, by decide +kernel⟩
      · simp at found
  live domain _ := Nat.zero_le _
  homed := by decide +kernel
  calm := by decide +kernel

theorem pressedInput_leaves_home :
    ¬ ∀ (config : PlannerConfig) (snapshot : PlannerInput) (triggers : List PlannerTrigger)
        (moveTrace planDebug : TraceLogger),
      (modeAndState ⟨true⟩ config snapshot triggers).1.isGlobal = true →
      Uncongested ⟨true⟩ config snapshot → snapshot.InRange →
      KeepsHomes snapshot (computePlanWithDebug ⟨true⟩ config snapshot triggers moveTrace
        planDebug).output.plan := by
  intro claim
  have stays := claim sampleConfig pressedInput [] {} {} rfl pressedInput_uncongested
    pressedInput_inRange 1 (pressedThread 1 0 3000) rfl (by decide +kernel)
  have sent : (computePlanWithDebug ⟨true⟩ sampleConfig pressedInput [] {}
      {}).output.plan.entries[1]?.map (·.targetDomain) = some 1 := by decide +kernel
  rw [sent] at stays
  cases stays

/-- The same two threads when there is a plan to follow. -/
def followedInput : PlannerInput := { pressedInput with previousPlan := some {} }

theorem followedInput_uncongested : Uncongested ⟨true⟩ sampleConfig followedInput :=
  ⟨pressedInput_uncongested.homes, pressedInput_uncongested.live, pressedInput_uncongested.homed,
    pressedInput_uncongested.calm⟩

theorem computePlan_keepsHomes_followed :
    (computePlanWithDebug ⟨true⟩ sampleConfig followedInput [.sweepComplete 1] {}
      {}).output.plan.entries[1]?.map (·.targetDomain) = some 0 ∧
    (computePlanWithDebug ⟨true⟩ sampleConfig followedInput [.sweepComplete 1] {}
      {}).output.plan.entries[2]?.map (·.targetDomain) = some 1 := by
  have inRange : followedInput.InRange :=
    ⟨pressedInput_inRange.domains, pressedInput_inRange.capacities, pressedInput_inRange.threads⟩
  have keeps := (computePlan_keepsHomes_iff sampleConfig followedInput [.sweepComplete 1] {} {} rfl
    followedInput_uncongested inRange).mpr (.inl rfl)
  exact ⟨keeps 1 (pressedThread 1 0 3000) rfl (by decide +kernel),
    keeps 2 (pressedThread 2 1 0) rfl (by decide +kernel)⟩

end CSwitch.Planner
