import CSwitch.Planner.OptimizerRun
import CSwitch.Planner.PlanProperties

/-! A plan against the one that moves nothing. The search never worsens the hard
constraints of its seed; the seed of the default build moves nothing, the greedy
seed is not compared with it. -/

set_option autoImplicit false

namespace CSwitch.Planner

open Std (TreeMap TreeSet)

/-- The assignment that leaves every item where its members are. -/
def PlannerState.atHome (state : PlannerState) : PlannerState :=
  { state with assignments := state.items.map fun _ => .currentHome }

/-- The hard constraints that `evaluate_plan` finds in the assignments of a state. -/
def PlannerState.hardConstraints (state : PlannerState) : PlannerHardConstraints :=
  (evaluatePlan state).cost.hardConstraints

theorem modeAndState_global {features : BuildFeatures} {config : PlannerConfig}
    {snapshot : PlannerInput} {triggers : List PlannerTrigger}
    (global : (modeAndState features config snapshot triggers).1.isGlobal = true) :
    modeAndState features config snapshot triggers =
      (.global, buildState features config snapshot .global) := by
  have built := modeAndState_built features config snapshot triggers
  generalize modeAndState features config snapshot triggers = planned at global built
  obtain ⟨mode, state⟩ := planned
  cases mode with
  | global => rw [show state = _ from built]
  | incremental scope => cases global

theorem optimizeState_hardConstraints_le (features : BuildFeatures) (snapshot : PlannerInput)
    (config : PlannerConfig) (state : PlannerState) (wasGlobal : Bool) :
    ((optimizeState features snapshot config state wasGlobal).hardConstraints.cmp
      state.hardConstraints).isLE = true :=
  PlannerCostBreakdown.hardConstraints_le_of_le
    (optimizeState_cost_le features snapshot config state wasGlobal)

/-- In the default build a global plan has no worse hard constraints than leaving
every item at home. In the paper build it has none worse than its greedy seed, so
it is no worse than home whenever the seed is not. -/
theorem plannedState_hardConstraints_le (features : BuildFeatures) (config : PlannerConfig)
    (snapshot : PlannerInput) (triggers : List PlannerTrigger)
    (global : (modeAndState features config snapshot triggers).1.isGlobal = true) :
    let final := (plannedState features config snapshot triggers).hardConstraints
    let built := buildState features config snapshot .global
    let home := built.atHome.hardConstraints
    let seed := (applyPaperGreedySeed snapshot built true).hardConstraints
    (features.schedulerPaperGreedy = false → (final.cmp home).isLE = true) ∧
    (features.schedulerPaperGreedy = true →
      (final.cmp seed).isLE = true ∧ ((seed.cmp home).isLE = true → (final.cmp home).isLE = true)) := by
  intro final built home seed
  have planned : plannedState features config snapshot triggers = optimizeState features snapshot
      config (if features.schedulerPaperGreedy then applyPaperGreedySeed snapshot built true
        else built) true := by
    unfold plannedState
    rw [modeAndState_global global]
    rfl
  have descends : ∀ start, plannedState features config snapshot triggers =
      optimizeState features snapshot config start true →
      (final.cmp start.hardConstraints).isLE = true := by
    intro start same
    change ((plannedState features config snapshot triggers).hardConstraints.cmp _).isLE = true
    rw [same]
    exact optimizeState_hardConstraints_le features snapshot config start true
  refine ⟨fun plain => ?_, fun greedy => ?_⟩
  · rw [plain] at planned
    exact descends built planned
  · rw [greedy] at planned
    have belowSeed : (final.cmp seed).isLE = true := descends _ planned
    exact ⟨belowSeed, PlannerHardConstraints.cmp_isLE_trans belowSeed⟩

/-! ## A crowd that leaves at once

Four threads at home in a domain whose live bandwidth is far over capacity. The
greedy seed sends all four to the idle domain, where one arrival is the budget;
no single move back clears the violation. -/

def crowdedTopology : TopologyLayout where
  nrCpuIds := 8
  domains := [{ domainId := 0, cpus := [0, 1, 2, 3] }, { domainId := 1, cpus := [4, 5, 6, 7] }]
  cpuToDomain := [some 0, some 0, some 0, some 0, some 1, some 1, some 1, some 1]

def crowdedMapping : MappingInfo where
  domainToCcx := [0, 1]
  domainToCcm := [some 0, some 1]
  domainToDfCapacityMibSX100 := []
  csLinkCapacityMibSX100 := []
  eligibleDomains := .ofList [0, 1]
  excludedDomains := ∅
  eligibleCpus := .ofList [0, 1, 2, 3, 4, 5, 6, 7]

def crowdThread (tid : Nat) : ManagedThreadState where
  tid := tid
  tgid := tid
  lastObservedDomain := some 0
  signature := { valid := true, stable := true, projectedDfPressureX100 := 500000 }

def crowdedInput : PlannerInput where
  topo := crowdedTopology
  mapping := crowdedMapping
  policy := samplePolicy
  nowNs := 1000
  latestDfSweepEpoch := 1
  pendingTids := .ofList [1, 2, 3, 4]
  threads := .ofList ([1, 2, 3, 4].map fun tid => (tid, crowdThread tid))
  allowedCpus := .ofList ([1, 2, 3, 4].map fun tid => (tid, TreeSet.ofList [0, 1, 2, 3, 4, 5, 6, 7]))
  allowedDomains := .ofList ([1, 2, 3, 4].map fun tid => (tid, TreeSet.ofList [0, 1]))
  llcStates := []
  dfStates := [some { sampleTsNs := 1000, valid := 1, rawReadBwMibSX100 := 9000000 }, none]
  previousPlan := none

theorem crowdedInput_worse_than_home :
    ¬ ∀ (features : BuildFeatures) (config : PlannerConfig) (snapshot : PlannerInput)
        (triggers : List PlannerTrigger),
      (modeAndState features config snapshot triggers).1.isGlobal = true →
      ((plannedState features config snapshot triggers).hardConstraints.cmp
        (buildState features config snapshot .global).atHome.hardConstraints).isLE = true := by
  intro claim
  have ordered := claim ⟨true⟩ sampleConfig crowdedInput [] rfl
  have worse : ((plannedState ⟨true⟩ sampleConfig crowdedInput []).hardConstraints.cmp
      (buildState ⟨true⟩ sampleConfig crowdedInput .global).atHome.hardConstraints).isLE = false := by
    decide +kernel
  rw [worse] at ordered
  cases ordered

theorem plannedState_hardConstraints_le_crowded :
    ((plannedState ⟨false⟩ sampleConfig crowdedInput []).hardConstraints.cmp
      (buildState ⟨false⟩ sampleConfig crowdedInput .global).atHome.hardConstraints).isLE = true ∧
    ((plannedState ⟨true⟩ sampleConfig crowdedInput []).hardConstraints.cmp
      (applyPaperGreedySeed crowdedInput (buildState ⟨true⟩ sampleConfig crowdedInput .global)
        true).hardConstraints).isLE = true :=
  ⟨(plannedState_hardConstraints_le ⟨false⟩ sampleConfig crowdedInput [] rfl).1 rfl,
    ((plannedState_hardConstraints_le ⟨true⟩ sampleConfig crowdedInput [] rfl).2 rfl).1⟩

end CSwitch.Planner
