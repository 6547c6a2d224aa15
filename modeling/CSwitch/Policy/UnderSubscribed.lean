import CSwitch.Policy.MoveConditions

/-! Tasks between two domains below their DF capacities. They are meant to stay
unless a slot is gained or a busy CPU is left for an idle one. The guard that
keeps them looks at the bandwidth predicted after the move as well, so a move
that itself overloads its destination is not held back by it. -/

set_option autoImplicit false

namespace CSwitch.Policy

open Std (TreeSet)
open Library

namespace PlacementContext

section

variable (ctx : PlacementContext)

def liveDfX100 (domain : Nat) : Nat := ((ctx.freshDf domain).map (·.bwX100)).getD 0

/-- The live bandwidth of the current domain and of another is within capacity. -/
def UnderSubscribed (domain : Nat) : Prop :=
  ctx.liveSourceDfX100 ≤ ctx.sourceDfCapacityMibSX100 ∧
    ctx.liveDfX100 domain ≤ ctx.mapping.dfCapacityMibSX100 domain

def destinationTaskCount (domain : Nat) : Nat := (ctx.plannedStates[domain]?.map (·.taskCount)).getD 0

/-- The slot constraint of the current domain together with another. -/
def pairSlots (domain sourceCount destinationCount : Nat) : SlotCapacityConstraint :=
  (ctx.sourceSlotConstraint sourceCount).combine
    (ctx.destinationSlotConstraint domain destinationCount)

def SlotsImprove (domain : Nat) : Prop :=
  ((ctx.pairSlots domain (ctx.sourceTaskCount - 1) (satAdd32 (ctx.destinationTaskCount domain) 1)).cmp
    (ctx.pairSlots domain ctx.sourceTaskCount (ctx.destinationTaskCount domain))).isLT = true

/-- The task would stay on a busy CPU of a domain without an idle one, and goes
to an idle CPU. -/
def LeavesBusyDomain (cpu : Nat) : Prop :=
  ctx.staySelectedCpuIdle = false ∧ ctx.idleCpu cpu = true ∧ ctx.currentDomainHasIdleCpu = false

/-- The bandwidth of the task still fits into the destination. -/
def FitsDestination (domain : Nat) : Prop :=
  satAdd32 (ctx.liveDfX100 domain) (taskSignatureEffect ctx.task ctx.thread
    (ctx.mapping.dfCapacityMibSX100 domain)).dfX100 ≤ ctx.mapping.dfCapacityMibSX100 domain

/-- The guard on moves that gain nothing but soft costs, as the scan asks it. -/
def softOnlyBlocks (view : CandidateView) : Bool :=
  underSubscribedSoftOnlyMoveBlocked view.baselineCost view.candidate.cost
    view.baselineCost.totalOverloadX100 view.candidate.cost.totalOverloadX100
    ctx.cpuImprovementRequiresCrossDomainMove

/-- No earlier exit of the policy is taken. -/
structure ScanReached : Prop where
  calm : ctx.idleSpread = none
  known : ctx.currentExcluded = false
  settled : ctx.inSettleWindow = false
  warm : ctx.threadClass ≠ .cold
  signed : ctx.signatureValid = true
  measured : ctx.currentSourceSignatureDfX100 ≠ 0
  budget : ctx.sourceBudgetExhausted = false

/-- The scan brings the candidate of a domain before that guard. -/
structure GuardAsked (domain : Nat) (view : CandidateView) : Prop where
  listed : domain ∈ ctx.mapping.eligibleDomains
  other : some domain ≠ ctx.currentDomain
  spare : ctx.destinationBudgetExhausted domain = false
  evaluated : ∃ df llc cpu, ctx.freshDf domain = some df ∧ ctx.freshLlc domain = some llc ∧
    ctx.chooseIn domain ctx.allowedEligible = some cpu ∧ view = ctx.evalCandidate domain df llc cpu
  forward : ctx.reverseBlocks view = false

/-- Every under-subscribed candidate has room for the bandwidth of the task. -/
def CandidatesFit : Prop :=
  ctx.ScanReached → ∀ domain view, ctx.GuardAsked domain view → ctx.UnderSubscribed domain →
    ctx.FitsDestination domain

end

variable {ctx : PlacementContext}

theorem cpuSelectionSoftCost_lt {selected baseline : Bool} :
    cpuSelectionSoftCost selected < cpuSelectionSoftCost baseline ↔
      selected = true ∧ baseline = false := by
  cases selected with
  | true => cases baseline <;> decide
  | false => cases baseline <;> decide

/-- Between under-subscribed domains the guard lets a fitting task pass only for
a slot or for a CPU. -/
theorem AdmittedAt.gains {domain : Nat} {view : CandidateView} {df : CcmDfStateValue}
    {llc : LlcStateValue} {cpu : Nat} (admitted : AdmittedAt ctx domain view df llc cpu)
    (known : ctx.currentExcluded = false) (calm : ctx.UnderSubscribed domain)
    (fits : ctx.FitsDestination domain) : ctx.SlotsImprove domain ∨ ctx.LeavesBusyDomain cpu := by
  have open' := (guardVerdict_admitted known admitted.guarded).1
  have live : ctx.liveDfX100 domain = df.bwX100 := by
    rw [liveDfX100, admitted.freshDf]
    rfl
  obtain ⟨sourceCalm, destinationCalm⟩ := calm
  unfold FitsDestination at fits
  rw [live] at destinationCalm fits
  have baseline : view.baselineCost.totalOverloadX100 = 0 := by
    rw [admitted.evaluated]
    unfold evalCandidate overloadX100WithCapacity
    dsimp only
    rw [Nat.sub_eq_zero_of_le sourceCalm, Nat.sub_eq_zero_of_le destinationCalm]
    rfl
  have predicted : view.candidate.cost.totalOverloadX100 = 0 := by
    have shrinks : ctx.predictedSourceLiveDfX100 ≤ ctx.sourceDfCapacityMibSX100 :=
      (Nat.sub_le _ _).trans sourceCalm
    rw [admitted.evaluated]
    unfold evalCandidate overloadX100WithCapacity
    dsimp only
    rw [Nat.sub_eq_zero_of_le shrinks, Nat.sub_eq_zero_of_le fits]
    rfl
  unfold underSubscribedSoftOnlyMoveBlocked at open'
  dsimp only at open'
  rw [baseline, predicted] at open'
  simp only [beq_self_eq_true, Bool.true_and, Bool.and_eq_false_iff, Bool.or_eq_false_iff,
    Bool.not_eq_false', decide_eq_true_eq] at open'
  rcases open' with slots | ⟨cheaper, required⟩
  · refine .inl ?_
    rw [admitted.evaluated] at slots
    exact Ordering.isLT_iff_eq_lt.mpr (Ordering.isGE_eq_false.mp slots)
  · refine .inr ?_
    rw [admitted.evaluated] at cheaper
    obtain ⟨idle, busy⟩ := cpuSelectionSoftCost_lt.mp cheaper
    unfold cpuImprovementRequiresCrossDomainMove at required
    simp only [Bool.and_eq_true, Bool.not_eq_true'] at required
    exact ⟨busy, idle, required.1⟩

theorem evalCandidate_place (domain : Nat) (df : CcmDfStateValue) (llc : LlcStateValue)
    (cpu : Nat) : (ctx.evalCandidate domain df llc cpu).candidate.domain = domain ∧
      (ctx.evalCandidate domain df llc cpu).candidate.cpu = cpu :=
  ⟨rfl, rfl⟩

/-- A candidate that the task overloads is not held back, whatever it gains. -/
theorem GuardAsked.passes {domain : Nat} {view : CandidateView}
    (asked : ctx.GuardAsked domain view) (full : ¬ ctx.FitsDestination domain) :
    ctx.softOnlyBlocks view = false := by
  obtain ⟨df, llc, cpu, fresh, _, _, rfl⟩ := asked.evaluated
  have live : ctx.liveDfX100 domain = df.bwX100 := by
    rw [liveDfX100, fresh]
    rfl
  unfold FitsDestination at full
  rw [live] at full
  have predicted : (ctx.evalCandidate domain df llc cpu).candidate.cost.totalOverloadX100 ≠ 0 := by
    unfold evalCandidate overloadX100WithCapacity satAdd32
    unfold satAdd32 at full
    dsimp only
    have positive : 0 < u32Max := by decide
    omega
  unfold softOnlyBlocks underSubscribedSoftOnlyMoveBlocked
  rw [beq_eq_false_iff_ne.mpr predicted]
  simp

/-- An admitted candidate was brought before the guard. -/
theorem admittedView_asked (known : ctx.currentExcluded = false) {domain : Nat}
    {view : CandidateView} (listed : domain ∈ ctx.mapping.eligibleDomains)
    (found : ctx.admittedView domain = some view) : ctx.GuardAsked domain view := by
  obtain ⟨df, llc, cpu, admitted⟩ := admittedView_some found
  have here := found
  unfold admittedView at here
  rw [admitted.freshDf, admitted.freshLlc, admitted.chosen, known] at here
  simp only [Option.bind_eq_bind, Option.bind_some, Bool.not_false, Bool.true_and, beq_iff_eq]
    at here
  split at here
  · cases here
  next other =>
    split at here
    · cases here
    next spare =>
      refine ⟨listed, other, by simpa using spare, ?_, ?_⟩
      · exact ⟨df, llc, cpu, admitted.freshDf, admitted.freshLlc, admitted.chosen,
          admitted.evaluated⟩
      · have guarded := admitted.guarded
        unfold guardVerdict at guarded
        rw [known] at guarded
        dsimp only at guarded
        rw [if_neg Bool.false_ne_true] at guarded
        split at guarded
        · cases guarded
        next forward => simpa using forward

theorem MoveTaken.scanReached {view : CandidateView} (taken : MoveTaken ctx view) :
    ctx.ScanReached :=
  ⟨taken.calm, taken.known, taken.settled, taken.warm, taken.signed, taken.measured, taken.budget⟩

/-- Without a competitor a candidate that clears the margin is taken. -/
theorem ScanReached.taken (reached : ctx.ScanReached) {view : CandidateView}
    (alone : ctx.admittedViews = [view])
    (margin : view.candidate.cost.clearsMarginAgainst view.baselineCost ctx.migrateMarginX100 =
      true) : MoveTaken ctx view where
  calm := reached.calm
  known := reached.known
  settled := reached.settled
  warm := reached.warm
  signed := reached.signed
  measured := reached.measured
  budget := reached.budget
  admitted := by simp [alone]
  cheapest := ⟨[], [], by simp [alone], by simp, by simp⟩
  margin := margin

/-- What is meant for flows between under-subscribed domains: they move for a
slot or for a CPU. -/
def UnderSubscribedStays (ctx : PlacementContext) : Prop :=
  ∀ current domain cpu, ctx.currentDomain = some current → ctx.currentExcluded = false →
    (choosePlacementWithPlannedCpus ctx).reason = .moveCoolerDomain →
    (choosePlacementWithPlannedCpus ctx).selectedDomain = some domain →
    (choosePlacementWithPlannedCpus ctx).selectedCpu = some cpu →
    ctx.UnderSubscribed domain → ctx.SlotsImprove domain ∨ ctx.LeavesBusyDomain cpu

/-- It holds of a move that fits its destination, or that gains what is meant. -/
theorem underSubscribedStays_iff :
    UnderSubscribedStays ctx ↔
      ∀ view, MoveTaken ctx view → ctx.UnderSubscribed view.candidate.domain →
        ctx.FitsDestination view.candidate.domain ∨ ctx.SlotsImprove view.candidate.domain ∨
          ctx.LeavesBusyDomain view.candidate.cpu := by
  constructor
  · intro stays view taken calm
    obtain ⟨reason, selectedDomain, selectedCpu⟩ := taken.decision
    cases here : ctx.currentDomain with
    | none =>
        have known := taken.known
        unfold currentExcluded at known
        rw [here] at known
        cases known
    | some current =>
        exact .inr (stays current _ _ here taken.known reason selectedDomain selectedCpu calm)
  · intro holds current domain cpu _ known moved selectedDomain selectedCpu calm
    obtain ⟨view, taken⟩ := moveTaken_of_reason moved
    obtain ⟨_, takenDomain, takenCpu⟩ := taken.decision
    obtain rfl := Option.some.inj (selectedDomain.symm.trans takenDomain)
    obtain rfl := Option.some.inj (selectedCpu.symm.trans takenCpu)
    rcases holds view taken calm with fits | gain
    · obtain ⟨domain, _, found⟩ := mem_admittedViews.mp taken.admitted
      obtain ⟨df, llc, cpu, admitted⟩ := admittedView_some found
      have place := @evalCandidate_place ctx domain df llc cpu
      rw [← admitted.evaluated] at place
      rw [place.1] at calm fits ⊢
      rw [place.2]
      exact admitted.gains known calm fits
    · exact gain

/-- It holds when every under-subscribed candidate has room for the task. One that has
not always gets past the guard, and is taken without a gain when it has no competitor. -/
theorem underSubscribedStays_of_fits (ctx : PlacementContext) :
    (ctx.CandidatesFit → UnderSubscribedStays ctx) ∧
    (∀ domain view, ctx.GuardAsked domain view → ¬ ctx.FitsDestination domain →
      ctx.softOnlyBlocks view = false) ∧
    ∀ view, ctx.ScanReached → ctx.admittedViews = [view] →
      view.candidate.cost.clearsMarginAgainst view.baselineCost ctx.migrateMarginX100 = true →
      ctx.UnderSubscribed view.candidate.domain → ¬ ctx.FitsDestination view.candidate.domain →
      ¬ ctx.SlotsImprove view.candidate.domain → ¬ ctx.LeavesBusyDomain view.candidate.cpu →
        ¬ UnderSubscribedStays ctx := by
  refine ⟨?_, ?_, ?_⟩
  · intro fit
    rw [underSubscribedStays_iff]
    intro view taken calm
    obtain ⟨domain, listed, found⟩ := mem_admittedViews.mp taken.admitted
    have asked := admittedView_asked taken.known listed found
    obtain ⟨df, llc, cpu, _, _, _, rfl⟩ := asked.evaluated
    exact .inl (fit taken.scanReached domain _ asked calm)
  · intro domain view asked full
    exact asked.passes full
  · intro view reached alone margin calm full slots busy stays
    have taken := reached.taken alone margin
    rcases underSubscribedStays_iff.mp stays view taken calm with fits | gains | leaves
    · exact full fits
    · exact slots gains
    · exact busy leaves

end PlacementContext

/-- Two domains of two CPUs. The source carries two flows of half its live
bandwidth each; the destination is busy with traffic that no signature explains. -/
def balanceContext : PlacementContext where
  task := { tid := 1001, tgid := 1000, currentCpu := 0, currentDomain := 0, enqCnt := 6,
            ewmaL2BwMibSX100 := 900000 }
  thread := some
    { signature :=
        { valid := true, stable := true, projectedDfPressureX100 := 900000
          projectedLlcPressureX100 := 1500 } }
  topo :=
    { nrCpuIds := 4, domains := [⟨0, 0, 0, [0, 1]⟩, ⟨1, 0, 2, [2, 3]⟩]
      cpuToDomain := [some 0, some 0, some 1, some 1] }
  mapping :=
    { domainToCcx := [0, 1], domainToCcm := [none, none], domainToDfCapacityMibSX100 := []
      csLinkCapacityMibSX100 := [], eligibleDomains := .ofList [0, 1], excludedDomains := ∅
      eligibleCpus := .ofList [0, 1, 2, 3] }
  plannedStates :=
    [{ dfPressureX100 := 1800000, contributorCount := 1, taskCount := 2, migrationBudget := 4 },
     { dfPressureX100 := 100000, contributorCount := 1, migrationBudget := 4 }]
  llcStates := [some { sampleTsNs := 1000, valid := 1 }, some { sampleTsNs := 1000, valid := 1 }]
  dfStates :=
    [some { sampleTsNs := 1000, valid := 1, rawReadBwMibSX100 := 1800000 },
     some { sampleTsNs := 1000, valid := 1, rawReadBwMibSX100 := 1200000 }]
  cpuStates := [{ currentTid := 1001 }, { idle := 1 }, { idle := 1 }, { idle := 1 }]
  cpuUtilsX100 := [1000, 500, 100, 100]
  plannedCpuStates := [{}, {}, {}, {}]
  allowedCpus := .ofList [0, 1, 2, 3]
  nowNs := 2000
  cfg :=
    { l2NeedMibSX100 := 51200, migrateMarginX100 := 0, cpuHighUtilX100 := 8500
      cpuRebalanceJobDelta := 2, stallVictimMinPctX100 := 5000, stallVictimDeltaPctX100 := 1500
      llcStaleMs := 100, dfStaleMs := 100, migrateSettleMs := 80, signatureSnapshots := true
      csVillainThrottle := true, tickReevalEvery := 1, tickDeferMax := 1
      csVillainResliceNs := 1000000, csVillainRefillDivisor := 4, csVillainSettleNs := 20000000
      csVillainReleaseSamples := 2, tickMovePhaseMod := 1 }

/-- A flow leaves for balance alone, and overloads where it goes. -/
theorem not_underSubscribedStays_balance :
    ¬ balanceContext.UnderSubscribedStays := by
  intro stays
  have moved : (choosePlacementWithPlannedCpus balanceContext).reason = .moveCoolerDomain ∧
      (choosePlacementWithPlannedCpus balanceContext).selectedDomain = some 1 ∧
      (choosePlacementWithPlannedCpus balanceContext).selectedCpu = some 2 := by
    decide +kernel
  have calm : balanceContext.UnderSubscribed 1 := ⟨by decide +kernel, by decide +kernel⟩
  rcases stays 0 1 2 rfl (by decide +kernel) moved.1 moved.2.1 moved.2.2 calm with
    slots | ⟨_, _, busy⟩
  · unfold PlacementContext.SlotsImprove at slots
    exact absurd slots (by decide +kernel)
  · exact absurd busy (by decide +kernel)

/-- The same flows with little traffic at the destination. -/
def roomyContext : PlacementContext :=
  { balanceContext with
    dfStates :=
      [some { sampleTsNs := 1000, valid := 1, rawReadBwMibSX100 := 1800000 },
       some { sampleTsNs := 1000, valid := 1, rawReadBwMibSX100 := 100000 }] }

theorem underSubscribedStays_of_fits_roomy :
    roomyContext.UnderSubscribedStays ∧ ¬ balanceContext.UnderSubscribedStays := by
  constructor
  · refine (PlacementContext.underSubscribedStays_of_fits roomyContext).1 ?_
    intro _ domain view asked _
    have listed : domain ∈ Std.TreeSet.ofList [0, 1] := asked.listed
    rw [Std.TreeSet.mem_ofList] at listed
    have domains : domain = 0 ∨ domain = 1 := by simpa using listed
    cases domains with
    | inl current => exact absurd (by rw [current]; rfl) asked.other
    | inr destination =>
        rw [destination]
        unfold PlacementContext.FitsDestination
        decide +kernel
  · have one : balanceContext.admittedViews.length = 1 := by decide +kernel
    obtain ⟨view, alone⟩ := List.length_eq_one_iff.mp one
    have seen : ∀ view ∈ balanceContext.admittedViews, view.candidate.domain = 1 ∧
        view.candidate.cpu = 2 ∧ view.candidate.cost.clearsMarginAgainst view.baselineCost
          balanceContext.migrateMarginX100 = true := by
      decide +kernel
    obtain ⟨domain, cpu, margin⟩ := seen view (by simp [alone])
    have calm : balanceContext.UnderSubscribed 1 := ⟨by decide +kernel, by decide +kernel⟩
    have full : ¬ balanceContext.FitsDestination 1 := by
      unfold PlacementContext.FitsDestination
      decide +kernel
    have slots : ¬ balanceContext.SlotsImprove 1 := by
      unfold PlacementContext.SlotsImprove
      decide +kernel
    have busy : ¬ balanceContext.LeavesBusyDomain 2 := by
      intro leaves
      exact absurd leaves.2.2 (by decide +kernel)
    have reached : balanceContext.ScanReached :=
      ⟨by decide +kernel, by decide +kernel, by decide +kernel, by decide +kernel,
        by decide +kernel, by decide +kernel, by decide +kernel⟩
    refine (PlacementContext.underSubscribedStays_of_fits balanceContext).2.2 view reached alone
      margin ?_ ?_ ?_ ?_
    · rwa [domain]
    · rwa [domain]
    · rwa [domain]
    · rwa [cpu]

end CSwitch.Policy
