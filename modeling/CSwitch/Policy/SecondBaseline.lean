import CSwitch.Policy.MigrationMargin

/-! The stay cost that the fallback policy assembles again after its scan is the
one the guards of the scan compared with, so the second comparison decides nothing. -/

set_option autoImplicit false

namespace CSwitch.Policy

open Library

namespace PlacementContext

variable {ctx : PlacementContext} {best : CandidateEval} {view : CandidateView}

/-- The view in which the scan met its best candidate. -/
structure ScannedBest (ctx : PlacementContext) (best : CandidateEval) (view : CandidateView) :
    Prop where
  eligible : best.domain ∈ ctx.mapping.eligibleDomains
  admitted : ∃ df llc cpu, AdmittedAt ctx best.domain view df llc cpu
  candidate : view.candidate = best

theorem AdmittedAt.domain_eq {domain : Nat} {df : CcmDfStateValue} {llc : LlcStateValue} {cpu : Nat}
    (admitted : AdmittedAt ctx domain view df llc cpu) : view.candidate.domain = domain := by
  rw [admitted.evaluated]
  rfl

theorem exists_scannedBest (found : ctx.scanDomains.scan.best = some best) :
    ∃ view ∈ ctx.admittedViews, ScannedBest ctx best view := by
  rw [scanDomains_best_eq] at found
  obtain ⟨view, listed, same⟩ := List.mem_map.mp (foldl_keepBetter_iff.mp found).mem
  obtain ⟨domain, eligible, admittedAt⟩ := mem_admittedViews.mp listed
  obtain ⟨df, llc, cpu, admitted⟩ := admittedView_some admittedAt
  have home : best.domain = domain := by
    rw [← same]
    exact admitted.domain_eq
  refine ⟨view, listed, ?_, ?_, same⟩
  · rw [home]
    exact eligible
  · rw [home]
    exact ⟨df, llc, cpu, admitted⟩

/-- What is stored of the candidate leads back to the inputs of the scan. -/
theorem ScannedBest.rebaselineCost (scanned : ScannedBest ctx best view)
    (known : ctx.currentExcluded = false) : ctx.rebaselineCost best = view.baselineCost := by
  obtain ⟨df, llc, cpu, admitted⟩ := scanned.admitted
  rw [← scanned.candidate]
  exact admitted.rebaselineCost known

theorem ScannedBest.liveDf (scanned : ScannedBest ctx best view) :
    ctx.bestDestinationLiveDfX100 best = view.destinationLiveDfX100 := by
  obtain ⟨df, llc, cpu, admitted⟩ := scanned.admitted
  unfold bestDestinationLiveDfX100
  rw [admitted.freshDf, admitted.evaluated]
  rfl

theorem ScannedBest.better (scanned : ScannedBest ctx best view)
    (known : ctx.currentExcluded = false) : best.cost.isBetterThan view.baselineCost = true := by
  obtain ⟨df, llc, cpu, admitted⟩ := scanned.admitted
  rw [← scanned.candidate]
  exact (guardVerdict_admitted known admitted.guarded).2

/-! ## The decision on the figures of the scan -/

/-- The debug figures with the stay cost of the guards. -/
def scanBaselineDebug (debug : PlacementDebugInfo) (view : CandidateView) : PlacementDebugInfo :=
  { debug with
    observedCandidateDomain := some view.candidate.domain
    observedCandidateCpu := some view.candidate.cpu
    observedDestinationLiveDfX100 := view.destinationLiveDfX100
    baselineTotalOverloadX100 := view.baselineCost.totalOverloadX100
    candidateTotalOverloadX100 := view.candidate.cost.totalOverloadX100
    baselineMaxOverloadX100 := view.baselineCost.maxOverloadX100
    candidateMaxOverloadX100 := view.candidate.cost.maxOverloadX100
    baselinePairPenalty := view.baselineCost.pairPenalty
    candidatePairPenalty := view.candidate.cost.pairPenalty
    baselineCombinedCost := view.baselineCost.totalCost
    candidateCombinedCost := view.candidate.cost.totalCost }

/-- The decision without a second baseline: the margin alone, against the stay
cost of the guards. -/
def decideOnScanBaseline (ctx : PlacementContext) (debug : PlacementDebugInfo)
    (view : CandidateView) : PlacementDecision :=
  let debug := scanBaselineDebug debug view
  let figures := ctx.bestFigures view.candidate (taskSignatureEffect ctx.task ctx.thread
    (ctx.mapping.dfCapacityMibSX100 view.candidate.domain)).dfX100
  if view.candidate.cost.clearsMarginAgainst view.baselineCost ctx.migrateMarginX100 then
    ctx.decide (some view.candidate.domain) (some view.candidate.cpu) .moveCoolerDomain
      ctx.moveTickDecision (view.baselineCost.totalCost - view.candidate.cost.totalCost)
      defaultSliceNs ctx.movedFigures figures debug
  else
    ctx.stay .marginNotMet ctx.stayTickDecision defaultSliceNs ctx.movedFigures figures debug

theorem decideOnScanBaseline_reason (ctx : PlacementContext) (debug : PlacementDebugInfo)
    (view : CandidateView) : (ctx.decideOnScanBaseline debug view).reason ≠ .stayCurrentDomain := by
  unfold decideOnScanBaseline
  dsimp only
  split
  · exact DecisionReason.noConfusion
  · exact DecisionReason.noConfusion

theorem decideOnScanBaseline_debug (ctx : PlacementContext) (debug : PlacementDebugInfo)
    (view : CandidateView) :
    (ctx.decideOnScanBaseline debug view).debug = scanBaselineDebug debug view := by
  unfold decideOnScanBaseline
  dsimp only
  split
  · rfl
  · rfl

theorem ScannedBest.bestDebug (scanned : ScannedBest ctx best view)
    (known : ctx.currentExcluded = false) (debug : PlacementDebugInfo) :
    ctx.bestDebug debug best = scanBaselineDebug debug view := by
  unfold PlacementContext.bestDebug scanBaselineDebug
  rw [scanned.rebaselineCost known, scanned.liveDf, scanned.candidate]

theorem ScannedBest.moveOrStay (scanned : ScannedBest ctx best view)
    (known : ctx.currentExcluded = false) (debug : PlacementDebugInfo) :
    ctx.moveOrStay debug best = ctx.decideOnScanBaseline debug view := by
  obtain ⟨df, llc, cpu, admitted⟩ := scanned.admitted
  have figures : ctx.bestDebug debug view.candidate = scanBaselineDebug debug view := by
    rw [scanned.candidate]
    exact scanned.bestDebug known debug
  unfold decideOnScanBaseline
  rw [← scanned.candidate, admitted.moveOrStay known, figures]

/-- The best candidate beats the baseline read again after the scan, which is the
baseline of its guards: the task stays only for an exit before the scan or for
the margin, on the figures that the guards used. -/
theorem second_baseline_is_first (known : ctx.currentExcluded = false)
    (found : ctx.scanDomains.scan.best = some best) :
    ∃ view ∈ ctx.admittedViews, ScannedBest ctx best view ∧
      ctx.rebaselineCost best = view.baselineCost ∧
      ctx.bestDestinationLiveDfX100 best = view.destinationLiveDfX100 ∧
      best.cost.isBetterThan (ctx.rebaselineCost best) = true ∧
      ctx.scanDecision = ctx.decideOnScanBaseline ctx.scanDomains.debug view ∧
      ctx.scanDecision.debug = scanBaselineDebug ctx.scanDomains.debug view ∧
      ctx.scanDecision.reason ≠ .stayCurrentDomain ∧
      ((choosePlacementWithPlannedCpus ctx).reason = .stayCurrentDomain →
        choosePlacementWithPlannedCpus ctx = ctx.earlyStay) := by
  obtain ⟨view, listed, scanned⟩ := exists_scannedBest found
  have decided : ctx.scanDecision = ctx.decideOnScanBaseline ctx.scanDomains.debug view := by
    unfold scanDecision
    dsimp only
    rw [found, known]
    exact scanned.moveOrStay known _
  have notStayed : ctx.scanDecision.reason ≠ .stayCurrentDomain := by
    rw [decided]
    exact decideOnScanBaseline_reason ctx _ view
  refine ⟨view, listed, scanned, scanned.rebaselineCost known, scanned.liveDf, ?better, decided,
    ?debug, notStayed, ?early⟩
  case better =>
    rw [scanned.rebaselineCost known]
    exact scanned.better known
  case debug =>
    rw [decided]
    exact decideOnScanBaseline_debug ctx _ view
  case early =>
    intro stayed
    have exit := choosePlacement_exit ctx
    generalize choosePlacementWithPlannedCpus ctx = answer at stayed exit
    cases exit with
    | spread => cases stayed
    | early => rfl
    | budget => cases stayed
    | scan => exact absurd stayed notStayed

end PlacementContext

theorem second_baseline_is_first_uncontested :
    ∃ best, uncontestedContext.scanDomains.scan.best = some best ∧
      ∃ view ∈ uncontestedContext.admittedViews,
        PlacementContext.ScannedBest uncontestedContext best view ∧
        uncontestedContext.rebaselineCost best = view.baselineCost ∧
        uncontestedContext.bestDestinationLiveDfX100 best = view.destinationLiveDfX100 ∧
        best.cost.isBetterThan (uncontestedContext.rebaselineCost best) = true ∧
        uncontestedContext.scanDecision =
          uncontestedContext.decideOnScanBaseline uncontestedContext.scanDomains.debug view ∧
        uncontestedContext.scanDecision.debug =
          PlacementContext.scanBaselineDebug uncontestedContext.scanDomains.debug view ∧
        uncontestedContext.scanDecision.reason ≠ .stayCurrentDomain ∧
        ((choosePlacementWithPlannedCpus uncontestedContext).reason = .stayCurrentDomain →
          choosePlacementWithPlannedCpus uncontestedContext = uncontestedContext.earlyStay) := by
  have scanned : uncontestedContext.scanDomains.scan.best.isSome = true := by decide +kernel
  obtain ⟨best, found⟩ := Option.isSome_iff_exists.mp scanned
  exact ⟨best, found, PlacementContext.second_baseline_is_first (by decide +kernel) found⟩

end CSwitch.Policy
