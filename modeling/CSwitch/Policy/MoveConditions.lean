import CSwitch.Library.FirstBest
import CSwitch.Policy.CandidateOrder
import CSwitch.Policy.PipelineProperties

/-! Exactly when the fallback policy moves a task to a cooler domain, and where:
no earlier exit is taken, and the cheapest admitted candidate clears the margin. -/

set_option autoImplicit false

namespace CSwitch.Policy

open Library

namespace PlacementContext

variable {ctx : PlacementContext}

/-- The candidate of a domain, when it passes every filter and guard of the scan. -/
def admittedView (ctx : PlacementContext) (domain : Nat) : Option CandidateView := do
  let df ← ctx.freshDf domain
  let llc ← ctx.freshLlc domain
  let cpu ← ctx.chooseIn domain ctx.allowedEligible
  if !ctx.currentExcluded && some domain == ctx.currentDomain then none
  else if !ctx.currentExcluded && ctx.destinationBudgetExhausted domain then none
  else if ctx.guardVerdict (ctx.evalCandidate domain df llc cpu) = .admitted then
    some (ctx.evalCandidate domain df llc cpu)
  else none

/-- The admitted candidates in the order of the scan. -/
def admittedViews (ctx : PlacementContext) : List CandidateView :=
  ctx.mapping.eligibleDomains.toList.filterMap ctx.admittedView

theorem noteCandidate_eq_keepBetter (scan : CandidateScan) (candidate : CandidateEval) :
    (scan.noteCandidate candidate).best = keepBetter CandidateEval.cmp scan.best candidate := by
  unfold CandidateScan.noteCandidate keepBetter
  cases found : scan.best with
  | none => rfl
  | some best =>
      simp only [Option.map_some, Option.getD_some, CandidateEval.isBetterThan_eq]
      split
      · rfl
      · exact found

theorem note_best_of_not_admitted {state : ScanState} {candidate : CandidateEval}
    {verdict : GuardVerdict} (blocked : verdict ≠ .admitted) :
    (state.note candidate verdict).scan.best = state.scan.best := by
  rcases note_best state candidate verdict with kept | ⟨admitted, _⟩
  · exact kept
  · exact absurd admitted blocked

/-- One domain of the scan: an admitted candidate is kept when it is better. -/
theorem scanDomain_best_eq (state : ScanState) (domain : Nat) :
    (ctx.scanDomain state domain).scan.best =
      match ctx.admittedView domain with
      | none => state.scan.best
      | some view => keepBetter CandidateEval.cmp state.scan.best view.candidate := by
  unfold scanDomain admittedView
  cases ctx.freshDf domain with
  | none => rfl
  | some df =>
      cases ctx.freshLlc domain with
      | none => rfl
      | some llc =>
          cases ctx.chooseIn domain ctx.allowedEligible with
          | none => rfl
          | some cpu =>
              dsimp only [Option.bind_eq_bind, Option.bind_some]
              split
              · rfl
              · split
                · rfl
                · by_cases verdict : ctx.guardVerdict (ctx.evalCandidate domain df llc cpu) = .admitted
                  · rw [if_pos verdict, verdict]
                    dsimp only [ScanState.note]
                    rw [noteCandidate_eq_keepBetter, observe_best]
                  · rw [if_neg verdict, note_best_of_not_admitted verdict, observe_best]

theorem scanDomains_best_eq :
    ctx.scanDomains.scan.best =
      (ctx.admittedViews.map (·.candidate)).foldl (keepBetter CandidateEval.cmp) none := by
  have folded : ∀ (domains : List Nat) (state : ScanState),
      (domains.foldl ctx.scanDomain state).scan.best =
        ((domains.filterMap ctx.admittedView).map (·.candidate)).foldl
          (keepBetter CandidateEval.cmp) state.scan.best := by
    intro domains
    induction domains with
    | nil => intro state; rfl
    | cons domain rest ih =>
        intro state
        rw [List.foldl_cons, ih, scanDomain_best_eq]
        cases admitted : ctx.admittedView domain with
        | none => rw [List.filterMap_cons_none admitted]
        | some view => rw [List.filterMap_cons_some admitted, List.map_cons, List.foldl_cons]
  exact folded _ _

/-- What an admitted candidate has passed. -/
structure AdmittedAt (ctx : PlacementContext) (domain : Nat) (view : CandidateView)
    (df : CcmDfStateValue) (llc : LlcStateValue) (cpu : Nat) : Prop where
  freshDf : ctx.freshDf domain = some df
  freshLlc : ctx.freshLlc domain = some llc
  chosen : ctx.chooseIn domain ctx.allowedEligible = some cpu
  evaluated : view = ctx.evalCandidate domain df llc cpu
  guarded : ctx.guardVerdict view = .admitted

theorem admittedView_some {domain : Nat} {view : CandidateView}
    (admitted : ctx.admittedView domain = some view) :
    ∃ df llc cpu, AdmittedAt ctx domain view df llc cpu := by
  unfold admittedView at admitted
  obtain ⟨df, freshDf, admitted⟩ := Option.bind_eq_some_iff.mp admitted
  obtain ⟨llc, freshLlc, admitted⟩ := Option.bind_eq_some_iff.mp admitted
  obtain ⟨cpu, chosen, admitted⟩ := Option.bind_eq_some_iff.mp admitted
  split at admitted
  · cases admitted
  · split at admitted
    · cases admitted
    · split at admitted
      next verdict =>
        obtain rfl := Option.some.inj admitted
        exact ⟨df, llc, cpu, freshDf, freshLlc, chosen, rfl, verdict⟩
      · cases admitted

theorem mem_admittedViews {view : CandidateView} :
    view ∈ ctx.admittedViews ↔
      ∃ domain ∈ ctx.mapping.eligibleDomains, ctx.admittedView domain = some view := by
  unfold admittedViews
  simp only [List.mem_filterMap, Std.TreeSet.mem_toList]

/-! ## The second look at the costs -/

/-- The cost re-read after the scan is the cost that the scan compared with. -/
theorem AdmittedAt.rebaselineCost {domain : Nat} {view : CandidateView} {df : CcmDfStateValue}
    {llc : LlcStateValue} {cpu : Nat} (admitted : AdmittedAt ctx domain view df llc cpu)
    (known : ctx.currentExcluded = false) :
    ctx.rebaselineCost view.candidate = view.baselineCost := by
  have live : ctx.bestDestinationLiveDfX100 view.candidate = df.bwX100 := by
    rw [admitted.evaluated]
    unfold bestDestinationLiveDfX100 evalCandidate
    rw [admitted.freshDf]
    rfl
  unfold PlacementContext.rebaselineCost
  rw [live, admitted.evaluated]
  unfold evalCandidate
  simp only [known, Bool.false_eq_true, if_false]

theorem guardVerdict_admitted {view : CandidateView} (known : ctx.currentExcluded = false)
    (admitted : ctx.guardVerdict view = .admitted) :
    underSubscribedSoftOnlyMoveBlocked view.baselineCost view.candidate.cost
        view.baselineCost.totalOverloadX100 view.candidate.cost.totalOverloadX100
        ctx.cpuImprovementRequiresCrossDomainMove = false ∧
      view.candidate.cost.isBetterThan view.baselineCost = true := by
  unfold guardVerdict at admitted
  dsimp only at admitted
  rw [known, if_neg (by simp)] at admitted
  split at admitted
  · cases admitted
  · split at admitted
    · cases admitted
    next subscribed =>
      split at admitted
      · cases admitted
      · split at admitted
        · cases admitted
        next better =>
          exact ⟨by simpa using subscribed, by simpa using better⟩

/-- An admitted candidate beats its stay, so that the margin alone decides on it. -/
theorem AdmittedAt.moveOrStay {domain : Nat} {view : CandidateView} {df : CcmDfStateValue}
    {llc : LlcStateValue} {cpu : Nat} (admitted : AdmittedAt ctx domain view df llc cpu)
    (known : ctx.currentExcluded = false) (debug : PlacementDebugInfo) :
    ctx.moveOrStay debug view.candidate =
      let figures := ctx.bestFigures view.candidate (taskSignatureEffect ctx.task ctx.thread
        (ctx.mapping.dfCapacityMibSX100 view.candidate.domain)).dfX100
      if view.candidate.cost.clearsMarginAgainst view.baselineCost ctx.migrateMarginX100 then
        ctx.decide (some view.candidate.domain) (some view.candidate.cpu) .moveCoolerDomain
          ctx.moveTickDecision (view.baselineCost.totalCost - view.candidate.cost.totalCost)
          defaultSliceNs ctx.movedFigures figures (ctx.bestDebug debug view.candidate)
      else
        ctx.stay .marginNotMet ctx.stayTickDecision defaultSliceNs ctx.movedFigures figures
          (ctx.bestDebug debug view.candidate) := by
  unfold PlacementContext.moveOrStay
  rw [admitted.rebaselineCost known]
  dsimp only
  rw [(guardVerdict_admitted known admitted.guarded).2]
  cases view.candidate.cost.clearsMarginAgainst view.baselineCost ctx.migrateMarginX100 with
  | true => rfl
  | false => rfl

/-! ## The move -/

/-- The policy moves the task to the candidate of this view. -/
structure MoveTaken (ctx : PlacementContext) (view : CandidateView) : Prop where
  calm : ctx.idleSpread = none
  known : ctx.currentExcluded = false
  settled : ctx.inSettleWindow = false
  warm : ctx.threadClass ≠ .cold
  signed : ctx.signatureValid = true
  measured : ctx.currentSourceSignatureDfX100 ≠ 0
  budget : ctx.sourceBudgetExhausted = false
  admitted : view ∈ ctx.admittedViews
  cheapest : FirstBest CandidateEval.cmp (ctx.admittedViews.map (·.candidate)) view.candidate
  margin : view.candidate.cost.clearsMarginAgainst view.baselineCost ctx.migrateMarginX100 = true

theorem MoveTaken.best {view : CandidateView} (taken : MoveTaken ctx view) :
    ctx.scanDomains.scan.best = some view.candidate := by
  rw [scanDomains_best_eq]
  exact foldl_keepBetter_iff.mpr taken.cheapest

theorem MoveTaken.decision {view : CandidateView} (taken : MoveTaken ctx view) :
    (choosePlacementWithPlannedCpus ctx).reason = .moveCoolerDomain ∧
      (choosePlacementWithPlannedCpus ctx).selectedDomain = some view.candidate.domain ∧
      (choosePlacementWithPlannedCpus ctx).selectedCpu = some view.candidate.cpu := by
  obtain ⟨domain, _, found⟩ := mem_admittedViews.mp taken.admitted
  obtain ⟨df, llc, cpu, admitted⟩ := admittedView_some found
  have scanned : choosePlacementWithPlannedCpus ctx = ctx.scanDecision := by
    unfold choosePlacementWithPlannedCpus
    rw [taken.calm]
    simp [taken.known, taken.settled, taken.warm, taken.signed, taken.measured, taken.budget]
  have moved : ∀ debug, (ctx.moveOrStay debug view.candidate).reason = .moveCoolerDomain ∧
      (ctx.moveOrStay debug view.candidate).selectedDomain = some view.candidate.domain ∧
      (ctx.moveOrStay debug view.candidate).selectedCpu = some view.candidate.cpu := by
    intro debug
    rw [admitted.moveOrStay taken.known]
    dsimp only
    rw [if_pos taken.margin]
    exact ⟨rfl, rfl, rfl⟩
  rw [scanned]
  unfold scanDecision
  dsimp only
  rw [taken.best]
  simp only [taken.known, Bool.not_false, if_true]
  exact moved _

/-! ## What is left to the margin -/

/-- The exits of the policy, with what holds where the scan is reached. -/
inductive PolicyExit (ctx : PlacementContext) : PlacementDecision → Prop where
  | spread {domain cpu : Nat} : PolicyExit ctx (ctx.spreadDecision domain cpu)
  | early : PolicyExit ctx ctx.earlyStay
  | budget : PolicyExit ctx ctx.budgetStay
  | scan (calm : ctx.idleSpread = none)
      (settled : ctx.currentExcluded = false → ctx.inSettleWindow = false)
      (warm : ctx.currentExcluded = false → ctx.threadClass ≠ .cold)
      (signed : ctx.currentExcluded = false → ctx.signatureValid = true)
      (measured : ctx.currentExcluded = false → ctx.currentSourceSignatureDfX100 ≠ 0)
      (spare : ctx.sourceBudgetExhausted = false) : PolicyExit ctx ctx.scanDecision

theorem choosePlacement_exit (ctx : PlacementContext) :
    PolicyExit ctx (choosePlacementWithPlannedCpus ctx) := by
  unfold choosePlacementWithPlannedCpus
  split
  · exact .spread
  next calm =>
    split
    · exact .early
    next settled =>
      split
      · exact .early
      next warm =>
        split
        · exact .early
        next signed =>
          split
          · exact .budget
          next budget =>
            simp only [Bool.and_eq_true, Bool.not_eq_true', Bool.or_eq_true, beq_iff_eq, not_and,
              not_or, Bool.not_eq_true, Bool.not_eq_false] at settled warm signed budget
            exact .scan calm settled warm (fun known => (signed known).1)
              (fun known => (signed known).2) budget

/-- The scan was reached and has a cheapest candidate: the decision is left to
the margin of that candidate. -/
structure Weighed (ctx : PlacementContext) (view : CandidateView) : Prop where
  calm : ctx.idleSpread = none
  known : ctx.currentExcluded = false
  settled : ctx.inSettleWindow = false
  warm : ctx.threadClass ≠ .cold
  signed : ctx.signatureValid = true
  measured : ctx.currentSourceSignatureDfX100 ≠ 0
  budget : ctx.sourceBudgetExhausted = false
  admitted : view ∈ ctx.admittedViews
  cheapest : FirstBest CandidateEval.cmp (ctx.admittedViews.map (·.candidate)) view.candidate
  decision : ∃ debug, choosePlacementWithPlannedCpus ctx = ctx.moveOrStay debug view.candidate

theorem noBestReason_ne_marginNotMet (stats : CandidateScanStats) :
    noBestReason stats ≠ .marginNotMet := by
  unfold noBestReason
  repeat' split
  all_goals exact DecisionReason.noConfusion

theorem weighed_of_reason
    (decided : (choosePlacementWithPlannedCpus ctx).reason = .moveCoolerDomain ∨
      (choosePlacementWithPlannedCpus ctx).reason = .marginNotMet) :
    ∃ view, Weighed ctx view := by
  have exit := choosePlacement_exit ctx
  generalize answered : choosePlacementWithPlannedCpus ctx = answer at decided exit
  cases exit with
  | spread => rcases decided with reason | reason <;> cases reason
  | early => rcases decided with reason | reason <;> cases reason
  | budget => rcases decided with reason | reason <;> cases reason
  | scan calm settled warm signed measured spare =>
      unfold scanDecision at answered decided
      dsimp only at answered decided
      split at decided
      · have stays := noBestReason_stays ctx.scanDomains.scan.stats
        rcases decided with reason | reason
        · have moves : noBestReason ctx.scanDomains.scan.stats = .moveCoolerDomain := reason
          rw [moves] at stays
          cases stays
        · exact absurd reason (noBestReason_ne_marginNotMet _)
      next best found =>
        rw [found] at answered
        dsimp only at answered
        cases known : ctx.currentExcluded with
        | true =>
            rw [known, if_neg (by simp)] at decided
            rcases decided with reason | reason <;> cases reason
        | false =>
            rw [known, if_pos (by simp)] at answered
            have first : FirstBest CandidateEval.cmp (ctx.admittedViews.map (·.candidate))
                best := by
              rw [scanDomains_best_eq] at found
              exact foldl_keepBetter_iff.mp found
            obtain ⟨view, listed, rfl⟩ := List.mem_map.mp first.mem
            exact ⟨view, calm, known, settled known, warm known, signed known, measured known,
              spare, listed, first, _, answered⟩

/-- The candidate beats the stay, so that the margin alone decides. -/
theorem Weighed.reason {view : CandidateView} (weighed : Weighed ctx view) :
    (choosePlacementWithPlannedCpus ctx).reason =
      if view.candidate.cost.clearsMarginAgainst view.baselineCost ctx.migrateMarginX100 then
        .moveCoolerDomain
      else .marginNotMet := by
  obtain ⟨debug, answered⟩ := weighed.decision
  obtain ⟨domain, _, admittedAt⟩ := mem_admittedViews.mp weighed.admitted
  obtain ⟨df, llc, cpu, admitted⟩ := admittedView_some admittedAt
  rw [answered, admitted.moveOrStay weighed.known]
  dsimp only
  split
  · rfl
  · rfl

/-- A move is one that the conditions describe. -/
theorem moveTaken_of_reason
    (moved : (choosePlacementWithPlannedCpus ctx).reason = .moveCoolerDomain) :
    ∃ view, MoveTaken ctx view := by
  obtain ⟨view, weighed⟩ := weighed_of_reason (.inl moved)
  rw [weighed.reason] at moved
  refine ⟨view, weighed.calm, weighed.known, weighed.settled, weighed.warm, weighed.signed,
    weighed.measured, weighed.budget, weighed.admitted, weighed.cheapest, ?_⟩
  split at moved
  next margin => exact margin
  · cases moved

end PlacementContext

end CSwitch.Policy
