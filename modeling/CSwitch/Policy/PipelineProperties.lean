import CSwitch.Policy.Pipeline

/-! What the fallback policy can answer. The candidate scan is described by the
one predicate `Admits`, and the whole function by the four outcomes of
`PolicyOutcome`; later results case on these and never unfold the policy. -/

set_option autoImplicit false

namespace CSwitch.Policy

namespace PlacementContext

variable {ctx : PlacementContext}

/-- A candidate that passed every filter and guard of the scan. -/
structure Admits (ctx : PlacementContext) (candidate : CandidateEval) (df : CcmDfStateValue)
    (llc : LlcStateValue) : Prop where
  eligible : candidate.domain ∈ ctx.mapping.eligibleDomains
  freshDf : ctx.freshDf candidate.domain = some df
  freshLlc : ctx.freshLlc candidate.domain = some llc
  cpu : ctx.chooseIn candidate.domain ctx.allowedEligible = some candidate.cpu
  elsewhere : ctx.currentExcluded = false → ctx.currentDomain ≠ some candidate.domain
  budget : ctx.currentExcluded = false → ctx.destinationBudgetExhausted candidate.domain = false
  evaluated : candidate = (ctx.evalCandidate candidate.domain df llc candidate.cpu).candidate
  guarded : ctx.guardVerdict (ctx.evalCandidate candidate.domain df llc candidate.cpu) = .admitted

def Admitted (ctx : PlacementContext) (candidate : CandidateEval) : Prop :=
  ∃ df llc, Admits ctx candidate df llc

@[simp] theorem observe_best (state : ScanState) (view : CandidateView) :
    (state.observe view).scan = state.scan := by
  unfold ScanState.observe
  dsimp only
  split <;> rfl

theorem note_best (state : ScanState) (candidate : CandidateEval) (verdict : GuardVerdict) :
    (state.note candidate verdict).scan.best = state.scan.best ∨
      (verdict = .admitted ∧ (state.note candidate verdict).scan.best = some candidate) := by
  cases verdict with
  | admitted =>
      rcases state.scan.noteCandidate_best candidate with kept | taken
      · exact .inl kept
      · exact .inr ⟨rfl, taken⟩
  | reverse => exact .inl rfl
  | softOnlyStay => exact .inl rfl
  | destination => exact .inl rfl
  | phase => exact .inl rfl

theorem scanDomain_best (state : ScanState) {domain : Nat}
    (eligible : domain ∈ ctx.mapping.eligibleDomains) :
    (ctx.scanDomain state domain).scan.best = state.scan.best ∨
      ∃ candidate, (ctx.scanDomain state domain).scan.best = some candidate ∧
        Admitted ctx candidate := by
  unfold scanDomain
  split
  · exact .inl rfl
  next df freshDf =>
    split
    · exact .inl rfl
    next llc freshLlc =>
      split
      · exact .inl rfl
      next cpu chosen =>
        split
        · exact .inl rfl
        next elsewhere =>
          split
          · exact .inl rfl
          next budget =>
            dsimp only
            rcases note_best (state.observe (ctx.evalCandidate domain df llc cpu))
                (ctx.evalCandidate domain df llc cpu).candidate
                (ctx.guardVerdict (ctx.evalCandidate domain df llc cpu)) with kept | ⟨verdict, taken⟩
            · exact .inl (by rw [kept, observe_best])
            · refine .inr ⟨_, taken, df, llc, eligible, freshDf, freshLlc, chosen, ?_, ?_, rfl,
                verdict⟩
              · intro known same
                have same : ctx.currentDomain = some domain := same
                simp [known, same] at elsewhere
              · intro known
                simp only [known, Bool.not_false, Bool.true_and, Bool.not_eq_true] at budget
                exact budget

/-- The best candidate of the scan was admitted by every guard. -/
theorem scanDomains_best_admitted {best : CandidateEval}
    (found : ctx.scanDomains.scan.best = some best) : Admitted ctx best := by
  have invariant : ∀ (domains : List Nat) (state : ScanState),
      (∀ domain ∈ domains, domain ∈ ctx.mapping.eligibleDomains) →
      (∀ candidate, state.scan.best = some candidate → Admitted ctx candidate) →
      ∀ candidate, (domains.foldl ctx.scanDomain state).scan.best = some candidate →
        Admitted ctx candidate := by
    intro domains
    induction domains with
    | nil => intro state _ valid; exact valid
    | cons domain rest ih =>
        intro state eligible valid
        refine ih _ (fun other member => eligible other (List.mem_cons_of_mem _ member)) ?_
        intro candidate chosen
        rcases scanDomain_best state (eligible domain List.mem_cons_self) with
          kept | ⟨admitted, taken, proof⟩
        · exact valid candidate (kept ▸ chosen)
        · rw [taken] at chosen
          exact Option.some.inj chosen ▸ proof
  exact invariant _ _ (fun domain member => Std.TreeSet.mem_toList.mp member)
    (fun candidate impossible => by simp at impossible) best found

end PlacementContext

def DecisionReasonStays : DecisionReason → Bool
  | .idleSpread | .moveCoolerDomain | .excludedDomainEscape => false
  | _ => true

/-- The four kinds of answer of the fallback policy, with the guards each passed. -/
inductive PolicyOutcome (ctx : PlacementContext) : PlacementDecision → Prop where
  | spread {domain cpu : Nat} (target : ctx.idleSpread = some (domain, cpu)) :
      PolicyOutcome ctx (ctx.spreadDecision domain cpu)
  | stay {reason : DecisionReason} {tick : TickDecision} {sliceNs : Nat} {source : SourceFigures}
      {destination : DestinationFigures} {debug : PlacementDebugInfo}
      (calm : ctx.idleSpread = none) (stays : DecisionReasonStays reason = true) :
      PolicyOutcome ctx (ctx.stay reason tick sliceNs source destination debug)
  | move {best : CandidateEval} {scoreGain : Nat} {destination : DestinationFigures}
      {debug : PlacementDebugInfo} (calm : ctx.idleSpread = none)
      (known : ctx.currentExcluded = false) (settled : ctx.inSettleWindow = false)
      (warm : ctx.threadClass ≠ .cold) (signed : ctx.signatureValid = true)
      (budget : ctx.sourceBudgetExhausted = false) (admitted : ctx.Admitted best) :
      PolicyOutcome ctx (ctx.decide (some best.domain) (some best.cpu) .moveCoolerDomain
        ctx.moveTickDecision scoreGain defaultSliceNs ctx.movedFigures destination debug)
  | escape {best : CandidateEval} {debug : PlacementDebugInfo} (calm : ctx.idleSpread = none)
      (excluded : ctx.currentExcluded = true) (admitted : ctx.Admitted best) :
      PolicyOutcome ctx (ctx.escapeDecision debug best)

theorem noBestReason_stays (stats : CandidateScanStats) :
    DecisionReasonStays (PlacementContext.noBestReason stats) = true := by
  unfold PlacementContext.noBestReason
  repeat' split
  all_goals rfl

private theorem moveOrStay_outcome {ctx : PlacementContext} {best : CandidateEval}
    (calm : ctx.idleSpread = none) (known : ctx.currentExcluded = false)
    (settled : ctx.inSettleWindow = false) (warm : ctx.threadClass ≠ .cold)
    (signed : ctx.signatureValid = true) (budget : ctx.sourceBudgetExhausted = false)
    (admitted : ctx.Admitted best) (debug : PlacementDebugInfo) :
    PolicyOutcome ctx (ctx.moveOrStay debug best) := by
  unfold PlacementContext.moveOrStay
  dsimp only
  split
  · exact .stay calm rfl
  · split
    · exact .stay calm rfl
    · exact .move calm known settled warm signed budget admitted

theorem choosePlacement_outcome (ctx : PlacementContext) :
    PolicyOutcome ctx (choosePlacementWithPlannedCpus ctx) := by
  unfold choosePlacementWithPlannedCpus
  split
  next domain cpu target => exact .spread target
  next calm =>
    split
    · exact .stay calm rfl
    next settled =>
      split
      · exact .stay calm rfl
      next warm =>
        split
        · exact .stay calm rfl
        next signed =>
          split
          · exact .stay calm rfl
          next budget =>
            unfold PlacementContext.scanDecision
            dsimp only
            split
            · exact .stay calm (noBestReason_stays _)
            next best found =>
              have admitted := PlacementContext.scanDomains_best_admitted found
              cases known : ctx.currentExcluded with
              | true =>
                  simp only [Bool.not_true, Bool.false_eq_true, if_false]
                  exact .escape calm known admitted
              | false =>
                  simp only [known, Bool.not_false, Bool.true_and, Bool.not_eq_true,
                    beq_eq_false_iff_ne] at settled warm budget
                  simp only [known, Bool.not_false, Bool.true_and, Bool.or_eq_true,
                    Bool.not_eq_true', not_or, Bool.not_eq_false] at signed
                  simp only [Bool.not_false, if_true]
                  exact moveOrStay_outcome calm known settled warm signed.1 budget admitted _

/-! ## Facts shared by all outcomes -/

theorem PlacementContext.staySelectedDomain_eq (ctx : PlacementContext) :
    ctx.staySelectedDomain = ctx.currentDomain := by
  unfold staySelectedDomain currentDomain
  cases taskCurrentDomain ctx.task <;> rfl

section Outcome

variable {ctx : PlacementContext} {decision : PlacementDecision}

theorem PolicyOutcome.not_deferred (outcome : PolicyOutcome ctx decision) :
    decision.deferDispatch = false := by
  cases outcome <;> rfl

theorem PolicyOutcome.not_planned (outcome : PolicyOutcome ctx decision) :
    decision.planUsed = false := by
  cases outcome <;> rfl

end Outcome

/-! ## What the policy reads of a thread

Signature, settle and reverse timers and nothing else, so that a thread record
may change in its other fields between two calls. -/

structure SameThreadView (left right : Option ManagedThreadState) : Prop where
  effect : ∀ task capacity,
    taskSignatureEffect task left capacity = taskSignatureEffect task right capacity
  reverse : ∀ currentDomain candidateDomain nowNs,
    reverseMoveBlocked left currentDomain candidateDomain nowNs =
      reverseMoveBlocked right currentDomain candidateDomain nowNs
  young : ∀ task, youngTaskNeedsIdleSpread task left = youngTaskNeedsIdleSpread task right
  settle : (left.map (·.settleUntilNs)).getD 0 = (right.map (·.settleUntilNs)).getD 0
  sampleCount : (left.map (·.signature.sampleCount)).getD 0 =
    (right.map (·.signature.sampleCount)).getD 0
  confidence : (left.map (·.signature.confidenceX100)).getD 0 =
    (right.map (·.signature.confidenceX100)).getD 0
  stable : (left.map (·.signature.stable)).getD false = (right.map (·.signature.stable)).getD false

structure SameThreadFields (left right : ManagedThreadState) : Prop where
  signature : left.signature = right.signature
  settle : left.settleUntilNs = right.settleUntilNs
  protect : left.reverseProtectUntilNs = right.reverseProtectUntilNs
  fromDomain : left.lastMigrationFromDomain = right.lastMigrationFromDomain
  toDomain : left.lastMigrationToDomain = right.lastMigrationToDomain

theorem SameThreadFields.view {left right : ManagedThreadState}
    (same : SameThreadFields left right) : SameThreadView (some left) (some right) where
  effect task capacity := by
    unfold taskSignatureEffect signatureIsValid
    simp only [Option.map_some, Option.getD_some, same.signature]
    cases right.signature.valid with
    | false => simp
    | true => simp [Option.filter, same.signature]
  reverse currentDomain candidateDomain nowNs := by
    simp only [reverseMoveBlocked, same.protect, same.fromDomain, same.toDomain]
  young task := by simp only [youngTaskNeedsIdleSpread, Option.map_some, same.signature]
  settle := by simp only [Option.map_some, same.settle]
  sampleCount := by simp only [Option.map_some, same.signature]
  confidence := by simp only [Option.map_some, same.signature]
  stable := by simp only [Option.map_some, same.signature]

/-- A missing record reads like a fresh one. -/
theorem sameThreadView_fresh {fresh : ManagedThreadState}
    (same : SameThreadFields fresh {}) : SameThreadView none (some fresh) where
  effect task capacity := by
    simp [taskSignatureEffect, signatureIsValid, same.signature]
  reverse currentDomain candidateDomain nowNs := by
    simp [reverseMoveBlocked, same.protect]
  young task := by
    simp [youngTaskNeedsIdleSpread, same.signature, signatureStableSamples]
  settle := by simp [same.settle]
  sampleCount := by simp [same.signature]
  confidence := by simp [same.signature]
  stable := by simp [same.signature]

namespace PlacementContext

def withThread (ctx : PlacementContext) (thread : Option ManagedThreadState) : PlacementContext :=
  { ctx with thread }

section ThreadView

variable {left right : Option ManagedThreadState} (same : SameThreadView left right)
  (ctx : PlacementContext)

include same

private theorem sourceEffect_congr :
    (ctx.withThread left).sourceEffect = (ctx.withThread right).sourceEffect :=
  same.effect _ _

private theorem signatureValid_congr :
    (ctx.withThread left).signatureValid = (ctx.withThread right).signatureValid :=
  congrArg TaskSignatureEffect.signatureValid (sourceEffect_congr same ctx)

private theorem currentSourceSignatureDfX100_congr :
    (ctx.withThread left).currentSourceSignatureDfX100 =
      (ctx.withThread right).currentSourceSignatureDfX100 := by
  unfold currentSourceSignatureDfX100
  rw [sourceEffect_congr same, signatureValid_congr same]
  rfl

private theorem estimatedSourceLlcEffectX100_congr :
    (ctx.withThread left).estimatedSourceLlcEffectX100 =
      (ctx.withThread right).estimatedSourceLlcEffectX100 := by
  unfold estimatedSourceLlcEffectX100
  rw [sourceEffect_congr same]
  rfl

private theorem predictedSourceDfX100_congr :
    (ctx.withThread left).predictedSourceDfX100 = (ctx.withThread right).predictedSourceDfX100 := by
  unfold predictedSourceDfX100 estimatedSourceDfEffectX100
  rw [currentSourceSignatureDfX100_congr same, sourceEffect_congr same]

private theorem predictedSourceLiveDfX100_congr :
    (ctx.withThread left).predictedSourceLiveDfX100 =
      (ctx.withThread right).predictedSourceLiveDfX100 := by
  unfold predictedSourceLiveDfX100 estimatedSourceDfEffectX100
  rw [sourceEffect_congr same]
  rfl

private theorem evalCandidate_congr :
    (ctx.withThread left).evalCandidate = (ctx.withThread right).evalCandidate := by
  funext domain df llc cpu
  have effect := same.effect ctx.task (ctx.mapping.dfCapacityMibSX100 domain)
  unfold evalCandidate
  rw [predictedSourceDfX100_congr same, predictedSourceLiveDfX100_congr same,
    currentSourceSignatureDfX100_congr same, estimatedSourceLlcEffectX100_congr same]
  simp only [withThread, effect]
  rfl

private theorem guardVerdict_congr :
    (ctx.withThread left).guardVerdict = (ctx.withThread right).guardVerdict := by
  funext view
  have reverse : (ctx.withThread left).reverseBlocks view = (ctx.withThread right).reverseBlocks view := by
    unfold reverseBlocks
    rw [predictedSourceLiveDfX100_congr same]
    simp only [withThread, same.reverse]
    rfl
  unfold guardVerdict
  rw [reverse]
  rfl

private theorem scanDomain_congr :
    (ctx.withThread left).scanDomain = (ctx.withThread right).scanDomain := by
  funext state domain
  unfold scanDomain
  rw [evalCandidate_congr same, guardVerdict_congr same]
  rfl

private theorem scanDomains_congr :
    (ctx.withThread left).scanDomains = (ctx.withThread right).scanDomains := by
  unfold scanDomains
  rw [scanDomain_congr same]
  rfl

private theorem decide_congr : (ctx.withThread left).decide = (ctx.withThread right).decide := by
  funext selectedDomain selectedCpu reason tick gain slice source destination debug
  unfold PlacementContext.decide placementDecision
  rw [signatureValid_congr same]
  simp only [withThread, same.sampleCount, same.confidence, same.stable]
  rfl

private theorem stay_congr : (ctx.withThread left).stay = (ctx.withThread right).stay := by
  funext reason tick slice source destination debug
  unfold PlacementContext.stay
  rw [decide_congr same]
  rfl

private theorem figures_congr :
    (ctx.withThread left).stillFigures = (ctx.withThread right).stillFigures ∧
      (ctx.withThread left).movedFigures = (ctx.withThread right).movedFigures ∧
      (ctx.withThread left).sourceAsDestination = (ctx.withThread right).sourceAsDestination := by
  have llc : (ctx.withThread left).predictedSourceLlcX100 =
      (ctx.withThread right).predictedSourceLlcX100 := by
    unfold predictedSourceLlcX100
    rw [estimatedSourceLlcEffectX100_congr same]
    rfl
  unfold stillFigures movedFigures sourceAsDestination
  rw [currentSourceSignatureDfX100_congr same, predictedSourceDfX100_congr same, llc]
  exact ⟨rfl, rfl, rfl⟩

private theorem moveOrStay_congr :
    (ctx.withThread left).moveOrStay = (ctx.withThread right).moveOrStay := by
  funext debug best
  have baseline : (ctx.withThread left).rebaselineCost best =
      (ctx.withThread right).rebaselineCost best := by
    unfold rebaselineCost
    rw [currentSourceSignatureDfX100_congr same]
    rfl
  have effect := same.effect ctx.task (ctx.mapping.dfCapacityMibSX100 best.domain)
  unfold moveOrStay bestDebug bestFigures
  rw [baseline, stay_congr same, decide_congr same, (figures_congr same ctx).2.1,
    estimatedSourceLlcEffectX100_congr same]
  simp only [withThread, effect]
  rfl

private theorem escapeDecision_congr :
    (ctx.withThread left).escapeDecision = (ctx.withThread right).escapeDecision := by
  funext debug best
  have penalty : (ctx.withThread left).baselineSourcePenalty =
      (ctx.withThread right).baselineSourcePenalty := by
    unfold baselineSourcePenalty
    rw [currentSourceSignatureDfX100_congr same]
    rfl
  unfold escapeDecision bestFigures
  rw [decide_congr same, (figures_congr same ctx).2.1, penalty, sourceEffect_congr same,
    estimatedSourceLlcEffectX100_congr same]
  rfl

private theorem scanDecision_congr :
    (ctx.withThread left).scanDecision = (ctx.withThread right).scanDecision := by
  unfold scanDecision noBestStay
  rw [scanDomains_congr same, moveOrStay_congr same, escapeDecision_congr same, stay_congr same,
    (figures_congr same ctx).1]
  rfl

/-- The policy gives the same answer to two records with the same view. -/
theorem choosePlacement_congr :
    choosePlacementWithPlannedCpus (ctx.withThread left) =
      choosePlacementWithPlannedCpus (ctx.withThread right) := by
  have spread : (ctx.withThread left).idleSpread = (ctx.withThread right).idleSpread := by
    unfold idleSpread
    simp only [withThread, same.young]
    rfl
  have settle : (ctx.withThread left).inSettleWindow = (ctx.withThread right).inSettleWindow := by
    unfold inSettleWindow
    simp only [withThread, same.settle]
    rfl
  unfold choosePlacementWithPlannedCpus spreadDecision earlyStay budgetStay
  rw [spread, settle, decide_congr same, stay_congr same, scanDecision_congr same,
    (figures_congr same ctx).1, (figures_congr same ctx).2.1, (figures_congr same ctx).2.2,
    signatureValid_congr same, currentSourceSignatureDfX100_congr same]
  rfl

end ThreadView

end PlacementContext

end CSwitch.Policy
