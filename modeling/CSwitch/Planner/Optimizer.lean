import CSwitch.Planner.PaperGreedy

/-! The local search over assignments: single moves for a bounded number of
passes, then one swap among the heaviest items. The section at the end says
once what the search can do to an assignment. -/

set_option autoImplicit false

namespace CSwitch.Planner

open Std (TreeMap TreeSet)
open Policy

/-! ## Margin -/

/-- `max_by_key`, which keeps the last of several maxima. -/
def lastMaxBy {α : Type} (key : α → Nat) (values : List α) : Option α :=
  values.foldl (fun best value =>
    match best with
    | none => some value
    | some current => if key current ≤ key value then some value else best) none

def maxLiveSource (item : PlannerItem) (state : PlannerState) : Nat × Nat :=
  let sources := (item.memberTids.filterMap (state.members[·]?)).filterMap fun member =>
    (member.currentDomain.bind (state.domains[·]?)).map fun model =>
      (model.liveDfX100, model.dfCapacityMibSX100)
  (lastMaxBy (fun source => source.1 * 10000 / max source.2 1) sources).getD
    (0, (state.domains.map (·.dfCapacityMibSX100)).max?.getD 1)

def improvementClearsMargin (baselineCost candidateCost : PlannerCostBreakdown) (itemIndex : Nat)
    (state : PlannerState) (snapshot : PlannerInput) : Bool :=
  if !candidateCost.isBetterThan baselineCost then false
  else
    match state.items[itemIndex]? with
    | none => false
    | some item =>
        let source := maxLiveSource item state
        let anyExcluded := item.memberTids.any fun tid =>
          ((state.members[tid]?.bind (·.currentDomain)).map
            snapshot.mapping.excludedDomains.contains).getD false
        anyExcluded || candidateCost.clearsMarginAgainst baselineCost
          (effectiveMigrateMarginX100 source.1 snapshot.policy.migrateMarginX100 source.2)

/-! ## Single moves -/

structure BestMove where
  itemIndex : Nat
  assignment : Assignment
  cost : PlannerCostBreakdown

def offerMove (best : Option BestMove) (move : BestMove) : Option BestMove :=
  match best with
  | none => some move
  | some current => if move.cost.isBetterThan current.cost then some move else best

def considerMove (snapshot : PlannerInput) (state : PlannerState) (baseline : PlanEvaluation)
    (best : Option BestMove) (itemIndex : Nat) (assignment : Assignment) : Option BestMove :=
  let cost := (evaluatePlan (state.assign itemIndex assignment)).cost
  if improvementClearsMargin baseline.cost cost itemIndex state snapshot then
    offerMove best ⟨itemIndex, assignment, cost⟩
  else best

def considerDomain (features : BuildFeatures) (snapshot : PlannerInput) (state : PlannerState)
    (baseline : PlanEvaluation) (itemIndex : Nat) (currentAssignment : Assignment)
    (best : Option BestMove) (targetDomain : Nat) : Option BestMove :=
  if .domain targetDomain = currentAssignment then best
  else if features.schedulerPaperGreedy &&
      paperGreedyBlocksUnderSubscribedSoftMove itemIndex targetDomain snapshot state then best
  else if !candidateAllowed itemIndex (.domain targetDomain) snapshot state then best
  else considerMove snapshot state baseline best itemIndex (.domain targetDomain)

/-- The return of an item to its members' homes, tried in incremental mode only. -/
def considerHome (snapshot : PlannerInput) (state : PlannerState) (baseline : PlanEvaluation)
    (wasGlobal : Bool) (itemIndex : Nat) (currentAssignment : Assignment)
    (best : Option BestMove) : Option BestMove :=
  if !wasGlobal && candidateAllowed itemIndex .currentHome snapshot state &&
      currentAssignment != .currentHome then
    considerMove snapshot state baseline best itemIndex .currentHome
  else best

def considerItem (features : BuildFeatures) (snapshot : PlannerInput) (state : PlannerState)
    (baseline : PlanEvaluation) (wasGlobal : Bool) (best : Option BestMove) (itemIndex : Nat) :
    Option BestMove :=
  match state.items[itemIndex]?, state.assignments[itemIndex]? with
  | some item, some currentAssignment =>
      considerHome snapshot state baseline wasGlobal itemIndex currentAssignment
        (item.allowedDomains.toList.foldl
          (considerDomain features snapshot state baseline itemIndex currentAssignment) best)
  | _, _ => best

def bestMove (features : BuildFeatures) (snapshot : PlannerInput) (state : PlannerState)
    (wasGlobal : Bool) : Option BestMove :=
  (List.range state.items.length).foldl
    (considerItem features snapshot state (evaluatePlan state) wasGlobal) none

/-- The bounded loop of single moves; it ends early when no move helps. -/
def movePasses (features : BuildFeatures) (snapshot : PlannerInput) (wasGlobal : Bool) :
    Nat → PlannerState → PlannerState
  | 0, state => state
  | passes + 1, state =>
      match bestMove features snapshot state wasGlobal with
      | none => state
      | some move =>
          movePasses features snapshot wasGlobal passes (state.assign move.itemIndex move.assignment)

/-! ## The swap -/

structure BestSwap where
  leftIndex : Nat
  rightIndex : Nat
  leftAssignment : Assignment
  rightAssignment : Assignment
  cost : PlannerCostBreakdown

def offerSwap (best : Option BestSwap) (swap : BestSwap) : Option BestSwap :=
  match best with
  | none => some swap
  | some current => if swap.cost.isBetterThan current.cost then some swap else best

/-- The item indices of the swap pass; the sort is stable. -/
def heaviest (config : PlannerConfig) (state : PlannerState) : List Nat :=
  let weights := state.items.mapIdx fun index item =>
    (index, membersDf state.members item.memberTids)
  ((weights.insertionSort fun left right => right.2 ≤ left.2).take config.swapPassItems).map (·.1)

def considerSwap (snapshot : PlannerInput) (state : PlannerState) (baseline : PlanEvaluation)
    (best : Option BestSwap) (pair : Nat × Nat) : Option BestSwap :=
  let (leftIndex, rightIndex) := pair
  match state.assignments[leftIndex]?, state.assignments[rightIndex]? with
  | some (.domain leftDomain), some (.domain rightDomain) =>
      if leftDomain = rightDomain then best
      else if !candidateAllowed leftIndex (.domain rightDomain) snapshot state ||
          !candidateAllowed rightIndex (.domain leftDomain) snapshot state then best
      else
        let swapped :=
          (state.assign leftIndex (.domain rightDomain)).assign rightIndex (.domain leftDomain)
        let cost := (evaluatePlan swapped).cost
        if !cost.isBetterThan baseline.cost then best
        else if snapshot.previousPlan.isSome &&
            (cost.hardConstraints.cmp baseline.cost.hardConstraints).isGE then best
        else offerSwap best ⟨leftIndex, rightIndex, .domain rightDomain, .domain leftDomain, cost⟩
  | _, _ => best

def bestSwap (snapshot : PlannerInput) (config : PlannerConfig) (state : PlannerState) :
    Option BestSwap :=
  (orderedPairs (heaviest config state)).foldl
    (considerSwap snapshot state (evaluatePlan state)) none

def swapPass (snapshot : PlannerInput) (config : PlannerConfig) (state : PlannerState) :
    PlannerState :=
  match bestSwap snapshot config state with
  | none => state
  | some swap =>
      (state.assign swap.leftIndex swap.leftAssignment).assign swap.rightIndex swap.rightAssignment

def optimizeState (features : BuildFeatures) (snapshot : PlannerInput) (config : PlannerConfig)
    (state : PlannerState) (wasGlobal : Bool) : PlannerState :=
  swapPass snapshot config (movePasses features snapshot wasGlobal config.maxPasses state)

/-! ## What the search can do -/

/-- One state comes from another by legal reassignments: nothing but the
assignments differs, and each is old or was allowed. -/
structure Reassigns (snapshot : PlannerInput) (before after : PlannerState) : Prop where
  frame : after = { before with assignments := after.assignments }
  legal : ∀ itemIndex assignment, after.assignments[itemIndex]? = some assignment →
    before.assignments[itemIndex]? = some assignment ∨
      candidateAllowed itemIndex assignment snapshot before = true

namespace Reassigns

variable {snapshot : PlannerInput} {before middle after : PlannerState}

theorem refl (state : PlannerState) : Reassigns snapshot state state where
  frame := rfl
  legal _ _ found := .inl found

theorem members (reassigned : Reassigns snapshot before after) : after.members = before.members := by
  rw [reassigned.frame]

theorem items (reassigned : Reassigns snapshot before after) : after.items = before.items := by
  rw [reassigned.frame]

theorem itemIndexByTid (reassigned : Reassigns snapshot before after) :
    after.itemIndexByTid = before.itemIndexByTid := by
  rw [reassigned.frame]

theorem candidateAllowed_eq (reassigned : Reassigns snapshot before after) (itemIndex : Nat)
    (assignment : Assignment) :
    candidateAllowed itemIndex assignment snapshot after =
      candidateAllowed itemIndex assignment snapshot before := by
  unfold candidateAllowed
  rw [reassigned.items, reassigned.members]

theorem trans (first : Reassigns snapshot before middle) (second : Reassigns snapshot middle after) :
    Reassigns snapshot before after where
  frame := by
    have left := first.frame
    have right := second.frame
    rw [left] at right
    exact right
  legal itemIndex assignment found := by
    rcases second.legal itemIndex assignment found with kept | allowed
    · exact first.legal itemIndex assignment kept
    · exact .inr (first.candidateAllowed_eq itemIndex assignment ▸ allowed)

theorem assign (state : PlannerState) {itemIndex : Nat} {assignment : Assignment}
    (allowed : candidateAllowed itemIndex assignment snapshot state = true) :
    Reassigns snapshot state (state.assign itemIndex assignment) where
  frame := rfl
  legal other found := by
    intro lookup
    simp only [PlannerState.assign, List.getElem?_set] at lookup
    split at lookup
    next same =>
      split at lookup
      · obtain rfl := Option.some.inj lookup
        exact .inr (same ▸ allowed)
      · simp at lookup
    · exact .inl lookup

end Reassigns

section

variable {features : BuildFeatures} {snapshot : PlannerInput} {config : PlannerConfig}
  {state : PlannerState} {wasGlobal : Bool}

/-- What the search knows about the move it settles on. -/
structure MoveFound (features : BuildFeatures) (snapshot : PlannerInput) (state : PlannerState)
    (wasGlobal : Bool) (move : BestMove) : Prop where
  allowed : candidateAllowed move.itemIndex move.assignment snapshot state = true
  evaluated : move.cost =
    (evaluatePlan (state.assign move.itemIndex move.assignment)).cost
  clears : improvementClearsMargin (evaluatePlan state).cost move.cost move.itemIndex state
    snapshot = true
  /-- Members only go back to their homes in incremental mode. -/
  returns : move.assignment = .currentHome → wasGlobal = false
  unblocked : ∀ domain, move.assignment = .domain domain → features.schedulerPaperGreedy = true →
    paperGreedyBlocksUnderSubscribedSoftMove move.itemIndex domain snapshot state = false

def BestFound (features : BuildFeatures) (snapshot : PlannerInput) (state : PlannerState)
    (wasGlobal : Bool) (best : Option BestMove) : Prop :=
  ∀ move, best = some move → MoveFound features snapshot state wasGlobal move

private theorem offerMove_found {best : Option BestMove} {move : BestMove}
    (valid : BestFound features snapshot state wasGlobal best)
    (found : MoveFound features snapshot state wasGlobal move) :
    BestFound features snapshot state wasGlobal (offerMove best move) := by
  unfold offerMove
  split
  · intro chosen same
    exact Option.some.inj same ▸ found
  next current =>
    split
    · intro chosen same
      exact Option.some.inj same ▸ found
    · exact valid

private theorem considerMove_found {best : Option BestMove} {itemIndex : Nat}
    {assignment : Assignment} (valid : BestFound features snapshot state wasGlobal best)
    (allowed : candidateAllowed itemIndex assignment snapshot state = true)
    (returns : assignment = .currentHome → wasGlobal = false)
    (unblocked : ∀ domain, assignment = .domain domain → features.schedulerPaperGreedy = true →
      paperGreedyBlocksUnderSubscribedSoftMove itemIndex domain snapshot state = false) :
    BestFound features snapshot state wasGlobal
      (considerMove snapshot state (evaluatePlan state) best itemIndex assignment) := by
  unfold considerMove
  dsimp only
  split
  next clears => exact offerMove_found valid ⟨allowed, rfl, clears, returns, unblocked⟩
  · exact valid

private theorem considerDomain_found {itemIndex : Nat} {current : Assignment}
    {best : Option BestMove} (valid : BestFound features snapshot state wasGlobal best)
    (targetDomain : Nat) :
    BestFound features snapshot state wasGlobal
      (considerDomain features snapshot state (evaluatePlan state) itemIndex current best
        targetDomain) := by
  unfold considerDomain
  split
  · exact valid
  · split
    · exact valid
    next unblocked =>
      split
      · exact valid
      next allowed =>
        refine considerMove_found valid (by simpa using allowed) (fun home => by cases home) ?_
        intro domain same greedy
        cases same
        simpa [greedy] using unblocked

private theorem considerItem_found {best : Option BestMove}
    (valid : BestFound features snapshot state wasGlobal best) (itemIndex : Nat) :
    BestFound features snapshot state wasGlobal
      (considerItem features snapshot state (evaluatePlan state) wasGlobal best itemIndex) := by
  unfold considerItem
  split
  next item current _ _ =>
    have scanned := List.foldlRecOn item.allowedDomains.toList
      (considerDomain features snapshot state (evaluatePlan state) itemIndex current) valid
      (motive := BestFound features snapshot state wasGlobal)
      fun _ valid domain _ => considerDomain_found valid domain
    unfold considerHome
    split
    next home =>
      simp only [Bool.and_eq_true, Bool.not_eq_true'] at home
      exact considerMove_found scanned home.1.2 (fun _ => home.1.1) fun _ same => by cases same
    · exact scanned
  · exact valid

theorem bestMove_found {move : BestMove}
    (found : bestMove features snapshot state wasGlobal = some move) :
    MoveFound features snapshot state wasGlobal move := by
  have invariant : BestFound features snapshot state wasGlobal
      (bestMove features snapshot state wasGlobal) := by
    unfold bestMove
    refine List.foldlRecOn _ _ (motive := BestFound features snapshot state wasGlobal) ?_ ?_
    · intro move impossible
      simp at impossible
    · intro best valid itemIndex _
      exact considerItem_found valid itemIndex
  exact invariant move found

theorem movePasses_reassigns (passes : Nat) (state : PlannerState) :
    Reassigns snapshot state (movePasses features snapshot wasGlobal passes state) := by
  induction passes generalizing state with
  | zero => exact .refl state
  | succ passes ih =>
      unfold movePasses
      split
      · exact .refl state
      next move found => exact (Reassigns.assign state (bestMove_found found).allowed).trans (ih _)

/-- What the search knows about the swap it settles on. -/
structure SwapFound (snapshot : PlannerInput) (state : PlannerState) (swap : BestSwap) : Prop where
  left : ∃ domain, swap.rightAssignment = .domain domain ∧
    state.assignments[swap.leftIndex]? = some (.domain domain)
  right : ∃ domain, swap.leftAssignment = .domain domain ∧
    state.assignments[swap.rightIndex]? = some (.domain domain)
  leftAllowed : candidateAllowed swap.leftIndex swap.leftAssignment snapshot state = true
  rightAllowed : candidateAllowed swap.rightIndex swap.rightAssignment snapshot state = true
  evaluated : swap.cost = (evaluatePlan ((state.assign swap.leftIndex swap.leftAssignment).assign
    swap.rightIndex swap.rightAssignment)).cost
  better : swap.cost.isBetterThan (evaluatePlan state).cost = true
  /-- A plan that follows another one swaps for the hard constraints only. -/
  harder : snapshot.previousPlan.isSome = true →
    (swap.cost.hardConstraints.cmp (evaluatePlan state).cost.hardConstraints).isLT = true

def BestSwapFound (snapshot : PlannerInput) (state : PlannerState) (best : Option BestSwap) :
    Prop :=
  ∀ swap, best = some swap → SwapFound snapshot state swap

private theorem offerSwap_found {best : Option BestSwap} {swap : BestSwap}
    (valid : BestSwapFound snapshot state best) (found : SwapFound snapshot state swap) :
    BestSwapFound snapshot state (offerSwap best swap) := by
  unfold offerSwap
  split
  · intro chosen same
    exact Option.some.inj same ▸ found
  next current =>
    split
    · intro chosen same
      exact Option.some.inj same ▸ found
    · exact valid

private theorem considerSwap_found {best : Option BestSwap}
    (valid : BestSwapFound snapshot state best) (pair : Nat × Nat) :
    BestSwapFound snapshot state (considerSwap snapshot state (evaluatePlan state) best pair) := by
  unfold considerSwap
  dsimp only
  split
  next leftDomain rightDomain leftFound rightFound =>
    split
    · exact valid
    · split
      · exact valid
      next allowed =>
        simp only [Bool.or_eq_true, Bool.not_eq_true', not_or, Bool.not_eq_false] at allowed
        split
        · exact valid
        next better =>
          split
          · exact valid
          next softer =>
            refine offerSwap_found valid ⟨⟨_, rfl, leftFound⟩, ⟨_, rfl, rightFound⟩, allowed.1,
              allowed.2, rfl, by simpa using better, ?_⟩
            intro previous
            simpa [previous] using softer
  · exact valid

theorem bestSwap_found {swap : BestSwap} (found : bestSwap snapshot config state = some swap) :
    SwapFound snapshot state swap := by
  have invariant : BestSwapFound snapshot state (bestSwap snapshot config state) := by
    unfold bestSwap
    refine List.foldlRecOn _ _ (motive := BestSwapFound snapshot state) ?_ ?_
    · intro swap impossible
      simp at impossible
    · intro best valid pair _
      exact considerSwap_found valid pair
  exact invariant swap found

theorem swapPass_reassigns (state : PlannerState) :
    Reassigns snapshot state (swapPass snapshot config state) := by
  unfold swapPass
  split
  · exact .refl state
  next swap found =>
    have left := Reassigns.assign state (bestSwap_found found).leftAllowed
    refine left.trans (Reassigns.assign _ ?_)
    rw [left.candidateAllowed_eq]
    exact (bestSwap_found found).rightAllowed

theorem optimizeState_reassigns (state : PlannerState) :
    Reassigns snapshot state (optimizeState features snapshot config state wasGlobal) :=
  (movePasses_reassigns config.maxPasses state).trans (swapPass_reassigns _)

theorem applyPaperGreedySeed_reassigns (state : PlannerState) :
    Reassigns snapshot state (applyPaperGreedySeed snapshot state wasGlobal) := by
  unfold applyPaperGreedySeed
  split
  · exact .refl state
  · refine List.foldlRecOn _ _
      (motive := fun (seed : PaperGreedyState) => Reassigns snapshot state seed.state) (.refl state) ?_
    intro seed reached itemIndex _
    refine reached.trans ?_
    unfold seedItem
    dsimp only
    split
    · exact .refl seed.state
    next chosen => exact Reassigns.assign seed.state (choosePaperGreedyDomain_allowed chosen)

end

end CSwitch.Planner
