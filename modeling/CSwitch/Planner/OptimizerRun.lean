import CSwitch.Planner.CostOrder
import CSwitch.Planner.Optimizer

/-! The search as the source runs it, in place: every trial is written into the
shared assignment vector, evaluated and taken back by hand, and only the best
one is applied at the end of a pass. The run is recorded and compared with
`optimizeState`. -/

set_option autoImplicit false

namespace CSwitch.Planner

open Std (ReflCmp)

/-- The vector before a trial, the one that was evaluated, and the one left behind. -/
structure Trial where
  before : List Assignment
  tried : List Assignment
  after : List Assignment

/-! ## Single moves in place -/

structure MoveSearch where
  state : PlannerState
  best : Option BestMove := none
  trials : List Trial := []

def tryMove (snapshot : PlannerInput) (baseline : PlanEvaluation) (itemIndex : Nat)
    (currentAssignment : Assignment) (search : MoveSearch) (assignment : Assignment) :
    MoveSearch :=
  let tried := search.state.assign itemIndex assignment
  let cost := (evaluatePlan tried).cost
  let restored := tried.assign itemIndex currentAssignment
  { state := restored
    best :=
      if improvementClearsMargin baseline.cost cost itemIndex restored snapshot then
        offerMove search.best ⟨itemIndex, assignment, cost⟩
      else search.best
    trials := search.trials ++
      [⟨search.state.assignments, tried.assignments, restored.assignments⟩] }

def tryDomain (features : BuildFeatures) (snapshot : PlannerInput) (baseline : PlanEvaluation)
    (itemIndex : Nat) (currentAssignment : Assignment) (search : MoveSearch)
    (targetDomain : Nat) : MoveSearch :=
  if .domain targetDomain = currentAssignment then search
  else if features.schedulerPaperGreedy &&
      paperGreedyBlocksUnderSubscribedSoftMove itemIndex targetDomain snapshot search.state then
    search
  else if !candidateAllowed itemIndex (.domain targetDomain) snapshot search.state then search
  else tryMove snapshot baseline itemIndex currentAssignment search (.domain targetDomain)

def tryHome (snapshot : PlannerInput) (baseline : PlanEvaluation) (wasGlobal : Bool)
    (itemIndex : Nat) (currentAssignment : Assignment) (search : MoveSearch) : MoveSearch :=
  if !wasGlobal && candidateAllowed itemIndex .currentHome snapshot search.state &&
      currentAssignment != .currentHome then
    tryMove snapshot baseline itemIndex currentAssignment search .currentHome
  else search

def tryItem (features : BuildFeatures) (snapshot : PlannerInput) (baseline : PlanEvaluation)
    (wasGlobal : Bool) (search : MoveSearch) (itemIndex : Nat) : MoveSearch :=
  match search.state.items[itemIndex]?, search.state.assignments[itemIndex]? with
  | some item, some currentAssignment =>
      tryHome snapshot baseline wasGlobal itemIndex currentAssignment
        (item.allowedDomains.toList.foldl
          (tryDomain features snapshot baseline itemIndex currentAssignment) search)
  | _, _ => search

def tryMoves (features : BuildFeatures) (snapshot : PlannerInput) (wasGlobal : Bool)
    (state : PlannerState) : MoveSearch :=
  (List.range state.items.length).foldl
    (tryItem features snapshot (evaluatePlan state) wasGlobal) { state }

/-! ## The swap in place -/

structure SwapSearch where
  state : PlannerState
  best : Option BestSwap := none
  trials : List Trial := []

def trySwap (snapshot : PlannerInput) (baseline : PlanEvaluation) (search : SwapSearch)
    (pair : Nat × Nat) : SwapSearch :=
  let (leftIndex, rightIndex) := pair
  match search.state.assignments[leftIndex]?, search.state.assignments[rightIndex]? with
  | some (.domain leftDomain), some (.domain rightDomain) =>
      if leftDomain = rightDomain then search
      else if !candidateAllowed leftIndex (.domain rightDomain) snapshot search.state ||
          !candidateAllowed rightIndex (.domain leftDomain) snapshot search.state then search
      else
        let tried := (search.state.assign leftIndex (.domain rightDomain)).assign rightIndex
          (.domain leftDomain)
        let cost := (evaluatePlan tried).cost
        let restored := (tried.assign leftIndex (.domain leftDomain)).assign rightIndex
          (.domain rightDomain)
        { state := restored
          best :=
            if !cost.isBetterThan baseline.cost then search.best
            else if snapshot.previousPlan.isSome &&
                (cost.hardConstraints.cmp baseline.cost.hardConstraints).isGE then search.best
            else offerSwap search.best
              ⟨leftIndex, rightIndex, .domain rightDomain, .domain leftDomain, cost⟩
          trials := search.trials ++
            [⟨search.state.assignments, tried.assignments, restored.assignments⟩] }
  | _, _ => search

def trySwaps (snapshot : PlannerInput) (config : PlannerConfig) (state : PlannerState) :
    SwapSearch :=
  (orderedPairs (heaviest config state)).foldl (trySwap snapshot (evaluatePlan state)) { state }

/-! ## The run -/

/-- A run of the search: the states that its moves and its swap led to, and all
the trials on the way. -/
structure OptimizerRun where
  state : PlannerState
  moves : List PlannerState := []
  swaps : List PlannerState := []
  trials : List Trial := []

def runMoves (features : BuildFeatures) (snapshot : PlannerInput) (wasGlobal : Bool) :
    Nat → PlannerState → OptimizerRun
  | 0, state => { state }
  | passes + 1, state =>
      let search := tryMoves features snapshot wasGlobal state
      match search.best with
      | none => { state := search.state, trials := search.trials }
      | some move =>
          let moved := search.state.assign move.itemIndex move.assignment
          let rest := runMoves features snapshot wasGlobal passes moved
          { rest with moves := moved :: rest.moves, trials := search.trials ++ rest.trials }

def runOptimizer (features : BuildFeatures) (snapshot : PlannerInput) (config : PlannerConfig)
    (state : PlannerState) (wasGlobal : Bool) : OptimizerRun :=
  let run := runMoves features snapshot wasGlobal config.maxPasses state
  let search := trySwaps snapshot config run.state
  match search.best with
  | none => { run with state := search.state, trials := run.trials ++ search.trials }
  | some swap =>
      let swapped := (search.state.assign swap.leftIndex swap.leftAssignment).assign
        swap.rightIndex swap.rightAssignment
      { run with
        state := swapped
        swaps := [swapped]
        trials := run.trials ++ search.trials }

/-! ## Every trial is taken back -/

/-- The search stands where it stood, its best move is that of the search by
value, and no trial left a trace. -/
structure MoveSearch.Restored (state : PlannerState) (best : Option BestMove)
    (search : MoveSearch) : Prop where
  state : search.state = state
  best : search.best = best
  undone : ∀ trial ∈ search.trials, trial.after = trial.before

section Moves

variable {features : BuildFeatures} {snapshot : PlannerInput} {state : PlannerState}
  {baseline : PlanEvaluation} {wasGlobal : Bool} {itemIndex : Nat} {current : Assignment}
  {best : Option BestMove} {search : MoveSearch}

theorem tryMove_restored (restored : search.Restored state best)
    (found : state.assignments[itemIndex]? = some current) (assignment : Assignment) :
    (tryMove snapshot baseline itemIndex current search assignment).Restored state
      (considerMove snapshot state baseline best itemIndex assignment) := by
  obtain ⟨rfl, rfl, undone⟩ := restored
  have back : (search.state.assign itemIndex assignment).assign itemIndex current = search.state := by
    rw [PlannerState.assign_assign, PlannerState.assign_of_getElem? found]
  unfold tryMove considerMove
  dsimp only
  rw [back]
  refine ⟨rfl, rfl, ?_⟩
  intro trial member
  rcases List.mem_append.mp member with earlier | last
  · exact undone trial earlier
  · rw [List.mem_singleton.mp last]

theorem tryDomain_restored (restored : search.Restored state best)
    (found : state.assignments[itemIndex]? = some current) (targetDomain : Nat) :
    (tryDomain features snapshot baseline itemIndex current search targetDomain).Restored state
      (considerDomain features snapshot state baseline itemIndex current best targetDomain) := by
  unfold tryDomain considerDomain
  rw [restored.state]
  split
  · exact restored
  · split
    · exact restored
    · split
      · exact restored
      · exact tryMove_restored restored found _

theorem tryItem_restored (restored : search.Restored state best) (itemIndex : Nat) :
    (tryItem features snapshot baseline wasGlobal search itemIndex).Restored state
      (considerItem features snapshot state baseline wasGlobal best itemIndex) := by
  unfold tryItem considerItem
  rw [restored.state]
  cases state.items[itemIndex]? with
  | none => exact restored
  | some item =>
      cases found : state.assignments[itemIndex]? with
      | none => exact restored
      | some current =>
          have domains : MoveSearch.Restored state _ _ :=
            List.foldl_rel (l := item.allowedDomains.toList)
              (f := tryDomain features snapshot baseline itemIndex current)
              (g := considerDomain features snapshot state baseline itemIndex current)
              (r := fun search best => search.Restored state best) restored
              fun domain _ _ _ restored => tryDomain_restored restored found domain
          dsimp only
          unfold tryHome considerHome
          rw [domains.state]
          split
          · exact tryMove_restored domains found _
          · exact domains

/-- A pass of trials finds the best move by value and leaves the vector alone. -/
theorem tryMoves_restored (features : BuildFeatures) (snapshot : PlannerInput) (wasGlobal : Bool)
    (state : PlannerState) :
    (tryMoves features snapshot wasGlobal state).Restored state
      (bestMove features snapshot state wasGlobal) :=
  List.foldl_rel (r := fun (search : MoveSearch) best => search.Restored state best)
    ⟨rfl, rfl, by simp⟩ fun index _ _ _ restored => tryItem_restored restored index

end Moves

/-- The same of the search for a swap. -/
structure SwapSearch.Restored (state : PlannerState) (best : Option BestSwap)
    (search : SwapSearch) : Prop where
  state : search.state = state
  best : search.best = best
  undone : ∀ trial ∈ search.trials, trial.after = trial.before

section Swaps

variable {snapshot : PlannerInput} {config : PlannerConfig} {state : PlannerState}

/-- Two items with different domains are different items, so a swap can be taken
back in the order it was written. -/
private theorem assign_swap_back {leftIndex rightIndex leftDomain rightDomain : Nat}
    (leftFound : state.assignments[leftIndex]? = some (.domain leftDomain))
    (rightFound : state.assignments[rightIndex]? = some (.domain rightDomain))
    (different : leftDomain ≠ rightDomain) :
    (((state.assign leftIndex (.domain rightDomain)).assign rightIndex
      (.domain leftDomain)).assign leftIndex (.domain leftDomain)).assign rightIndex
      (.domain rightDomain) = state := by
  have apart : leftIndex ≠ rightIndex := by
    rintro rfl
    rw [rightFound] at leftFound
    cases leftFound
    exact different rfl
  rw [PlannerState.assign_comm _ apart.symm, PlannerState.assign_assign,
    PlannerState.assign_assign, PlannerState.assign_of_getElem? leftFound,
    PlannerState.assign_of_getElem? rightFound]

theorem trySwap_restored {baseline : PlanEvaluation} {best : Option BestSwap}
    {search : SwapSearch} (restored : search.Restored state best) (pair : Nat × Nat) :
    (trySwap snapshot baseline search pair).Restored state
      (considerSwap snapshot state baseline best pair) := by
  obtain ⟨rfl, rfl, undone⟩ := restored
  have skipped : search.Restored search.state search.best := ⟨rfl, rfl, undone⟩
  unfold trySwap considerSwap
  dsimp only
  cases leftFound : search.state.assignments[pair.1]? with
  | none => exact skipped
  | some left =>
      cases rightFound : search.state.assignments[pair.2]? with
      | none => cases left <;> exact skipped
      | some right =>
          cases left with
          | currentHome => exact skipped
          | domain leftDomain =>
              cases right with
              | currentHome => exact skipped
              | domain rightDomain =>
                  dsimp only
                  split
                  · exact skipped
                  next different =>
                    split
                    · exact skipped
                    · rw [assign_swap_back leftFound rightFound different]
                      refine ⟨rfl, rfl, ?_⟩
                      intro trial member
                      rcases List.mem_append.mp member with earlier | last
                      · exact undone trial earlier
                      · rw [List.mem_singleton.mp last]

theorem trySwaps_restored (snapshot : PlannerInput) (config : PlannerConfig)
    (state : PlannerState) :
    (trySwaps snapshot config state).Restored state (bestSwap snapshot config state) :=
  List.foldl_rel (r := fun (search : SwapSearch) best => search.Restored state best)
    ⟨rfl, rfl, by simp⟩ fun pair _ _ _ restored => trySwap_restored restored pair

end Swaps

/-! ## Descent -/

/-- A step of the search: it replaces the assignment vector, and the plan gets
strictly better in the placement order. -/
structure Descends (before after : PlannerState) : Prop where
  frame : after = { before with assignments := after.assignments }
  better : (evaluatePlan after).cost.isBetterThan (evaluatePlan before).cost = true

/-- A step that reassigns one item. -/
def SingleMove (before after : PlannerState) : Prop :=
  ∃ itemIndex assignment, after = before.assign itemIndex assignment

instance : IsTrans PlannerState Descends where
  trans first second third left right := by
    constructor
    · have frame := right.frame
      rw [left.frame] at frame
      exact frame
    · exact PlannerCostBreakdown.isBetterThan_trans right.better left.better

/-- A step never leads back to the same vector. -/
theorem Descends.assignments_ne {before after : PlannerState} (step : Descends before after) :
    before.assignments ≠ after.assignments := by
  intro same
  have back : after = before := by rw [step.frame, ← same]
  have better := step.better
  rw [back, PlannerCostBreakdown.not_isBetterThan_self] at better
  cases better

theorem improvementClearsMargin_better {baseline candidate : PlannerCostBreakdown}
    {itemIndex : Nat} {state : PlannerState} {snapshot : PlannerInput}
    (clears : improvementClearsMargin baseline candidate itemIndex state snapshot = true) :
    candidate.isBetterThan baseline = true := by
  unfold improvementClearsMargin at clears
  split at clears
  · cases clears
  next better => simpa using better

section Run

variable {features : BuildFeatures} {snapshot : PlannerInput} {config : PlannerConfig}
  {wasGlobal : Bool}

theorem bestMove_descends {state : PlannerState} {move : BestMove}
    (found : bestMove features snapshot state wasGlobal = some move) :
    Descends state (state.assign move.itemIndex move.assignment) := by
  have known := bestMove_found found
  refine ⟨rfl, ?_⟩
  rw [← known.evaluated]
  exact improvementClearsMargin_better known.clears

theorem bestSwap_descends {state : PlannerState} {swap : BestSwap}
    (found : bestSwap snapshot config state = some swap) :
    Descends state ((state.assign swap.leftIndex swap.leftAssignment).assign swap.rightIndex
      swap.rightAssignment) := by
  have known := bestSwap_found found
  refine ⟨rfl, ?_⟩
  rw [← known.evaluated]
  exact known.better

/-- The record of the single moves. -/
structure MovesRecorded (start : PlannerState) (passes : Nat) (final : PlannerState)
    (run : OptimizerRun) : Prop where
  state : run.state = final
  last : (start :: run.moves).getLast? = some final
  descends : (start :: run.moves).IsChain Descends
  single : (start :: run.moves).IsChain SingleMove
  count : run.moves.length ≤ passes
  swaps : run.swaps = []
  undone : ∀ trial ∈ run.trials, trial.after = trial.before

theorem runMoves_recorded (features : BuildFeatures) (snapshot : PlannerInput) (wasGlobal : Bool)
    (passes : Nat) (state : PlannerState) :
    MovesRecorded state passes (movePasses features snapshot wasGlobal passes state)
      (runMoves features snapshot wasGlobal passes state) := by
  induction passes generalizing state with
  | zero => exact ⟨rfl, rfl, .singleton _, .singleton _, Nat.le_refl _, rfl, by simp [runMoves]⟩
  | succ passes ih =>
      have search : MoveSearch.Restored state _ _ :=
        tryMoves_restored features snapshot wasGlobal state
      unfold movePasses runMoves
      dsimp only
      rw [search.best]
      cases found : bestMove features snapshot state wasGlobal with
      | none =>
          exact ⟨search.state, rfl, .singleton _, .singleton _, Nat.zero_le _, rfl, search.undone⟩
      | some move =>
          dsimp only
          rw [search.state]
          have rest := ih (state.assign move.itemIndex move.assignment)
          refine ⟨rest.state, ?_, ?_, ?_, Nat.succ_le_succ rest.count, rest.swaps, ?_⟩
          · rw [List.getLast?_cons_cons]
            exact rest.last
          · exact .cons_cons (bestMove_descends found) rest.descends
          · exact .cons_cons ⟨_, _, rfl⟩ rest.single
          · intro trial member
            rcases List.mem_append.mp member with here | later
            · exact search.undone trial here
            · exact rest.undone trial later

/-- The record of the whole run: the moves, and a last step for the swap. -/
theorem runOptimizer_recorded (features : BuildFeatures) (snapshot : PlannerInput)
    (config : PlannerConfig) (state : PlannerState) (wasGlobal : Bool) :
    let run := runOptimizer features snapshot config state wasGlobal
    run.state = optimizeState features snapshot config state wasGlobal ∧
    run.moves = (runMoves features snapshot wasGlobal config.maxPasses state).moves ∧
    run.swaps.length ≤ 1 ∧
    (state :: (run.moves ++ run.swaps)).getLast? = some run.state ∧
    (state :: (run.moves ++ run.swaps)).IsChain Descends ∧
    ∀ trial ∈ run.trials, trial.after = trial.before := by
  have moves := runMoves_recorded features snapshot wasGlobal config.maxPasses state
  have search := trySwaps_restored snapshot config
    (runMoves features snapshot wasGlobal config.maxPasses state).state
  have undone : ∀ trial ∈ (runMoves features snapshot wasGlobal config.maxPasses state).trials ++
      (trySwaps snapshot config
        (runMoves features snapshot wasGlobal config.maxPasses state).state).trials,
      trial.after = trial.before := by
    intro trial member
    rcases List.mem_append.mp member with earlier | later
    · exact moves.undone trial earlier
    · exact search.undone trial later
  unfold runOptimizer optimizeState swapPass
  dsimp only
  rw [search.best, search.state, moves.state]
  cases found : bestSwap snapshot config
      (movePasses features snapshot wasGlobal config.maxPasses state) with
  | none =>
      refine ⟨rfl, rfl, ?_, ?_, ?_, ?_⟩
      · rw [moves.swaps]
        exact Nat.zero_le _
      · rw [moves.swaps, List.append_nil]
        exact moves.last
      · rw [moves.swaps, List.append_nil]
        exact moves.descends
      · rw [← moves.state]
        exact undone
  | some swap =>
      refine ⟨rfl, rfl, Nat.le_refl _, ?_, ?_, ?_⟩
      · rw [← List.cons_append, List.getLast?_concat]
      · rw [← List.cons_append, List.isChain_append]
        refine ⟨moves.descends, .singleton _, ?_⟩
        intro before last after first
        rw [moves.last] at last
        obtain rfl := Option.some.inj last
        obtain rfl := Option.some.inj first
        exact bestSwap_descends found
      · rw [← moves.state]
        exact undone

/-- The search ends at a cost that is no worse than the one it starts from. -/
theorem optimizeState_cost_le (features : BuildFeatures) (snapshot : PlannerInput)
    (config : PlannerConfig) (state : PlannerState) (wasGlobal : Bool) :
    ((evaluatePlan (optimizeState features snapshot config state wasGlobal)).cost.cmpForPlacement
      (evaluatePlan state).cost).isLE = true := by
  obtain ⟨final, _, _, last, descends, _⟩ :=
    runOptimizer_recorded features snapshot config state wasGlobal
  rw [final] at last
  rcases List.mem_cons.mp (List.mem_of_getLast? last) with same | later
  · rw [same]
    have equal : (evaluatePlan state).cost.cmpForPlacement (evaluatePlan state).cost = .eq :=
      ReflCmp.compare_self
    rw [equal]
    rfl
  · have better := (List.rel_of_pairwise_cons (List.isChain_iff_pairwise.mp descends) later).better
    rw [PlannerCostBreakdown.isBetterThan_iff] at better
    rw [better]
    rfl

end Run

/-- The search only replaces the assignment vector by strictly better ones. It
applies at most as many single moves as there are passes, then at most one swap;
no vector occurs twice, and every trial is taken back. -/
theorem optimizeState_descends (features : BuildFeatures) (snapshot : PlannerInput)
    (config : PlannerConfig) (state : PlannerState) (wasGlobal : Bool) :
    let run := runOptimizer features snapshot config state wasGlobal
    let visited := state :: (run.moves ++ run.swaps)
    run.state = optimizeState features snapshot config state wasGlobal ∧
    visited.getLast? = some run.state ∧ visited.IsChain Descends ∧
    (visited.map PlannerState.assignments).Nodup ∧
    (state :: run.moves).IsChain SingleMove ∧ run.moves.length ≤ config.maxPasses ∧
    run.swaps.length ≤ 1 ∧
    ((evaluatePlan run.state).cost.cmpForPlacement (evaluatePlan state).cost).isLE = true ∧
    ∀ trial ∈ run.trials, trial.after = trial.before := by
  intro run visited
  have moves := runMoves_recorded features snapshot wasGlobal config.maxPasses state
  obtain ⟨final, sameMoves, swaps, last, descends, undone⟩ :=
    runOptimizer_recorded features snapshot config state wasGlobal
  have ordered : visited.Pairwise Descends := List.isChain_iff_pairwise.mp descends
  refine ⟨final, last, descends, ?_, ?_, ?_, swaps, ?_, undone⟩
  · exact List.pairwise_map.mpr (ordered.imp Descends.assignments_ne)
  · rw [sameMoves]
    exact moves.single
  · rw [sameMoves]
    exact moves.count
  · rw [final]
    exact optimizeState_cost_le features snapshot config state wasGlobal

end CSwitch.Planner
