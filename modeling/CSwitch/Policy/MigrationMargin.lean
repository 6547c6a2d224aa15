import CSwitch.Policy.MoveLegality
import CSwitch.Policy.UnderSubscribed

/-! The migration margin. A move is cheaper than staying by the margin, and no
admitted candidate is cheaper; but the margin is asked of the cheapest candidate
alone, against its own stay, so another one may have gained more. -/

set_option autoImplicit false

namespace CSwitch.Policy

open Library

/-! ## The soft cost that clears a margin -/

/-- The highest soft cost that beats a stay by the margin. -/
def marginBound (softCost marginX100 : Nat) : Nat :=
  softCost - satMul64 softCost marginX100 / 10000

theorem marginBound_mono {marginX100 lower higher : Nat} (le : lower ≤ higher) :
    marginBound lower marginX100 ≤ marginBound higher marginX100 := by
  unfold marginBound satMul64
  have products : lower * marginX100 ≤ higher * marginX100 := Nat.mul_le_mul_right _ le
  by_cases small : marginX100 ≤ 10000
  · -- one unit of cost takes at most one unit of margin
    have step : higher * marginX100 ≤ lower * marginX100 + (higher - lower) * 10000 := by
      have split : higher = lower + (higher - lower) := by omega
      calc higher * marginX100 = lower * marginX100 + (higher - lower) * marginX100 := by
            conv_lhs => rw [split, Nat.add_mul]
        _ ≤ lower * marginX100 + (higher - lower) * 10000 :=
            Nat.add_le_add_left (Nat.mul_le_mul_left _ small) _
    omega
  · -- above 100 % the bound is 0 until the product saturates
    have large : lower * 10000 ≤ lower * marginX100 := Nat.mul_le_mul_left _ (by omega)
    omega

theorem SlotCapacityConstraint.cmp_eq_eq {left right : SlotCapacityConstraint} :
    left.cmp right = .eq ↔ left = right := by
  constructor
  · intro same
    cases left with
    | withinCapacity =>
        cases right with
        | withinCapacity => rfl
        | overCapacity => cases same
    | overCapacity leftExtra leftCount =>
        cases right with
        | withinCapacity => cases same
        | overCapacity rightExtra rightCount =>
            obtain ⟨extra, count⟩ := Ordering.then_eq_eq.mp same
            rw [Nat.compare_eq_eq.mp extra, Nat.compare_eq_eq.mp count]
  · intro same
    have self : compare left left = .eq := Std.ReflOrd.compare_self
    exact same ▸ self

theorem SlotCapacityConstraint.lt_trans {first second third : SlotCapacityConstraint}
    (left : first.cmp second = .lt) (right : second.cmp third = .lt) : first.cmp third = .lt := by
  have chain : compare first second = .lt → compare second third = .lt →
      compare first third = .lt := Std.TransCmp.lt_trans
  exact chain left right

namespace CostBreakdown

open SlotCapacityConstraint (lt_trans)

variable {cost cheaper baseline higher : CostBreakdown} {marginX100 : Nat}

theorem isBetterThan_iff : cost.isBetterThan baseline = true ↔
    cost.hardConstraint.cmp baseline.hardConstraint = .lt ∨
      (cost.hardConstraint = baseline.hardConstraint ∧ cost.softCost < baseline.softCost) := by
  unfold isBetterThan cmpForPlacement
  rw [Ordering.isLT_iff_eq_lt, Ordering.then_eq_lt, SlotCapacityConstraint.cmp_eq_eq,
    Nat.compare_eq_lt]

theorem clearsMarginAgainst_iff : cost.clearsMarginAgainst baseline marginX100 = true ↔
    cost.hardConstraint.cmp baseline.hardConstraint = .lt ∨
      (cost.hardConstraint = baseline.hardConstraint ∧ cost.softCost < baseline.softCost ∧
        cost.softCost ≤ marginBound baseline.softCost marginX100) := by
  unfold clearsMarginAgainst
  cases better : cost.isBetterThan baseline with
  | false =>
      have worse := mt isBetterThan_iff.mpr (Bool.not_eq_true _ ▸ better)
      refine iff_of_false (by simp) ?_
      rintro (hard | ⟨same, soft, _⟩)
      · exact worse (.inl hard)
      · exact worse (.inr ⟨same, soft⟩)
  | true =>
      simp only [Bool.not_true, Bool.false_eq_true, if_false, Ordering.isLT_iff_eq_lt]
      rcases isBetterThan_iff.mp better with hard | ⟨same, soft⟩
      · simp [hard]
      · have equal := SlotCapacityConstraint.cmp_eq_eq.mpr same
        rw [equal, if_neg Ordering.noConfusion]
        by_cases free : marginX100 = 0
        · simp [free, same, soft, marginBound, satMul64, Nat.le_of_lt soft]
        · simp [free, same, soft, Nat.not_le.mpr soft, marginBound]

theorem cmpForPlacement_ne_gt_iff : cost.cmpForPlacement baseline ≠ .gt ↔
    cost.hardConstraint.cmp baseline.hardConstraint = .lt ∨
      (cost.hardConstraint = baseline.hardConstraint ∧ cost.softCost ≤ baseline.softCost) := by
  unfold cmpForPlacement
  rw [← SlotCapacityConstraint.cmp_eq_eq]
  cases cost.hardConstraint.cmp baseline.hardConstraint with
  | lt => simp
  | gt => simp
  | eq => simp [Nat.compare_ne_gt]

/-- A lower cost clears what a higher one clears, and a higher stay is cleared by
what clears a lower one. -/
theorem clearsMarginAgainst_mono (below : cheaper.cmpForPlacement cost ≠ .gt)
    (above : baseline.cmpForPlacement higher ≠ .gt)
    (clears : cost.clearsMarginAgainst baseline marginX100 = true) :
    cheaper.clearsMarginAgainst higher marginX100 = true := by
  rw [cmpForPlacement_ne_gt_iff] at below above
  rw [clearsMarginAgainst_iff] at clears ⊢
  rcases clears with hard | ⟨same, soft, bound⟩
  · left
    rcases below with less | ⟨equal, _⟩
    · rcases above with more | ⟨kept, _⟩
      · exact lt_trans (lt_trans less hard) more
      · exact kept ▸ lt_trans less hard
    · rcases above with more | ⟨kept, _⟩
      · exact equal ▸ lt_trans hard more
      · exact equal ▸ kept ▸ hard
  · rcases below with less | ⟨equal, under⟩
    · left
      rcases above with more | ⟨kept, _⟩
      · exact lt_trans (same ▸ less) more
      · exact kept ▸ same ▸ less
    · rcases above with more | ⟨kept, more⟩
      · left
        rw [equal, same]
        exact more
      · right
        have wider : marginBound _ marginX100 ≤ marginBound _ marginX100 := marginBound_mono more
        exact ⟨equal.trans (same.trans kept), by omega, by omega⟩

end CostBreakdown

/-! ## A move pays for itself -/

namespace PlacementContext

/-- The configured margin, scaled by the share of the source's capacity that its
live bandwidth leaves free. -/
def scaledMarginX100 (ctx : PlacementContext) (source : Nat) : Nat :=
  let capacity := ctx.mapping.dfCapacityMibSX100 source
  ctx.cfg.migrateMarginX100 * (capacity - min ctx.liveSourceDfX100 capacity) / capacity

variable {ctx : PlacementContext} {source : Nat}

theorem sourceDfCapacity_eq (home : ctx.currentDomain = some source) :
    ctx.sourceDfCapacityMibSX100 = ctx.mapping.dfCapacityMibSX100 source := by
  unfold sourceDfCapacityMibSX100
  rw [home]
  rfl

theorem migrateMargin_eq (home : ctx.currentDomain = some source)
    (positive : 0 < ctx.mapping.dfCapacityMibSX100 source)
    (margin : ctx.cfg.migrateMarginX100 ≤ u32Max) :
    ctx.migrateMarginX100 = ctx.scaledMarginX100 source := by
  unfold migrateMarginX100 scaledMarginX100 effectiveMigrateMarginX100
  rw [sourceDfCapacity_eq home]
  generalize ctx.mapping.dfCapacityMibSX100 source = capacity at positive
  dsimp only
  have own : max capacity 1 = capacity := by omega
  rw [own]
  split
  next free => rw [free, Nat.zero_mul, Nat.zero_div]
  · refine Nat.min_eq_left (le_trans ?_ margin)
    exact Nat.div_le_of_le_mul (by
      rw [Nat.mul_comm capacity]
      exact Nat.mul_le_mul_left _ (Nat.sub_le _ _))

/-- A candidate with the hard constraint of its stay is cheaper by the scaled margin. -/
theorem softCost_le_of_clears {cost baseline : CostBreakdown}
    (home : ctx.currentDomain = some source) (margin : ctx.cfg.migrateMarginX100 ≤ u32Max)
    (fits : baseline.softCost * ctx.migrateMarginX100 ≤ u64Max)
    (clears : cost.clearsMarginAgainst baseline ctx.migrateMarginX100 = true)
    (same : cost.hardConstraint = baseline.hardConstraint) :
    cost.softCost ≤
      baseline.softCost - baseline.softCost * ctx.scaledMarginX100 source / 10000 := by
  rcases CostBreakdown.clearsMarginAgainst_iff.mp clears with hard | ⟨_, soft, bound⟩
  · rw [SlotCapacityConstraint.cmp_eq_eq.mpr same] at hard
    cases hard
  · rcases Nat.eq_zero_or_pos (ctx.mapping.dfCapacityMibSX100 source) with none | positive
    · have free : ctx.scaledMarginX100 source = 0 := by
        unfold scaledMarginX100
        dsimp only
        rw [none, Nat.div_zero]
      rw [free, Nat.mul_zero, Nat.zero_div]
      omega
    · rw [← migrateMargin_eq home positive margin]
      unfold marginBound satMul64 at bound
      rwa [Nat.min_eq_left fits] at bound

/-- A move out of a known domain that is not excluded: the candidate beats the
stay of its pair, is the least of the admitted ones, and where no slot is gained
pays the scaled margin. -/
theorem choosePlacement_move_pays {domain : Nat} (home : ctx.currentDomain = some source)
    (included : source ∉ ctx.mapping.excludedDomains)
    (margin : ctx.cfg.migrateMarginX100 ≤ u32Max)
    (fits : ∀ view ∈ ctx.admittedViews,
      view.baselineCost.softCost * ctx.migrateMarginX100 ≤ u64Max)
    (moved : (choosePlacementWithPlannedCpus ctx).reason = .moveCoolerDomain)
    (selected : (choosePlacementWithPlannedCpus ctx).selectedDomain = some domain) :
    ∃ view ∈ ctx.admittedViews, view.candidate.domain = domain ∧
      (choosePlacementWithPlannedCpus ctx).selectedCpu = some view.candidate.cpu ∧
      view.candidate.cost.cmpForPlacement view.baselineCost = .lt ∧
      (∀ other ∈ ctx.admittedViews, view.candidate.cmp other.candidate ≠ .gt) ∧
      (view.candidate.cost.hardConstraint = view.baselineCost.hardConstraint →
        view.candidate.cost.softCost ≤ view.baselineCost.softCost -
          view.baselineCost.softCost * ctx.scaledMarginX100 source / 10000) := by
  have known := currentExcluded_eq_false home included
  obtain ⟨view, taken⟩ := moveTaken_of_reason moved
  obtain ⟨_, targetDomain, targetCpu⟩ := taken.decision
  obtain ⟨_, _, found⟩ := mem_admittedViews.mp taken.admitted
  obtain ⟨_, _, _, admitted⟩ := admittedView_some found
  refine ⟨view, taken.admitted, Option.some.inj (targetDomain.symm.trans selected), targetCpu, ?_, ?_, ?_⟩
  · exact Ordering.isLT_iff_eq_lt.mp (guardVerdict_admitted known admitted.guarded).2
  · intro other listed
    exact taken.cheapest.not_gt (List.mem_map_of_mem listed)
  · exact softCost_le_of_clears home margin (fits view taken.admitted) taken.margin

/-! ## The margin of the cheapest candidate alone -/

/-- A refused margin is final for the cheapest admitted candidate, and for every
other whose stay costs no more than that of the cheapest one. -/
theorem choosePlacement_marginNotMet
    (refused : (choosePlacementWithPlannedCpus ctx).reason = .marginNotMet) :
    ∃ best ∈ ctx.admittedViews,
      (∀ other ∈ ctx.admittedViews, best.candidate.cmp other.candidate ≠ .gt) ∧
      ∀ other ∈ ctx.admittedViews,
        other.baselineCost.cmpForPlacement best.baselineCost ≠ .gt →
        other.candidate.cost.clearsMarginAgainst other.baselineCost ctx.migrateMarginX100 =
          false := by
  obtain ⟨best, weighed⟩ := weighed_of_reason (.inr refused)
  have least : ∀ other ∈ ctx.admittedViews, best.candidate.cmp other.candidate ≠ .gt :=
    fun other listed => weighed.cheapest.not_gt (List.mem_map_of_mem listed)
  have unmet : best.candidate.cost.clearsMarginAgainst best.baselineCost ctx.migrateMarginX100 ≠
      true := by
    intro clears
    rw [weighed.reason, if_pos clears] at refused
    cases refused
  refine ⟨best, weighed.admitted, least, ?_⟩
  intro other listed below
  rw [← Bool.not_eq_true]
  intro clears
  refine unmet (CostBreakdown.clearsMarginAgainst_mono ?_ below clears)
  intro greater
  refine least other listed ?_
  unfold CandidateEval.cmp
  rw [greater]
  rfl

end PlacementContext

/-! A task on the one CPU of its domain, below its capacity, with two places to
go: a domain just above its capacity and a busy CPU there, and a far more loaded
domain with an idle CPU. -/

def contestedContext : PlacementContext :=
  { balanceContext with
    thread := some
      { signature := { valid := true, stable := true, projectedDfPressureX100 := 1000 } }
    topo :=
      { nrCpuIds := 3, domains := [⟨0, 0, 0, [0]⟩, ⟨1, 0, 1, [1]⟩, ⟨2, 0, 2, [2]⟩]
        cpuToDomain := [some 0, some 1, some 2] }
    mapping :=
      { balanceContext.mapping with
        domainToCcx := [0, 1, 2], domainToCcm := [none, none, none]
        domainToDfCapacityMibSX100 := [some 2000000, some 2000000, some 2000000]
        eligibleDomains := .ofList [0, 1, 2], eligibleCpus := .ofList [0, 1, 2] }
    plannedStates :=
      [{ dfPressureX100 := 300000, contributorCount := 1, taskCount := 1, migrationBudget := 1 },
       { migrationBudget := 1 }, { migrationBudget := 1 }]
    llcStates := List.replicate 3 (some { sampleTsNs := 1000, valid := 1 })
    dfStates :=
      [some { sampleTsNs := 1000, valid := 1, rawReadBwMibSX100 := 1000000 },
       some { sampleTsNs := 1000, valid := 1, rawReadBwMibSX100 := 2000001 },
       some { sampleTsNs := 1000, valid := 1, rawReadBwMibSX100 := 3500000 }]
    cpuStates := [{ currentTid := 1001 }, {}, { idle := 1 }]
    cpuUtilsX100 := []
    plannedCpuStates := [{}, {}, {}]
    allowedCpus := .ofList [0, 1, 2]
    cfg := { balanceContext.cfg with migrateMarginX100 := 1000 } }

/-- Without the busy CPU the task moves. -/
def uncontestedContext : PlacementContext :=
  { contestedContext with allowedCpus := .ofList [0, 2] }

theorem choosePlacement_move_pays_uncontested :
    ∃ view ∈ uncontestedContext.admittedViews, view.candidate.domain = 2 ∧
      (choosePlacementWithPlannedCpus uncontestedContext).selectedCpu = some view.candidate.cpu ∧
      view.candidate.cost.cmpForPlacement view.baselineCost = .lt ∧
      (∀ other ∈ uncontestedContext.admittedViews, view.candidate.cmp other.candidate ≠ .gt) ∧
      (view.candidate.cost.hardConstraint = view.baselineCost.hardConstraint →
        view.candidate.cost.softCost ≤ view.baselineCost.softCost -
          view.baselineCost.softCost * uncontestedContext.scaledMarginX100 0 / 10000) :=
  PlacementContext.choosePlacement_move_pays rfl (by decide +kernel) (by decide)
    (by decide +kernel) (by decide +kernel) (by decide +kernel)

theorem choosePlacement_marginNotMet_contested :
    ∃ best ∈ contestedContext.admittedViews,
      (∀ other ∈ contestedContext.admittedViews, best.candidate.cmp other.candidate ≠ .gt) ∧
      ∀ other ∈ contestedContext.admittedViews,
        other.baselineCost.cmpForPlacement best.baselineCost ≠ .gt →
        other.candidate.cost.clearsMarginAgainst other.baselineCost
          contestedContext.migrateMarginX100 = false :=
  PlacementContext.choosePlacement_marginNotMet (by decide +kernel)

/-- The task stays for the margin that the busy CPU misses, although the idle
CPU clears it. -/
theorem not_marginNotMet_final :
    ¬ ∀ (ctx : PlacementContext) (source : Nat), ctx.currentDomain = some source →
      source ∉ ctx.mapping.excludedDomains →
      (choosePlacementWithPlannedCpus ctx).reason = .marginNotMet →
      ∀ view ∈ ctx.admittedViews,
        view.candidate.cost.clearsMarginAgainst view.baselineCost ctx.migrateMarginX100 = false := by
  intro final
  have cleared : (contestedContext.admittedView 2).map (fun view =>
      view.candidate.cost.clearsMarginAgainst view.baselineCost
        contestedContext.migrateMarginX100) = some true := by
    decide +kernel
  obtain ⟨view, found, clears⟩ := Option.map_eq_some_iff.mp cleared
  have listed : view ∈ contestedContext.admittedViews :=
    PlacementContext.mem_admittedViews.mpr ⟨2, by decide +kernel, found⟩
  have refused := final contestedContext 0 rfl (by decide +kernel) (by decide +kernel) view listed
  rw [clears] at refused
  cases refused

end CSwitch.Policy
