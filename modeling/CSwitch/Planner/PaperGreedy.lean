import CSwitch.Planner.Evaluate

/-! The greedy seed of the paper build: items in order of decreasing demand are
packed one by one before the optimizer runs. -/

set_option autoImplicit false

namespace CSwitch.Planner

open Std (TreeMap TreeSet)
open Policy

structure PaperGreedyTotals where
  assignedDfX100 : List Nat
  assignedLlcX100 : List Nat
  assignedActiveTaskCount : List Nat

structure PaperGreedyDomainMetrics where
  afterDfX100 : Nat
  residualBeforeX100 : Nat
  dfOverloadAfterX100 : Nat
  afterLlcX100 : Nat
  slotExtra : Nat

/-- The load that no planned item explains. The third vector of the source,
the external task counts, is computed and never read. -/
structure ExternalLoad where
  dfX100 : List Nat
  llcX100 : List Nat

def externalLoad (state : PlannerState) : ExternalLoad where
  dfX100 := state.domains.map fun domain => domain.liveDfX100 - domain.currentManagedDfX100
  llcX100 := state.domains.map fun domain => domain.liveLlcX100 - domain.currentManagedLlcX100

def membersOfItem (itemIndex : Nat) (state : PlannerState) : List MemberView :=
  ((state.items[itemIndex]?.map (·.memberTids)).getD []).filterMap (state.members[·]?)

def itemDfDemandX100 (itemIndex : Nat) (state : PlannerState) : Nat :=
  (membersOfItem itemIndex state).foldl (fun acc member => satAdd32 acc member.effectDfX100) 0

def itemLlcDemandX100 (itemIndex : Nat) (state : PlannerState) : Nat :=
  (membersOfItem itemIndex state).foldl (fun acc member => satAdd32 acc member.effectLlcX100) 0

def itemCurrentDomains (itemIndex : Nat) (state : PlannerState) : TreeSet Nat :=
  TreeSet.ofList ((membersOfItem itemIndex state).filterMap (·.currentDomain))

/-- `update_item_assignment_in_paper_totals` with the operation that `add` selects. -/
def updateItemAssignmentInPaperTotals (combine : Nat → Nat → Nat) (totals : PaperGreedyTotals)
    (state : PlannerState) (itemIndex : Nat) (assignment : Assignment) : PaperGreedyTotals :=
  (membersOfItem itemIndex state).foldl (fun totals member =>
    match targetDomainForHome assignment member.currentDomain with
    | none => totals
    | some domain =>
        { assignedDfX100 := totals.assignedDfX100.modify domain (combine · member.effectDfX100)
          assignedLlcX100 := totals.assignedLlcX100.modify domain (combine · member.effectLlcX100)
          assignedActiveTaskCount :=
            if member.active then totals.assignedActiveTaskCount.modify domain (combine · 1)
            else totals.assignedActiveTaskCount }) totals

def addItemAssignmentToPaperTotals : PaperGreedyTotals → PlannerState → Nat → Assignment →
    PaperGreedyTotals :=
  updateItemAssignmentInPaperTotals satAdd32

def removeItemAssignmentFromPaperTotals : PaperGreedyTotals → PlannerState → Nat → Assignment →
    PaperGreedyTotals :=
  updateItemAssignmentInPaperTotals fun value effect => value - effect

def paperGreedyCandidateSlotConstraint (state : PlannerState) (itemIndex candidateDomain : Nat) :
    SlotCapacityConstraint :=
  let slots := predictedSlots state fun index =>
    if index = itemIndex then some (.domain candidateDomain) else state.assignments[index]?
  match slots[candidateDomain]? with
  | none => .withinCapacity
  | some slot =>
      let taskCount := slot.affinityGroups.values.foldl (· + ·) 0
      (taskSlotConstraint taskCount slot.cpuSet.size).maxOf
        (affinityGroupSlotConstraint slot.affinityGroups)

def paperGreedyDomainMetrics (state : PlannerState) (totals : PaperGreedyTotals)
    (external : ExternalLoad) (itemIndex domain : Nat) : Option PaperGreedyDomainMetrics :=
  let beforeDfX100 :=
    satAdd32 (external.dfX100[domain]?.getD 0) (totals.assignedDfX100[domain]?.getD 0)
  let afterDfX100 := satAdd32 beforeDfX100 (itemDfDemandX100 itemIndex state)
  let afterLlcX100 := min (satAdd32
    (satAdd32 (external.llcX100[domain]?.getD 0) (totals.assignedLlcX100[domain]?.getD 0))
    (itemLlcDemandX100 itemIndex state)) 10000
  state.domains[domain]?.map fun model =>
    { afterDfX100
      residualBeforeX100 := model.dfCapacityMibSX100 - beforeDfX100
      dfOverloadAfterX100 := afterDfX100 - model.dfCapacityMibSX100
      afterLlcX100
      slotExtra := (paperGreedyCandidateSlotConstraint state itemIndex domain).extraTasks }

/-- The one source domain of an item, when all its known homes agree. -/
def singleSourceDomain (itemIndex : Nat) (state : PlannerState) : Option Nat :=
  match (itemCurrentDomains itemIndex state).toList with
  | [domain] => some domain
  | _ => none

/-- Whether a domain is unknown or already carries more than its capacity. -/
def liveDfExceedsCapacity (state : PlannerState) (domain : Nat) : Bool :=
  (state.domains[domain]?.map fun model =>
    decide (model.liveDfX100 > model.dfCapacityMibSX100)).getD true

def paperGreedyUnderSubscribedStayDomain (state : PlannerState) (totals : PaperGreedyTotals)
    (external : ExternalLoad) (itemIndex : Nat) (legalDomains : List Nat) : Option Nat := do
  let sourceDomain ← singleSourceDomain itemIndex state
  if !legalDomains.contains sourceDomain then none
  else if liveDfExceedsCapacity state sourceDomain then none
  else
    let metrics ← paperGreedyDomainMetrics state totals external itemIndex sourceDomain
    let model ← state.domains[sourceDomain]?
    if metrics.afterDfX100 ≤ model.dfCapacityMibSX100 ∧ metrics.slotExtra = 0 then some sourceDomain
    else none

def paperGreedyLegalDomains (snapshot : PlannerInput) (state : PlannerState) (itemIndex : Nat) :
    List Nat :=
  ((state.items[itemIndex]?.map (·.allowedDomains.toList)).getD []).filter fun domain =>
    candidateAllowed itemIndex (.domain domain) snapshot state

def choosePaperGreedyDomain (snapshot : PlannerInput) (state : PlannerState)
    (totals : PaperGreedyTotals) (external : ExternalLoad) (itemIndex : Nat) : Option Nat :=
  let sourceDomains := itemCurrentDomains itemIndex state
  let legalDomains := paperGreedyLegalDomains snapshot state itemIndex
  (paperGreedyUnderSubscribedStayDomain state totals external itemIndex legalDomains).or <|
    ((legalDomains.filterMap fun domain =>
        (paperGreedyDomainMetrics state totals external itemIndex domain).map fun metrics =>
          (metrics, domain)).argmin fun entry =>
      toLex (entry.1.slotExtra, toLex (entry.1.dfOverloadAfterX100,
        toLex (OrderDual.toDual entry.1.residualBeforeX100, toLex (entry.1.afterLlcX100,
          toLex (!sourceDomains.contains entry.2, entry.2)))))).map (·.2)

def paperGreedyItemOrder (state : PlannerState) : List Nat :=
  let demands := (List.range state.items.length).filterMap fun itemIndex =>
    let demand := itemDfDemandX100 itemIndex state
    if demand > 0 then some (itemIndex, demand) else none
  (demands.insertionSort fun left right =>
    right.2 < left.2 ∨ (left.2 = right.2 ∧ left.1 ≤ right.1)).map (·.1)

def initialPaperTotals (state : PlannerState) : PaperGreedyTotals :=
  let zeros := List.replicate state.domains.length 0
  (List.range state.items.length).foldl (fun totals itemIndex =>
    addItemAssignmentToPaperTotals totals state itemIndex
      (state.assignments[itemIndex]?.getD .currentHome)) ⟨zeros, zeros, zeros⟩

structure PaperGreedyState where
  totals : PaperGreedyTotals
  state : PlannerState

/-- One item of the greedy order: taken out of the totals, placed, put back. -/
def seedItem (snapshot : PlannerInput) (external : ExternalLoad) (seed : PaperGreedyState)
    (itemIndex : Nat) : PaperGreedyState :=
  let state := seed.state
  let previousAssignment := state.assignments[itemIndex]?.getD .currentHome
  let totals :=
    removeItemAssignmentFromPaperTotals seed.totals state itemIndex previousAssignment
  match choosePaperGreedyDomain snapshot state totals external itemIndex with
  | none =>
      { totals := addItemAssignmentToPaperTotals totals state itemIndex previousAssignment
        state }
  | some targetDomain =>
      { totals := addItemAssignmentToPaperTotals totals state itemIndex (.domain targetDomain)
        state := state.assign itemIndex (.domain targetDomain) }

def applyPaperGreedySeed (snapshot : PlannerInput) (state : PlannerState) (wasGlobal : Bool) :
    PlannerState :=
  if !wasGlobal || state.items.isEmpty || state.assignments.length != state.items.length then state
  else
    ((paperGreedyItemOrder state).foldl (seedItem snapshot (externalLoad state))
      { totals := initialPaperTotals state, state }).state

def paperGreedyBlocksUnderSubscribedSoftMove (itemIndex targetDomain : Nat)
    (snapshot : PlannerInput) (state : PlannerState) : Bool :=
  match singleSourceDomain itemIndex state with
  | none => false
  | some sourceDomain =>
      if targetDomain = sourceDomain then false
      else if state.assignments[itemIndex]? ≠ some .currentHome ∧
          state.assignments[itemIndex]? ≠ some (.domain sourceDomain) then false
      else if liveDfExceedsCapacity state sourceDomain then false
      else if !candidateAllowed itemIndex (.domain sourceDomain) snapshot state then false
      else
        let baseline := evaluatePlan state
        let hard := baseline.cost.hardConstraints
        if hard.slotOverCapacity.extraTasks > 0 ∨ hard.migrationBudgetViolations > 0 ∨
            hard.syncSplitViolations > 0 then false
        else
          match baseline.domains[sourceDomain]?, state.domains[sourceDomain]? with
          | some source, some model =>
              decide (source.predictedDfX100 ≤ model.dfCapacityMibSX100) &&
                source.cost.hardConstraints.slotOverCapacity.extraTasks == 0
          | _, _ => false

/-! ## Where a greedy choice comes from -/

theorem choosePaperGreedyDomain_allowed {snapshot : PlannerInput} {state : PlannerState}
    {totals : PaperGreedyTotals} {external : ExternalLoad} {itemIndex domain : Nat}
    (chosen : choosePaperGreedyDomain snapshot state totals external itemIndex = some domain) :
    candidateAllowed itemIndex (.domain domain) snapshot state = true := by
  have legal : domain ∈ paperGreedyLegalDomains snapshot state itemIndex := by
    unfold choosePaperGreedyDomain at chosen
    dsimp only at chosen
    rcases Option.or_eq_some_iff.mp chosen with stays | ⟨_, packed⟩
    · unfold paperGreedyUnderSubscribedStayDomain at stays
      obtain ⟨source, _, stays⟩ := Option.bind_eq_some_iff.mp stays
      split at stays
      · simp at stays
      next listed =>
        split at stays
        · simp at stays
        · obtain ⟨metrics, _, stays⟩ := Option.bind_eq_some_iff.mp stays
          obtain ⟨model, _, stays⟩ := Option.bind_eq_some_iff.mp stays
          split at stays
          · obtain rfl := Option.some.inj stays
            simpa using listed
          · simp at stays
    · obtain ⟨entry, best, rfl⟩ := Option.map_eq_some_iff.mp packed
      obtain ⟨candidate, member, built⟩ := List.mem_filterMap.mp (List.argmin_mem best)
      obtain ⟨metrics, _, rfl⟩ := Option.map_eq_some_iff.mp built
      exact member
  exact (List.mem_filter.mp legal).2

/-! ## The items that are placed -/

theorem mem_paperGreedyItemOrder {state : PlannerState} {index : Nat} :
    index ∈ paperGreedyItemOrder state ↔
      index < state.items.length ∧ 0 < itemDfDemandX100 index state := by
  unfold paperGreedyItemOrder
  simp only [List.mem_map, List.mem_insertionSort, List.mem_filterMap, List.mem_range]
  constructor
  · rintro ⟨entry, ⟨other, bound, demands⟩, rfl⟩
    split at demands
    next positive =>
      obtain rfl := Option.some.inj demands
      exact ⟨bound, positive⟩
    · cases demands
  · rintro ⟨bound, positive⟩
    exact ⟨(index, itemDfDemandX100 index state), ⟨index, bound, if_pos positive⟩, rfl⟩

end CSwitch.Planner
