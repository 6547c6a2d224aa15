import CSwitch.Planner.State

/-! What an assignment means and what it costs: where each member would run,
which assignments are legal, and the evaluation the optimizer compares. -/

set_option autoImplicit false

namespace CSwitch.Planner

open Std (TreeMap TreeSet)
open Policy

/-! ## Meaning and legality -/

def targetDomainForHome : Assignment → Option Nat → Option Nat
  | .currentHome, currentDomain => currentDomain
  | .domain domain, _ => some domain

def effectiveMemberDomain (tid : Nat) (state : PlannerState) : Option Nat := do
  let itemIndex ← state.itemIndexByTid[tid]?
  let assignment ← state.assignments[itemIndex]?
  let member ← state.members[tid]?
  targetDomainForHome assignment member.currentDomain

def moveAllowed (member : MemberView) (currentDomain targetDomain : Nat)
    (snapshot : PlannerInput) : Bool :=
  if currentDomain = targetDomain then true
  else if !member.allowedDomains.contains targetDomain then false
  else if snapshot.mapping.excludedDomains.contains currentDomain then true
  else
    match snapshot.threads[member.tid]? with
    | none => false
    | some thread =>
        if snapshot.nowNs < thread.settleUntilNs then false
        else if snapshot.nowNs < thread.reverseProtectUntilNs ∧
            thread.lastMigrationToDomain = some currentDomain ∧
            thread.lastMigrationFromDomain = some targetDomain then false
        else true

/-- `candidate_allowed` for one member of an item going to a domain. -/
def memberMayTake (members : MemberMap) (snapshot : PlannerInput) (targetDomain tid : Nat) : Bool :=
  match members[tid]? with
  | none => false
  | some member =>
      let currentDomain := member.currentDomain.getD targetDomain
      currentDomain == targetDomain || moveAllowed member currentDomain targetDomain snapshot

def candidateAllowed (itemIndex : Nat) (assignment : Assignment) (snapshot : PlannerInput)
    (state : PlannerState) : Bool :=
  match state.items[itemIndex]? with
  | none => false
  | some item =>
      match assignment with
      | .currentHome =>
          item.memberTids.all fun tid => (state.members[tid]?.bind (·.currentDomain)).isSome
      | .domain targetDomain =>
          item.allowedDomains.contains targetDomain &&
            item.memberTids.all (memberMayTake state.members snapshot targetDomain)

/-! ## Slots -/

structure PredictedSlots where
  cpuSet : TreeSet Nat := ∅
  affinityGroups : TreeMap (List Nat) Nat := ∅

def PredictedSlots.add (slots : PredictedSlots) (cpus : TreeSet Nat) : PredictedSlots where
  cpuSet := slots.cpuSet.insertMany cpus.toList
  affinityGroups :=
    slots.affinityGroups.insert cpus.toList ((slots.affinityGroups[cpus.toList]?.getD 0) + 1)

/-- An out-of-range domain is ignored. -/
def addPredictedMemberCpuSlots (slots : List PredictedSlots) (member : MemberView)
    (targetDomain : Option Nat) : List PredictedSlots :=
  match targetDomain with
  | none => slots
  | some domain => slots.modify domain (·.add (member.allowedCpusByDomain[domain]?.getD ∅))

def affinityGroupSlotConstraint (groups : TreeMap (List Nat) Nat) : SlotCapacityConstraint :=
  groups.toList.foldl (fun acc group => acc.combine (taskSlotConstraint group.2 group.1.length))
    .withinCapacity

/-- The domain an active member is predicted in, under a choice of assignments. -/
def predictedDomain (state : PlannerState) (assignmentOf : Nat → Option Assignment)
    (member : MemberView) : Option Nat :=
  (state.itemIndexByTid[member.tid]?.bind fun index =>
    (assignmentOf index).bind fun assignment =>
      targetDomainForHome assignment member.currentDomain).or member.baselineDomain

def predictedSlots (state : PlannerState) (assignmentOf : Nat → Option Assignment) :
    List PredictedSlots :=
  (state.members.values.filter (·.active)).foldl (fun slots member =>
    addPredictedMemberCpuSlots slots member (predictedDomain state assignmentOf member))
    (List.replicate state.domains.length {})

/-! ## Totals -/

def placedMembers (state : PlannerState) : List (MemberView × Nat) :=
  (state.items.zip state.assignments).flatMap fun (item, assignment) =>
    item.memberTids.filterMap fun tid => do
      let member ← state.members[tid]?
      let targetDomain ← targetDomainForHome assignment member.currentDomain
      pure (member, targetDomain)

def collectAssignmentTotals (state : PlannerState) : AssignmentTotals :=
  let domainCount := state.domains.length
  let placed := placedMembers state
  let active := placed.filter (·.1.active)
  let migrating := placed.filter fun entry => entry.1.currentDomain != some entry.2
  let slots := predictedSlots state (state.assignments[·]?)
  { assignedDfX100 := tally domainCount placed (some ·.2) (·.1.effectDfX100)
    assignedLlcX100 := tally domainCount placed (some ·.2) (·.1.effectLlcX100)
    assignedActiveTaskCount := tally domainCount active (some ·.2) fun _ => 1
    predictedCpuCapacity := slots.map (·.cpuSet.size)
    affinitySlotConstraint := slots.map fun slot => affinityGroupSlotConstraint slot.affinityGroups
    migrationsIn := tally domainCount migrating (some ·.2) fun _ => 1
    migrationsOut := tally domainCount migrating (·.1.currentDomain) fun _ => 1 }

/-! ## Evaluation -/

/-- The score of one domain, the body of the first loop of `evaluate_plan`. -/
def domainScore (model : DomainModel) (totals : AssignmentTotals) (domain : Nat) : DomainScore :=
  let assignedDfX100 := totals.assignedDfX100[domain]?.getD 0
  let migrationsIn := totals.migrationsIn[domain]?.getD 0
  let migrationsOut := totals.migrationsOut[domain]?.getD 0
  let nonScopedCurrentDf := model.currentManagedDfX100 - model.currentItemDfX100
  let predictedManagedDf := satAdd32 nonScopedCurrentDf assignedDfX100
  let predictedDf := satAdd32 model.liveDfX100 assignedDfX100 - model.currentItemDfX100
  let predictedLlc := min (satAdd32 model.liveLlcX100 (totals.assignedLlcX100[domain]?.getD 0) -
    model.currentItemLlcX100) 10000
  let predictedActiveTaskCount := satAdd32 model.currentActiveTaskCount
    (totals.assignedActiveTaskCount[domain]?.getD 0) - model.currentItemActiveTaskCount
  let overload := overloadX100WithCapacity predictedDf model.dfCapacityMibSX100
  let capacity := max model.dfCapacityMibSX100 1
  let balanceWeightX100 := min predictedDf capacity * 10000 / capacity
  let balanceCost :=
    satMul64 (domainSignatureBalancePenalty predictedManagedDf) balanceWeightX100 / 10000
  let cpuCapacity := totals.predictedCpuCapacity[domain]?.getD model.cpuCapacity
  let slotConstraint := (taskSlotConstraint predictedActiveTaskCount cpuCapacity).maxOf
    (totals.affinitySlotConstraint[domain]?.getD .withinCapacity)
  let migrationPenalty := decide (migrationsIn > model.migrationBudget) ||
    decide (migrationsOut > model.migrationBudget)
  { predictedDfX100 := predictedDf
    predictedLlcX100 := predictedLlc
    predictedActiveTaskCount
    predictedCpuCapacity := cpuCapacity
    overloadX100 := overload
    cost :=
      { dfOverloadCost := overloadCost overload overload
        llcPressureCost := satMul64 predictedLlc predictedLlc
        signatureBalanceCost := balanceCost
        hardConstraints :=
          { slotOverCapacity := slotConstraint
            migrationBudgetViolations := migrationPenalty.toNat
            syncSplitViolations := 0 } }
    migrationsIn
    migrationsOut
    migrationBudget := model.migrationBudget
    migrationPenalty }

def domainScores (state : PlannerState) : List DomainScore :=
  let totals := collectAssignmentTotals state
  state.domains.mapIdx fun domain model => domainScore model totals domain

def SyncConstraint.split (state : PlannerState) : SyncConstraint → Bool
  | .coLocateGroup _ tids =>
      decide ((TreeSet.ofList (tids.filterMap fun tid => effectiveMemberDomain tid state)).size > 1)
  | .residualPair left right =>
      let leftDomain := effectiveMemberDomain left state
      let rightDomain := effectiveMemberDomain right state
      leftDomain.isSome && rightDomain.isSome && leftDomain != rightDomain

def ConstraintViolations.note (violations : ConstraintViolations) :
    SyncConstraint → ConstraintViolations
  | .coLocateGroup tgid _ =>
      { violations with syncGroupSplits := violations.syncGroupSplits ++ [tgid] }
  | .residualPair left right =>
      { violations with residualPairSplits := violations.residualPairSplits ++ [(left, right)] }

def evaluatePlan (state : PlannerState) : PlanEvaluation :=
  let domains := domainScores state
  let cost : PlannerCostBreakdown :=
    domains.foldl (fun cost score => PlannerCostBreakdown.addSaturating cost score.cost) {}
  let splits := state.syncConstraints.filter (·.split state)
  let budgetDomains := (domains.mapIdx fun domain score => (domain, score)).filterMap
    fun entry => if entry.2.migrationPenalty then some entry.1 else none
  { cost := { cost with hardConstraints := { cost.hardConstraints with
      syncSplitViolations := satAdd32 cost.hardConstraints.syncSplitViolations splits.length } }
    domains
    violations := splits.foldl ConstraintViolations.note { migrationBudgetDomains := budgetDomains } }

/-! ## Legality of a move -/

section

variable {snapshot : PlannerInput} {state : PlannerState} {itemIndex targetDomain : Nat}

/-- What `candidate_allowed` checks of every member of an item sent to a domain. -/
structure MayTake (members : MemberMap) (snapshot : PlannerInput) (targetDomain tid : Nat)
    (member : MemberView) : Prop where
  found : members[tid]? = some member
  legal : ∀ home, member.currentDomain = some home → home ≠ targetDomain →
    targetDomain ∈ member.allowedDomains ∧
      (home ∉ snapshot.mapping.excludedDomains →
        ∃ thread, snapshot.threads[member.tid]? = some thread ∧
          thread.settleUntilNs ≤ snapshot.nowNs ∧
          ¬ (snapshot.nowNs < thread.reverseProtectUntilNs ∧
            thread.lastMigrationToDomain = some home ∧
            thread.lastMigrationFromDomain = some targetDomain))

theorem moveAllowed_iff {member : MemberView} {currentDomain : Nat}
    (moves : currentDomain ≠ targetDomain) :
    moveAllowed member currentDomain targetDomain snapshot = true ↔
      targetDomain ∈ member.allowedDomains ∧
        (currentDomain ∉ snapshot.mapping.excludedDomains →
          ∃ thread, snapshot.threads[member.tid]? = some thread ∧
            thread.settleUntilNs ≤ snapshot.nowNs ∧
            ¬ (snapshot.nowNs < thread.reverseProtectUntilNs ∧
              thread.lastMigrationToDomain = some currentDomain ∧
              thread.lastMigrationFromDomain = some targetDomain)) := by
  unfold moveAllowed
  simp only [moves, if_false, Bool.not_eq_true', ← TreeSet.contains_iff_mem, Bool.not_eq_true]
  cases member.allowedDomains.contains targetDomain with
  | false => simp
  | true =>
      cases snapshot.mapping.excludedDomains.contains currentDomain with
      | true => simp
      | false =>
          cases snapshot.threads[member.tid]? with
          | none => simp
          | some thread =>
              simp only [Option.some.injEq, exists_eq_left']
              grind

theorem memberMayTake_spec {members : MemberMap} {tid : Nat}
    (may : memberMayTake members snapshot targetDomain tid = true) :
    ∃ member, MayTake members snapshot targetDomain tid member := by
  unfold memberMayTake at may
  split at may
  · simp at may
  next member found =>
    refine ⟨member, found, ?_⟩
    intro home known moves
    have allowed : moveAllowed member home targetDomain snapshot = true := by
      simpa [known, moves] using may
    exact (moveAllowed_iff moves).mp allowed

theorem candidateAllowed_domain
    (allowed : candidateAllowed itemIndex (.domain targetDomain) snapshot state = true) :
    ∃ item, state.items[itemIndex]? = some item ∧ targetDomain ∈ item.allowedDomains ∧
      ∀ tid ∈ item.memberTids, ∃ member, MayTake state.members snapshot targetDomain tid member := by
  unfold candidateAllowed at allowed
  split at allowed
  · simp at allowed
  next item found =>
    simp only [Bool.and_eq_true, List.all_eq_true, TreeSet.contains_iff_mem] at allowed
    refine ⟨item, found, allowed.1, ?_⟩
    intro tid member
    exact memberMayTake_spec (allowed.2 tid member)

end

end CSwitch.Planner
