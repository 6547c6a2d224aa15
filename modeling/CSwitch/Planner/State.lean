import CSwitch.Planner.Input
import CSwitch.Planner.Cost
import CSwitch.Policy.Pipeline

/-! The planner's working state and how `build_state` fills it from a snapshot:
one member per thread, one item per thread or co-located group, and the load
already present in every domain. -/

set_option autoImplicit false

namespace CSwitch.Planner

open Std (TreeMap TreeSet)
open Policy

structure MemberView where
  tid : Nat
  tgid : Nat
  currentDomain : Option Nat
  baselineDomain : Option Nat
  allowedDomains : TreeSet Nat
  allowedCpusByDomain : CpuSetMap
  active : Bool
  syncQualified : Bool
  syncOverride : Bool
  effectDfX100 : Nat
  effectLlcX100 : Nat

structure PlannerItem where
  memberTids : List Nat
  allowedDomains : TreeSet Nat
  syncGroupId : Option Nat

inductive Assignment where
  | currentHome
  | domain (domain : Nat)
  deriving DecidableEq

inductive SyncConstraint where
  | coLocateGroup (tgid : Nat) (tids : List Nat)
  | residualPair (left right : Nat)

structure DomainModel where
  dfCapacityMibSX100 : Nat
  liveDfX100 : Nat
  liveLlcX100 : Nat
  currentManagedDfX100 : Nat
  currentManagedLlcX100 : Nat
  currentItemDfX100 : Nat
  currentItemLlcX100 : Nat
  currentActiveTaskCount : Nat
  currentItemActiveTaskCount : Nat
  cpuCapacity : Nat
  migrationBudget : Nat

abbrev MemberMap := TreeMap Nat MemberView

structure PlannerState where
  members : MemberMap
  items : List PlannerItem
  itemIndexByTid : TreeMap Nat Nat
  syncConstraints : List SyncConstraint
  domains : List DomainModel
  assignments : List Assignment

def PlannerState.assign (state : PlannerState) (itemIndex : Nat) (assignment : Assignment) :
    PlannerState :=
  { state with assignments := state.assignments.set itemIndex assignment }

@[simp] theorem PlannerState.assign_assign (state : PlannerState) (itemIndex : Nat)
    (first second : Assignment) :
    (state.assign itemIndex first).assign itemIndex second = state.assign itemIndex second := by
  simp [PlannerState.assign, List.set_set]

theorem PlannerState.assign_comm (state : PlannerState) {first second : Nat}
    (different : first ≠ second) (left right : Assignment) :
    ((state.assign first left).assign second right) =
      ((state.assign second right).assign first left) := by
  simp [PlannerState.assign, List.set_comm _ _ different]

theorem PlannerState.assign_of_getElem? {state : PlannerState} {itemIndex : Nat}
    {assignment : Assignment} (found : state.assignments[itemIndex]? = some assignment) :
    state.assign itemIndex assignment = state := by
  obtain ⟨bound, rfl⟩ := List.getElem?_eq_some_iff.mp found
  simp [PlannerState.assign]

structure PlannerScope where
  touchedTids : TreeSet Nat
  touchedDomains : TreeSet Nat

inductive PlanMode where
  | global
  | incremental (scope : PlannerScope)

def PlanMode.isGlobal : PlanMode → Bool
  | .global => true
  | .incremental _ => false

/-! ## Mode -/

def PlannerScope.touch (scope : PlannerScope) : PlannerTrigger → PlannerScope
  | .runnableDelta tid | .signatureChange tid =>
      { scope with touchedTids := scope.touchedTids.insert tid }
  | .domainStateFlip domain | .tickPressure domain =>
      { scope with touchedDomains := scope.touchedDomains.insert domain }
  | .sweepComplete _ => scope

def PlannerTrigger.isSweep : PlannerTrigger → Bool
  | .sweepComplete _ => true
  | _ => false

def resolvePlanMode (snapshot : PlannerInput) (triggers : List PlannerTrigger) : PlanMode :=
  if snapshot.previousPlan.isNone || triggers.any (·.isSweep) then .global
  else .incremental (triggers.foldl PlannerScope.touch ⟨∅, ∅⟩)

/-! ## Members -/

def syncNearCacheShareMinX100 : Nat := 4500
def syncDramNearShareMaxX100 : Nat := 1500
def syncNearCacheBwMinMibSX100 : Nat := 12800
def syncEwmaStallMinX100 : Nat := 3500
def syncStallDeltaMinX100 : Nat := 1000

def threadSyncQualified (thread : ManagedThreadState) : Bool :=
  let signature := thread.signature
  if !signature.valid then false
  else if !(signature.stable ||
      decide (signature.confidenceX100 ≥ signatureConfidenceThresholdX100)) then false
  else
    let nearCacheShare := signature.fillShareX100.get memSourceNearCache
    let dramNearShare := signature.fillShareX100.get memSourceDramNear
    let stallOk := decide (thread.ewmaStallPctX100 ≥ syncEwmaStallMinX100) ||
      decide (thread.lastStallDeltaPctX100 ≥ syncStallDeltaMinX100)
    decide (nearCacheShare ≥ syncNearCacheShareMinX100) &&
      decide (dramNearShare ≤ syncDramNearShareMaxX100) &&
      decide (signature.nearCacheBw ≥ syncNearCacheBwMinMibSX100) && stallOk

def syncQualifiedForPlanner (thread : ManagedThreadState) (disableAutoSyncHints : Bool)
    (syncTgidOverrides : TreeSet Nat) : Bool :=
  syncTgidOverrides.contains thread.tgid || (!disableAutoSyncHints && threadSyncQualified thread)

def allowedCpusByDomain (snapshot : PlannerInput) (allowedCpus : TreeSet Nat) : CpuSetMap :=
  allowedCpus.toList.foldl (fun byDomain cpu =>
    if !snapshot.mapping.eligibleCpus.contains cpu then byDomain
    else
      match snapshot.topo.domainOfCpu cpu with
      | none => byDomain
      | some domain => byDomain.insert domain ((byDomain[domain]?.getD ∅).insert cpu)) ∅

def previousPlanDomainForMember (tid : Nat) (currentDomain : Option Nat)
    (allowedDomains : TreeSet Nat) (snapshot : PlannerInput) : Option Nat := do
  let plan ← snapshot.previousPlan
  let entry ← plan.entries[tid]?
  let targetDomain := entry.targetDomain
  if targetDomain ≥ snapshot.topo.domains.length then none
  else if allowedDomains.contains targetDomain || currentDomain == some targetDomain then
    some targetDomain
  else none

def baselineDomainForMember (tid : Nat) (currentDomain : Option Nat)
    (allowedDomains : TreeSet Nat) (snapshot : PlannerInput) (mode : PlanMode) : Option Nat :=
  if mode.isGlobal then currentDomain
  else (previousPlanDomainForMember tid currentDomain allowedDomains snapshot).or currentDomain

def memberView (config : PlannerConfig) (snapshot : PlannerInput) (mode : PlanMode) (tid : Nat)
    (thread : ManagedThreadState) : MemberView :=
  let currentDomain := threadHome thread
  let allowedDomains := snapshot.allowedDomainsOf tid
  let syncOverride := config.syncTgidOverrides.contains thread.tgid
  let effect := threadSignatureEffect thread
  { tid
    tgid := thread.tgid
    currentDomain
    baselineDomain := baselineDomainForMember tid currentDomain allowedDomains snapshot mode
    allowedDomains
    allowedCpusByDomain := allowedCpusByDomain snapshot (snapshot.allowedCpusOf tid)
    active := snapshot.pendingTids.contains tid || decide (thread.lastSeenNs ≥ snapshot.activeCutoffNs)
    syncQualified :=
      syncOverride || (!config.disableAutoSyncHints && threadSyncQualified thread)
    syncOverride
    effectDfX100 := effect.dfX100
    effectLlcX100 := effect.llcX100 }

def buildMembers (config : PlannerConfig) (snapshot : PlannerInput) (mode : PlanMode) : MemberMap :=
  snapshot.threads.map (memberView config snapshot mode)

/-! ## Items -/

def affectedTids (members : MemberMap) (snapshot : PlannerInput) (scope : PlannerScope) :
    TreeSet Nat :=
  let touchedDomains := scope.touchedTids.toList.foldl (fun domains tid =>
    match members[tid]?.bind (·.currentDomain) with
    | none => domains
    | some domain => domains.insert domain) scope.touchedDomains
  let peersOf (member : MemberView) : List Nat := (members.values.filter fun peer =>
    peer.active && peer.tgid == member.tgid && peer.syncQualified).map (·.tid)
  let byTid := scope.touchedTids.toList.foldl (fun (affected : TreeSet Nat) tid =>
    match members[tid]? with
    | none => affected.insert tid
    | some member => (affected.insert tid).insertMany (peersOf member)) ∅
  let affected := byTid.insertMany ((members.values.filter fun member =>
    member.active && (member.currentDomain.map touchedDomains.contains).getD false).map (·.tid))
  if affected.isEmpty then affected.insertMany snapshot.pendingTids.toList else affected

def targetTids (members : MemberMap) (snapshot : PlannerInput) : PlanMode → TreeSet Nat
  | .global => TreeSet.ofList ((members.values.filter (·.active)).map (·.tid))
  | .incremental scope => affectedTids members snapshot scope

def groupTids (members : MemberMap) (tids : TreeSet Nat) : TreeMap Nat (List Nat) :=
  tids.toList.foldl (fun perTgid tid =>
    match members[tid]? with
    | none => perTgid
    | some member =>
        if member.syncQualified && member.active then
          perTgid.insert member.tgid ((perTgid[member.tgid]?.getD []) ++ [tid])
        else perTgid) ∅

def memberDomains (members : MemberMap) (tid : Nat) : TreeSet Nat :=
  (members[tid]?.map (·.allowedDomains)).getD ∅

def commonDomains (members : MemberMap) : List Nat → TreeSet Nat
  | [] => ∅
  | tid :: rest => rest.foldl (fun common other => common ∩ memberDomains members other)
      (memberDomains members tid)

/-- Every pair of a list, in the order of two nested index loops. -/
def orderedPairs {α : Type} : List α → List (α × α)
  | [] => []
  | head :: tail => tail.map (fun other => (head, other)) ++ orderedPairs tail

structure ItemBuild where
  includedTids : TreeSet Nat := ∅
  items : List PlannerItem := []
  itemIndexByTid : TreeMap Nat Nat := ∅
  syncConstraints : List SyncConstraint := []

def membersDf (members : MemberMap) (tids : List Nat) : Nat :=
  (tids.filterMap (members[·]?)).foldl (fun acc member => satAdd32 acc member.effectDfX100) 0

/-- Whether a group becomes one item; the paper build also asks that some
common domain can carry the whole group. -/
def groupIsItem (features : BuildFeatures) (members : MemberMap) (snapshot : PlannerInput)
    (tids : List Nat) : Bool :=
  let common := commonDomains members tids
  !common.isEmpty && (!features.schedulerPaperGreedy ||
    ((common.toList.map snapshot.mapping.dfCapacityMibSX100).max?.map fun capacity =>
      decide (membersDf members tids ≤ capacity)).getD false)

def residualPairs (members : MemberMap) (tids : List Nat) : List SyncConstraint :=
  ((orderedPairs tids).filter fun pair =>
    !(memberDomains members pair.1 ∩ memberDomains members pair.2).isEmpty).map fun pair =>
      .residualPair pair.1 pair.2

def ItemBuild.addGroup (features : BuildFeatures) (members : MemberMap) (snapshot : PlannerInput)
    (build : ItemBuild) (group : Nat × List Nat) : ItemBuild :=
  let (tgid, tids) := group
  if tids.length < 2 then build
  else if groupIsItem features members snapshot tids then
    { includedTids := build.includedTids.insertMany tids
      items := build.items ++ [⟨tids, commonDomains members tids, some tgid⟩]
      itemIndexByTid := tids.foldl (fun index tid => index.insert tid build.items.length)
        build.itemIndexByTid
      syncConstraints := build.syncConstraints ++ [.coLocateGroup tgid tids] }
  else { build with syncConstraints := build.syncConstraints ++ residualPairs members tids }

/-- One tid of the scope that no group item includes. -/
def ItemBuild.addSingle (members : MemberMap) (build : ItemBuild) (tid : Nat) : ItemBuild :=
  if build.includedTids.contains tid then build
  else
    match members[tid]? with
    | none => build
    | some member =>
        { build with
          items := build.items ++
            [⟨[tid], member.allowedDomains, if member.syncQualified then some member.tgid else none⟩]
          itemIndexByTid := build.itemIndexByTid.insert tid build.items.length }

def buildItems (features : BuildFeatures) (members : MemberMap) (snapshot : PlannerInput)
    (mode : PlanMode) : ItemBuild :=
  let tids := targetTids members snapshot mode
  let grouped := (groupTids members tids).toList.foldl (ItemBuild.addGroup features members snapshot) {}
  tids.toList.foldl (ItemBuild.addSingle members) grouped

/-! ## Seed -/

/-- The one target that the previous plan gives to all the tids, if there is one. -/
def commonPreviousTarget (plan : PlacementPlan) : List Nat → Option Nat → Option Nat
  | [], target => target
  | tid :: rest, target =>
      match plan.entries[tid]? with
      | none => none
      | some entry =>
          match target with
          | none => commonPreviousTarget plan rest (some entry.targetDomain)
          | some existing =>
              if existing ≠ entry.targetDomain then none
              else commonPreviousTarget plan rest target

def seedAssignment (item : PlannerItem) (snapshot : PlannerInput) (members : MemberMap)
    (wasGlobal : Bool) : Assignment :=
  if wasGlobal then .currentHome
  else
    match snapshot.previousPlan.bind fun plan => commonPreviousTarget plan item.memberTids none with
    | none => .currentHome
    | some targetDomain =>
        if !item.allowedDomains.contains targetDomain && !item.memberTids.all fun tid =>
            members[tid]?.bind (·.currentDomain) == some targetDomain then .currentHome
        else .domain targetDomain

/-! ## Domain models -/

/-- Saturating per-domain sums: each entry adds its weight at its index. -/
def tally {α : Type} (domainCount : Nat) (entries : List α) (index : α → Option Nat)
    (weight : α → Nat) : List Nat :=
  entries.foldl (fun totals entry =>
    match index entry with
    | none => totals
    | some domain => totals.modify domain fun value => satAdd32 value (weight entry))
    (List.replicate domainCount 0)

def liveDfForDomain (state : Option CcmDfStateValue) (nowNs staleMs : Nat) : Nat :=
  match state with
  | none => 0
  | some sample =>
      if sample.valid ≠ 0 ∧ nowNs - sample.sampleTsNs ≤ satMul64 staleMs 1000000 then sample.bwX100
      else 0

def usableCpusByDomain (snapshot : PlannerInput) (members : MemberMap) (domainCount : Nat) :
    List (TreeSet Nat) :=
  (members.values.filter (·.active)).foldl (fun byDomain member =>
    (snapshot.allowedCpusOf member.tid).toList.foldl (fun byDomain cpu =>
      if !snapshot.mapping.eligibleCpus.contains cpu then byDomain
      else
        match snapshot.topo.domainOfCpu cpu with
        | none => byDomain
        | some domain => byDomain.modify domain (·.insert cpu)) byDomain)
    (List.replicate domainCount ∅)

def itemMembers (members : MemberMap) (items : List PlannerItem) : List MemberView :=
  (items.flatMap (·.memberTids)).filterMap (members[·]?)

def buildDomains (snapshot : PlannerInput) (members : MemberMap) (items : List PlannerItem) :
    List DomainModel :=
  let domainCount := snapshot.topo.domains.length
  let all := members.values
  let active := all.filter (·.active)
  let inScope := itemMembers members items
  let taskCount := tally domainCount all (·.currentDomain) fun _ => 1
  let managedDf := tally domainCount active (·.baselineDomain) (·.effectDfX100)
  let managedLlc := tally domainCount active (·.baselineDomain) (·.effectLlcX100)
  let activeCount := tally domainCount active (·.baselineDomain) fun _ => 1
  let itemDf := tally domainCount inScope (·.baselineDomain) (·.effectDfX100)
  let itemLlc := tally domainCount inScope (·.baselineDomain) (·.effectLlcX100)
  let itemActive := tally domainCount (inScope.filter (·.active)) (·.baselineDomain) fun _ => 1
  let usable := usableCpusByDomain snapshot members domainCount
  (List.range domainCount).map fun idx =>
    { dfCapacityMibSX100 := snapshot.mapping.dfCapacityMibSX100 idx
      liveDfX100 := (snapshot.dfStates[idx]?.map fun state =>
        liveDfForDomain state snapshot.nowNs snapshot.policy.dfStaleMs).getD 0
      liveLlcX100 := (snapshot.llcStates[idx]?.map fun state =>
        ((usableLlc state snapshot.nowNs snapshot.policy.llcStaleMs).map
          (·.ewmaPressurePctX100)).getD 0).getD 0
      currentManagedDfX100 := managedDf[idx]?.getD 0
      currentManagedLlcX100 := managedLlc[idx]?.getD 0
      currentItemDfX100 := itemDf[idx]?.getD 0
      currentItemLlcX100 := itemLlc[idx]?.getD 0
      currentActiveTaskCount := activeCount[idx]?.getD 0
      currentItemActiveTaskCount := itemActive[idx]?.getD 0
      cpuCapacity := (usable[idx]?.map (·.size)).getD 0
      migrationBudget := (taskCount[idx]?.map fun count => roundMigrationBudget (max count 1)).getD 0 }

def buildState (features : BuildFeatures) (config : PlannerConfig) (snapshot : PlannerInput)
    (mode : PlanMode) : PlannerState :=
  let members := buildMembers config snapshot mode
  let build := buildItems features members snapshot mode
  { members
    items := build.items
    itemIndexByTid := build.itemIndexByTid
    syncConstraints := build.syncConstraints
    domains := buildDomains snapshot members build.items
    assignments := build.items.map fun item =>
      seedAssignment item snapshot members mode.isGlobal }

def affectedDomainCount (state : PlannerState) : Nat :=
  (TreeSet.ofList ((itemMembers state.members state.items).filterMap (·.currentDomain))).size

def needsGlobalRebuild (state : PlannerState) (config : PlannerConfig) (mode : PlanMode) : Bool :=
  !mode.isGlobal && (decide (state.items.length > config.incrementalItemLimit) ||
    decide (affectedDomainCount state > config.incrementalDomainLimit))

end CSwitch.Planner
