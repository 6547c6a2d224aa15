import CSwitch.Arcas.Loop

/-! The controller of the ARCAS scheduler. It spreads the pending threads over a
number of domains that follows their near-cache traffic, and gives every thread
a target domain and a target CPU in it. -/

set_option autoImplicit false

namespace CSwitch.Arcas

open Std (TreeMap TreeSet)
open Policy

def usizeMax : Nat := u64Max

structure ArcasConfig where
  intervalMs : Nat
  remoteFillThresholdMibSX100 : Nat
  minDomains : Nat
  maxDomains : Nat
  step : Nat

/-- The whole state of the controller; the loop reads the part it extends. -/
structure ArcasController extends ArcasControllerState where
  spreadDomains : Nat := 0
  lastAdjustNs : Nat := 0
  rankByTid : TreeMap Nat Nat := ∅
  nextRank : Nat := 0
  lastRemoteFillMibSX100 : Nat := 0
  lastSampledThreadCount : Nat := 0

def eligibleDomainList (mapping : MappingInfo) : List Nat := mapping.eligibleDomains.toList

/-! ## Spread -/

namespace ArcasConfig

variable (cfg : ArcasConfig)

def effectiveMaxDomains (eligibleLen : Nat) : Nat :=
  let rawMax := if cfg.maxDomains = 0 then eligibleLen else cfg.maxDomains
  min (max rawMax 1) (max eligibleLen 1)

def clampSpreadDomains (spread eligibleLen : Nat) : Nat :=
  if eligibleLen = 0 then 0
  else
    let maxDomains := cfg.effectiveMaxDomains eligibleLen
    let minDomains := min (max cfg.minDomains 1) maxDomains
    max minDomains (min spread maxDomains)

end ArcasConfig

/-- Traffic from the near cache, and from all sources. -/
def directThreadFillTotals (thread : ManagedThreadState) : Nat × Nat :=
  let fill (source : Fin memSourceCount) :=
    max (thread.ewmaFillBwMibSX100.get source) (thread.lastFillBwMibSX100.get source)
  (fill memSourceNearCache,
    (List.finRange memSourceCount).foldl (fun total source => satAdd32 total (fill source)) 0)

def directRemoteFillSignal (threads : ThreadMap) (allowedCpusByTid : CpuSetMap) : Nat × Nat :=
  (allowedCpusByTid.keys.foldl (fun total tid =>
      match threads[tid]? with
      | none => total
      | some thread => satAdd64 total (directThreadFillTotals thread).1) 0,
    allowedCpusByTid.size)

/-! ## Domains -/

def unionAllowedCpus (allowedCpusByTid : CpuSetMap) : TreeSet Nat :=
  allowedCpusByTid.values.foldl (fun union cpus => cpus.foldl .insert union) ∅

def domainSlotCpus (topo : TopologyLayout) (domainId : Nat) (allowedUnion : TreeSet Nat) : List Nat :=
  (topo.domains[domainId]?.map fun domain =>
    domain.cpus.filter fun cpu => allowedUnion.isEmpty || allowedUnion.contains cpu).getD []

/-- How many of the capacities, from the front, reach `runnable`. -/
def coveringCount (runnable : Nat) : List Nat → Nat → Nat → Option Nat
  | [], _, _ => none
  | capacity :: rest, covered, index =>
      if satAdd64 covered capacity ≥ runnable then some (index + 1)
      else coveringCount runnable rest (satAdd64 covered capacity) (index + 1)

def minDomainsForRunnableLoad (topo : TopologyLayout) (eligibleDomains : List Nat)
    (allowedCpusByTid : CpuSetMap) : Nat :=
  let runnableThreads := allowedCpusByTid.size
  if runnableThreads = 0 then 0
  else
    let allowedUnion := unionAllowedCpus allowedCpusByTid
    let capacities := (eligibleDomains.map fun domain =>
      (domainSlotCpus topo domain allowedUnion).length).filter fun capacity => capacity > 0
    (coveringCount runnableThreads (capacities.insertionSort (· ≥ ·)) 0 0).getD
      eligibleDomains.length

/-- `desired` of the candidates, evenly spaced. -/
def sampleDomains (candidates : List Nat) (desired : Nat) : List Nat :=
  (List.range desired).foldl (fun selected index =>
    match candidates[index * candidates.length / desired]? with
    | none => selected
    | some domain => if selected.contains domain then selected else selected ++ [domain]) []

/-- `sort_by_key`, which is stable. -/
def sortByKey {key : Type} [LinearOrder key] (keyOf : Nat → key) (values : List Nat) : List Nat :=
  values.insertionSort fun left right => keyOf left ≤ keyOf right

/-- The eligible domains with a slot, or all of them. -/
def candidateDomains (topo : TopologyLayout) (eligibleDomains : List Nat)
    (allowedUnion : TreeSet Nat) : List Nat :=
  let usable := eligibleDomains.filter fun domain =>
    allowedUnion.isEmpty || !(domainSlotCpus topo domain allowedUnion).isEmpty
  if usable.isEmpty then eligibleDomains else usable

def selectActiveDomains (topo : TopologyLayout) (eligibleDomains : List Nat)
    (allowedCpusByTid : CpuSetMap) (spreadDomains : Nat) : List Nat :=
  if eligibleDomains.isEmpty || spreadDomains == 0 then []
  else
    let allowedUnion := unionAllowedCpus allowedCpusByTid
    let capacity (domain : Nat) := (domainSlotCpus topo domain allowedUnion).length
    let candidates := candidateDomains topo eligibleDomains allowedUnion
    let desired := min spreadDomains candidates.length
    if desired = candidates.length then candidates
    else
      let selected := sampleDomains candidates desired
      let runnableThreads := allowedCpusByTid.size
      let selectedCapacity :=
        selected.foldl (fun total domain => satAdd64 total (capacity domain)) 0
      if selected.length = desired ∧
          (runnableThreads = 0 ∨ selectedCapacity ≥ runnableThreads) then selected
      else
        (sortByKey (fun domain => toLex (OrderDual.toDual (capacity domain), domain))
          candidates).take desired

/-! ## Target plan -/

def rankOf (rankByTid : TreeMap Nat Nat) (tid : Nat) : Nat := rankByTid[tid]?.getD usizeMax

def rankedTidsForPlan (allowedCpusByTid : CpuSetMap) (rankByTid : TreeMap Nat Nat) : List Nat :=
  sortByKey (fun tid => toLex (rankOf rankByTid tid, tid)) allowedCpusByTid.keys

structure TargetPlan where
  targetDomainByTid : TreeMap Nat Nat := ∅
  targetCpuByTid : TreeMap Nat Nat := ∅
  slotCursorByDomain : TreeMap Nat Nat := ∅
  usedCpus : TreeSet Nat := ∅

/-- The next allowed slot from the cursor on, first among the CPUs that no thread
has taken yet. -/
def slotCpu (cpus : List Nat) (allowedCpus usedCpus : TreeSet Nat) (cursor : Nat) : Option Nat :=
  [false, true].findSome? fun allowReserved =>
    (List.range cpus.length).findSome? fun slotOffset =>
      cpus[(cursor + slotOffset) % cpus.length]?.filter fun cpu =>
        allowedCpus.contains cpu && (allowReserved || !usedCpus.contains cpu)

def chooseSlot (topo : TopologyLayout) (activeDomains : List Nat) (allowedUnion : TreeSet Nat)
    (plan : TargetPlan) (allowedCpus : TreeSet Nat) (rank : Nat) : Option (Nat × Nat) :=
  (List.range activeDomains.length).findSome? fun offset => do
    let domain ← activeDomains[(rank % activeDomains.length + offset) % activeDomains.length]?
    let cpu ← slotCpu (domainSlotCpus topo domain allowedUnion) allowedCpus plan.usedCpus
      (plan.slotCursorByDomain[domain]?.getD 0)
    some (domain, cpu)

/-- Any allowed CPU whose domain is active. -/
def chooseAnywhere (topo : TopologyLayout) (activeDomains : List Nat) (plan : TargetPlan)
    (allowedCpus : TreeSet Nat) : Option (Nat × Nat) :=
  [false, true].findSome? fun allowReserved =>
    allowedCpus.toList.findSome? fun cpu =>
      if !allowReserved && plan.usedCpus.contains cpu then none
      else ((topo.domainOfCpu cpu).filter activeDomains.contains).map fun domain => (domain, cpu)

def TargetPlan.record (plan : TargetPlan) (tid domain cpu : Nat) : TargetPlan :=
  { plan with
    targetDomainByTid := plan.targetDomainByTid.insert tid domain
    targetCpuByTid := plan.targetCpuByTid.insert tid cpu
    usedCpus := plan.usedCpus.insert cpu }

def planThread (topo : TopologyLayout) (activeDomains : List Nat) (allowedUnion : TreeSet Nat)
    (allowedCpusByTid : CpuSetMap) (rankByTid : TreeMap Nat Nat) (plan : TargetPlan) (tid : Nat) :
    TargetPlan :=
  match allowedCpusByTid[tid]? with
  | none => plan
  | some allowedCpus =>
      match chooseSlot topo activeDomains allowedUnion plan allowedCpus (rankOf rankByTid tid) with
      | some (domain, cpu) =>
          { plan with
            slotCursorByDomain := plan.slotCursorByDomain.insert domain
              (satAdd64 (plan.slotCursorByDomain[domain]?.getD 0) 1) }.record tid domain cpu
      | none =>
          match chooseAnywhere topo activeDomains plan allowedCpus with
          | some (domain, cpu) => plan.record tid domain cpu
          | none => plan

def buildTargetPlan (topo : TopologyLayout) (activeDomains : List Nat)
    (allowedCpusByTid : CpuSetMap) (rankByTid : TreeMap Nat Nat) : TreeMap Nat Nat × TreeMap Nat Nat :=
  if activeDomains.isEmpty || allowedCpusByTid.isEmpty then (∅, ∅)
  else
    let rankedTids := sortByKey (fun tid =>
      toLex ((allowedCpusByTid[tid]?.map (·.size)).getD usizeMax,
        toLex (rankOf rankByTid tid, tid))) (rankedTidsForPlan allowedCpusByTid rankByTid)
    let plan := rankedTids.foldl (planThread topo activeDomains
      (unionAllowedCpus allowedCpusByTid) allowedCpusByTid rankByTid) {}
    (plan.targetDomainByTid, plan.targetCpuByTid)

/-! ## Rebalancing -/

/-- What one call reads besides the topology, the mapping and the settings. -/
structure RebalanceCall where
  threads : ThreadMap
  allowedCpusByTid : CpuSetMap
  nowNs : Nat

/-- The controller while a call is under way, whether the spread was adjusted, and
whether the targets have to be planned anew. -/
structure Rebalancing where
  controller : ArcasController
  adjusted : Bool := false
  refreshTargets : Bool

namespace ArcasController

def new (mapping : MappingInfo) (cfg : ArcasConfig) : ArcasController :=
  let eligible := eligibleDomainList mapping
  let spreadDomains := cfg.clampSpreadDomains (max cfg.minDomains 1) eligible.length
  { activeDomains := eligible.take spreadDomains
    targetDomainByTid := ∅
    targetCpuByTid := ∅
    spreadDomains }

/-- Only threads that are pending now keep their rank and their targets. -/
def retain (controller : ArcasController) (allowedCpusByTid : CpuSetMap) : ArcasController :=
  { controller with
    rankByTid := controller.rankByTid.filter fun tid _ => allowedCpusByTid.contains tid
    targetDomainByTid :=
      controller.targetDomainByTid.filter fun tid _ => allowedCpusByTid.contains tid
    targetCpuByTid := controller.targetCpuByTid.filter fun tid _ => allowedCpusByTid.contains tid }

def prunedState (before after : ArcasController) : Bool :=
  before.rankByTid.size != after.rankByTid.size ||
    before.targetDomainByTid.size != after.targetDomainByTid.size ||
    before.targetCpuByTid.size != after.targetCpuByTid.size

def rankThread (controller : ArcasController) (tid : Nat) : ArcasController :=
  if controller.rankByTid.contains tid then controller
  else
    { controller with
      rankByTid := controller.rankByTid.insert tid controller.nextRank
      nextRank := satAdd64 controller.nextRank 1 }

def needsTargets (controller : ArcasController) : Bool :=
  controller.activeDomains.isEmpty || controller.targetDomainByTid.isEmpty ||
    controller.targetCpuByTid.isEmpty

def ready (controller : ArcasController) (cfg : ArcasConfig) (nowNs : Nat) : Bool :=
  controller.lastAdjustNs == 0 ||
    decide (nowNs - controller.lastAdjustNs ≥ satMul64 cfg.intervalMs 1000000)

def retarget (controller : ArcasController) (topo : TopologyLayout) (eligible : List Nat)
    (allowedCpusByTid : CpuSetMap) (cfg : ArcasConfig) : ArcasController :=
  let spread := cfg.clampSpreadDomains controller.spreadDomains eligible.length
  let activeDomains := selectActiveDomains topo eligible allowedCpusByTid spread
  let (targetDomainByTid, targetCpuByTid) :=
    buildTargetPlan topo activeDomains allowedCpusByTid controller.rankByTid
  { controller with activeDomains, targetDomainByTid, targetCpuByTid }

end ArcasController

namespace Rebalancing

variable (state : Rebalancing) (cfg : ArcasConfig) (capacityFloor eligibleLen : Nat)

def fillSpread : Rebalancing :=
  if state.controller.spreadDomains = 0 then
    { state with
      controller := { state.controller with
        spreadDomains :=
          cfg.clampSpreadDomains (max (max cfg.minDomains capacityFloor) 1) eligibleLen }
      refreshTargets := true }
  else state

def requireSpread : Rebalancing :=
  let requiredSpread := cfg.clampSpreadDomains
    (max (max state.controller.spreadDomains capacityFloor) (max cfg.minDomains 1)) eligibleLen
  if requiredSpread ≠ state.controller.spreadDomains then
    { controller := { state.controller with spreadDomains := requiredSpread }
      adjusted := true
      refreshTargets := true }
  else state

/-- The spread after a sample: wider above the traffic threshold, else narrower. -/
def followSignal (call : RebalanceCall) : Rebalancing :=
  let (remoteFill, sampledCount) := directRemoteFillSignal call.threads call.allowedCpusByTid
  let spread := state.controller.spreadDomains
  let next :=
    if sampledCount > 0 then
      let next := if remoteFill ≥ cfg.remoteFillThresholdMibSX100 then satAdd64 spread cfg.step
        else spread - cfg.step
      cfg.clampSpreadDomains (max next capacityFloor) eligibleLen
    else spread
  { controller := { state.controller with
      spreadDomains := next
      lastRemoteFillMibSX100 := remoteFill
      lastSampledThreadCount := sampledCount
      lastAdjustNs := call.nowNs }
    adjusted := state.adjusted || next != spread
    refreshTargets := true }

end Rebalancing

/-- The first part of a call: who is pending, and the spread. -/
def adjustSpread (topo : TopologyLayout) (mapping : MappingInfo) (cfg : ArcasConfig)
    (controller : ArcasController) (call : RebalanceCall) : Rebalancing :=
  let eligible := eligibleDomainList mapping
  let retained := controller.retain call.allowedCpusByTid
  let ranked := call.allowedCpusByTid.keys.foldl .rankThread retained
  let capacityFloor := minDomainsForRunnableLoad topo eligible call.allowedCpusByTid
  let state : Rebalancing :=
    { controller := ranked
      refreshTargets := ranked.needsTargets || controller.prunedState retained }
  let filled := state.fillSpread cfg capacityFloor eligible.length
  let ready := filled.controller.ready cfg call.nowNs
  let required := filled.requireSpread cfg capacityFloor eligible.length
  if ready then required.followSignal cfg capacityFloor eligible.length call else required

/-- `maybe_rebalance`: the controller after the call, and whether the spread was
adjusted. -/
def maybeRebalance (topo : TopologyLayout) (mapping : MappingInfo) (cfg : ArcasConfig)
    (controller : ArcasController) (call : RebalanceCall) : ArcasController × Bool :=
  let eligible := eligibleDomainList mapping
  if eligible.isEmpty then
    ({ controller with
        spreadDomains := 0
        activeDomains := []
        targetDomainByTid := ∅
        targetCpuByTid := ∅
        rankByTid := ∅ }, false)
  else
    let state := adjustSpread topo mapping cfg controller call
    (if state.refreshTargets then
        state.controller.retarget topo eligible call.allowedCpusByTid cfg
      else state.controller,
      state.adjusted)

def rebalanceStep (topo : TopologyLayout) (mapping : MappingInfo) (cfg : ArcasConfig)
    (controller : ArcasController) (call : RebalanceCall) : ArcasController :=
  (maybeRebalance topo mapping cfg controller call).1

/-- The controller after a sequence of calls. -/
def rebalanceRun (topo : TopologyLayout) (mapping : MappingInfo) (cfg : ArcasConfig)
    (calls : List RebalanceCall) : ArcasController :=
  calls.foldl (rebalanceStep topo mapping cfg) (.new mapping cfg)

end CSwitch.Arcas
