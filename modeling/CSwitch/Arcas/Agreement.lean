import CSwitch.Arcas.ControllerProperties
import CSwitch.Policy.AllowedCpu

/-! The controller chooses target CPUs among all allowed CPUs of a domain; the
placement looks only at eligible ones. They agree on the targets that survive
the placement's filter. -/

set_option autoImplicit false

namespace CSwitch.Arcas

open Std (TreeMap TreeSet)
open Policy Library

section Placement

variable {ctx : PlacementContext} {domain : Nat} {cpus : TreeSet Nat}

/-! ## Choices stay in the set they choose from -/

theorem chooseStayCpu_chosenFrom : ChosenFrom cpus (chooseStayCpu ctx domain cpus) := by
  have preferred : ChosenFrom cpus (preferredCpuInDomain ctx.task.currentCpu domain ctx.topo
      ctx.cpuStates ctx.cpuUtilsX100 cpus ctx.cfg.cpuHighUtilX100 ctx.taskTid) :=
    fun cpu chosen => (preferredCpuInDomain_legal chosen).1
  exact (chooseIdleCpuInDomain_chosenFrom.filter _).or <|
    (currentCpuInDomain_chosenFrom.filter _).or <|
    (preferred.filter _).or (PlacementContext.chooseIn_chosenFrom domain cpus)

theorem choosePreferredTargetCpu_legal {preferredCpu : Option Nat} {cpu : Nat}
    (chosen : choosePreferredTargetCpu ctx domain cpus preferredCpu = some cpu) :
    cpu ∈ cpus ∧ ctx.topo.domainOfCpu cpu = some domain := by
  obtain ⟨target, preferred, chosen⟩ := Option.bind_eq_some_iff.mp chosen
  split at chosen
  · cases chosen
  · dsimp only at chosen
    split at chosen
    · obtain rfl := Option.some.inj chosen
      exact preferredCpuInDomain_legal preferred
    · cases chosen

theorem chooseCpuForDomain_chosenFrom {preferredCpu : Option Nat} :
    ChosenFrom cpus (chooseCpuForDomain ctx domain cpus preferredCpu) := by
  have target : ChosenFrom cpus (choosePreferredTargetCpu ctx domain cpus preferredCpu) :=
    fun cpu chosen => (choosePreferredTargetCpu_legal chosen).1
  refine target.or ?_
  split
  · exact chooseStayCpu_chosenFrom
  · exact PlacementContext.chooseIn_chosenFrom domain cpus

/-! Where the tables agree, they stay in the domain, and a set without a CPU in it
leaves nothing to choose. -/

theorem listed_inDomain (consistent : ctx.topo.Consistent) {cpu : Nat}
    (listed : cpu ∈ domainCpusIn ctx.topo domain cpus) : cpu ∈ cpusInDomain ctx.topo cpus domain := by
  obtain ⟨inDomain, member⟩ := mem_domainCpusIn.mp listed
  exact Planner.mem_cpusInDomain.mpr ⟨member, (consistent cpu domain).mpr inDomain⟩

theorem chooseIn_inDomain (consistent : ctx.topo.Consistent) :
    ChosenFrom (cpusInDomain ctx.topo cpus domain) (ctx.chooseIn domain cpus) :=
  fun _ chosen => listed_inDomain consistent (chooseCpuInDomain_listed chosen)

theorem chooseStayCpu_inDomain (consistent : ctx.topo.Consistent) :
    ChosenFrom (cpusInDomain ctx.topo cpus domain) (chooseStayCpu ctx domain cpus) := by
  have idle : ChosenFrom (cpusInDomain ctx.topo cpus domain) (ctx.chooseIdleIn domain cpus) :=
    fun cpu chosen => listed_inDomain consistent (chooseIdleCpuInDomain_listed chosen)
  have current : ChosenFrom (cpusInDomain ctx.topo cpus domain)
      (currentCpuInDomain ctx.task.currentCpu domain ctx.topo cpus) :=
    fun cpu chosen => Planner.mem_cpusInDomain.mpr (currentCpuInDomain_legal chosen)
  have preferred : ChosenFrom (cpusInDomain ctx.topo cpus domain)
      (preferredCpuInDomain ctx.task.currentCpu domain ctx.topo ctx.cpuStates ctx.cpuUtilsX100 cpus
        ctx.cfg.cpuHighUtilX100 ctx.taskTid) :=
    fun cpu chosen => Planner.mem_cpusInDomain.mpr (preferredCpuInDomain_legal chosen)
  exact (idle.filter _).or <| (current.filter _).or <| (preferred.filter _).or <|
    chooseIn_inDomain consistent

theorem chooseCpuForDomain_inDomain (consistent : ctx.topo.Consistent) (preferredCpu : Option Nat) :
    ChosenFrom (cpusInDomain ctx.topo cpus domain)
      (chooseCpuForDomain ctx domain cpus preferredCpu) := by
  have target : ChosenFrom (cpusInDomain ctx.topo cpus domain)
      (choosePreferredTargetCpu ctx domain cpus preferredCpu) :=
    fun cpu chosen => Planner.mem_cpusInDomain.mpr (choosePreferredTargetCpu_legal chosen)
  refine target.or ?_
  split
  · exact chooseStayCpu_inDomain consistent
  · exact chooseIn_inDomain consistent

theorem eq_none_of_inDomain {chosen : Option Nat}
    (inDomain : ChosenFrom (cpusInDomain ctx.topo cpus domain) chosen)
    (elsewhere : ∀ cpu ∈ cpus, ctx.topo.domainOfCpu cpu ≠ some domain) : chosen = none := by
  refine Option.eq_none_iff_forall_not_mem.mpr fun cpu found => ?_
  obtain ⟨member, located⟩ := Planner.mem_cpusInDomain.mp (inDomain cpu found)
  exact elsewhere cpu member located

theorem chooseStayCpu_eq_none (consistent : ctx.topo.Consistent)
    (elsewhere : ∀ cpu ∈ cpus, ctx.topo.domainOfCpu cpu ≠ some domain) :
    chooseStayCpu ctx domain cpus = none :=
  eq_none_of_inDomain (chooseStayCpu_inDomain consistent) elsewhere

theorem firstAllowedCpuAndDomain_eq_none_iff {topo : TopologyLayout} :
    firstAllowedCpuAndDomain topo cpus = none ↔ ∀ cpu ∈ cpus, topo.domainOfCpu cpu = none := by
  simp [firstAllowedCpuAndDomain, List.findSome?_eq_none_iff]

/-! ## A target that the filter keeps -/

/-- The CPU is free for the task: idle, not loaded, run by no other thread, and
planned for no other. -/
structure FreeFor (ctx : PlacementContext) (cpu : Nat) : Prop where
  idle : ctx.idleCpu cpu = true
  unloaded : cpuUtilAt ctx.cpuUtilsX100 cpu < ctx.cfg.cpuHighUtilX100
  unoccupied : (cpuStateAt ctx.cpuStates cpu).currentTid = 0 ∨
    (cpuStateAt ctx.cpuStates cpu).currentTid = ctx.taskTid
  unplanned : ∀ tid ∈ (ctx.plannedCpuStates[cpu]?.map (·.jobs)).getD [], tid = ctx.taskTid

theorem choosePreferredTargetCpu_free {cpu : Nat} (allowed : cpu ∈ cpus)
    (inDomain : ctx.topo.domainOfCpu cpu = some domain) (small : cpu < 2147483648)
    (free : FreeFor ctx cpu) :
    choosePreferredTargetCpu ctx domain cpus (some cpu) = some cpu := by
  have preferred : preferredCpuInDomain cpu domain ctx.topo ctx.cpuStates ctx.cpuUtilsX100 cpus
      ctx.cfg.cpuHighUtilX100 ctx.taskTid = some cpu := by
    have occupied : ¬((cpuStateAt ctx.cpuStates cpu).currentTid ≠ 0 ∧
        (cpuStateAt ctx.cpuStates cpu).currentTid ≠ ctx.taskTid) := by
      rintro ⟨running, other⟩
      exact free.unoccupied.elim running other
    have unloaded := Nat.not_le_of_lt free.unloaded
    unfold preferredCpuInDomain
    simp [tryU32, TreeSet.contains_iff_mem.mpr allowed, inDomain, unloaded, occupied]
  have planned : ((ctx.plannedCpuStates[cpu]?.map (·.jobs)).getD []).all (· == ctx.taskTid) :=
    List.all_eq_true.mpr fun tid member => beq_iff_eq.mpr (free.unplanned tid member)
  have asCpu : ((some cpu).bind tryI32).getD (-1) = (cpu : Int) := by simp [tryI32, small]
  unfold choosePreferredTargetCpu
  rw [asCpu, preferred]
  simp only [Option.bind_eq_bind, Option.bind_some, free.idle, planned, Bool.or_true,
    Bool.not_true, Bool.false_eq_true, if_false, if_true]

theorem foldl_append_head (domains ordered : List Nat) (domain : Nat) :
    ∃ rest, domains.foldl (fun ordered domain =>
      if ordered.contains domain then ordered else ordered ++ [domain]) (domain :: ordered) =
        domain :: rest := by
  induction domains generalizing ordered with
  | nil => exact ⟨ordered, rfl⟩
  | cons head tail ih =>
      rw [List.foldl_cons]
      split
      · exact ih ordered
      · exact ih (ordered ++ [head])

/-- An active target domain is tried first. -/
theorem orderCandidateDomains_head {activeDomains : List Nat} (currentDomain : Option Nat)
    (active : domain ∈ activeDomains) :
    ∃ rest, orderCandidateDomains activeDomains (some domain) currentDomain = domain :: rest := by
  unfold orderCandidateDomains
  simp only [Option.filter_some, List.contains_iff_mem.mpr active, if_true, Option.toList_some]
  obtain ⟨kept, current⟩ :=
    foldl_append_head (currentDomain.filter activeDomains.contains).toList [] domain
  rw [current]
  exact foldl_append_head activeDomains kept domain

theorem activeDomainList_eligible {mapping : MappingInfo} {activeDomains : List Nat}
    (active : domain ∈ activeDomains)
    (eligible : ∀ domain ∈ activeDomains, domain ∈ mapping.eligibleDomains) :
    activeDomainList mapping activeDomains = activeDomains := by
  have kept : activeDomains.filter (fun domain => mapping.eligibleDomains.contains domain) =
      activeDomains :=
    List.filter_eq_self.mpr fun domain member => TreeSet.contains_iff_mem.mpr (eligible domain member)
  have nonempty : activeDomains.isEmpty = false :=
    List.isEmpty_eq_false_iff.mpr (List.ne_nil_of_mem active)
  simp only [activeDomainList, kept, nonempty, Bool.not_false, if_true]

/-- The fallback where no CPU of the set has a domain: CPU 0, unless the task is
on one of them. -/
structure FallsBackTo (ctx : PlacementContext) (cpus : TreeSet Nat) (activeDomains : List Nat)
    (domain cpu : Nat) : Prop where
  outside : ∀ other ∈ cpus, ctx.topo.domainOfCpu other = none
  away : ∀ other, taskCurrentCpu ctx.task = some other → other ∉ cpus
  cpuZero : cpu = 0
  home : (ctx.currentDomain.filter activeDomains.contains).getD 0 = domain

variable {targets : ArcasTargets} {cpu : Nat}

theorem choosePlacementWithTargets_kept
    (eligible : ∀ domain ∈ targets.activeDomains, domain ∈ ctx.mapping.eligibleDomains)
    (active : domain ∈ targets.activeDomains) (targetDomain : targets.targetDomain = some domain)
    (targetCpu : targets.targetCpu = some cpu)
    (inDomain : ctx.topo.domainOfCpu cpu = some domain) (small : cpu < 2147483648)
    (free : FreeFor ctx cpu) (allowed : cpu ∈ allowedEligibleCpus ctx.allowedCpus ctx.mapping) :
    (choosePlacementWithTargets ctx targets).selectedDomain = some domain ∧
      (choosePlacementWithTargets ctx targets).selectedCpu = some cpu := by
  obtain ⟨rest, ordered⟩ := orderCandidateDomains_head ctx.currentDomain active
  have chosen : chooseCpuForDomain ctx domain (allowedEligibleCpus ctx.allowedCpus ctx.mapping)
      (some cpu) = some cpu := by
    rw [chooseCpuForDomain, choosePreferredTargetCpu_free allowed inDomain small free, Option.some_or]
  unfold choosePlacementWithTargets
  dsimp only
  rw [activeDomainList_eligible active eligible, targetDomain, ordered, List.findSome?_cons,
    beq_self_eq_true, if_pos rfl, targetCpu, chosen]
  exact ⟨rfl, rfl⟩

theorem firstAllowedCpu_chosenFrom {topo : TopologyLayout} :
    ChosenFrom cpus ((firstAllowedCpuAndDomain topo cpus).map (·.1)) := by
  intro cpu chosen
  obtain ⟨⟨first, home⟩, found, rfl⟩ := Option.map_eq_some_iff.mp chosen
  obtain ⟨other, listed, found⟩ := List.exists_of_findSome?_eq_some found
  obtain ⟨_, _, same⟩ := Option.map_eq_some_iff.mp found
  obtain ⟨rfl, rfl⟩ := Prod.mk.inj same
  exact TreeSet.mem_toList.mp listed

theorem currentCpuFilter_chosenFrom :
    ChosenFrom cpus ((taskCurrentCpu ctx.task).filter cpus.contains) := by
  intro cpu chosen
  exact TreeSet.contains_iff_mem.mp (Option.filter_eq_some_iff.mp chosen).2

theorem fallbackDecision_iff (consistent : ctx.topo.Consistent) {activeDomains : List Nat}
    (filtered : cpu ∉ cpus) :
    ((fallbackDecision ctx activeDomains cpus).selectedDomain = some domain ∧
      (fallbackDecision ctx activeDomains cpus).selectedCpu = some cpu) ↔
      FallsBackTo ctx cpus activeDomains domain cpu := by
  unfold fallbackDecision
  dsimp only [placementDecision]
  constructor
  · rintro ⟨home, chosen⟩
    generalize stay : ((ctx.currentDomain.filter activeDomains.contains).or
      ((firstAllowedCpuAndDomain ctx.topo cpus).map (·.2))).getD 0 = stayDomain at home chosen
    have sources : ChosenFrom cpus ((chooseStayCpu ctx stayDomain cpus).or
        (((taskCurrentCpu ctx.task).filter cpus.contains).or
          ((firstAllowedCpuAndDomain ctx.topo cpus).map (·.1)))) :=
      chooseStayCpu_chosenFrom.or (currentCpuFilter_chosenFrom.or firstAllowedCpu_chosenFrom)
    rcases found : (chooseStayCpu ctx stayDomain cpus).or
        (((taskCurrentCpu ctx.task).filter cpus.contains).or
          ((firstAllowedCpuAndDomain ctx.topo cpus).map (·.1))) with _ | source
    · rw [found] at chosen
      obtain ⟨_, missing⟩ := Option.or_eq_none_iff.mp found
      obtain ⟨away, nowhere⟩ := Option.or_eq_none_iff.mp missing
      have none := Option.map_eq_none_iff.mp nowhere
      constructor
      · exact firstAllowedCpuAndDomain_eq_none_iff.mp none
      · intro other current member
        exact absurd (TreeSet.contains_iff_mem.mpr member)
          (Option.filter_eq_none_iff.mp away other current)
      · exact (Option.some.inj chosen).symm
      · rw [none, Option.map_none, Option.or_none] at stay
        exact stay.trans (Option.some.inj home)
    · rw [found] at chosen
      obtain rfl : source = cpu := Option.some.inj chosen
      exact absurd (sources source found) filtered
  · intro fallsBack
    have none := firstAllowedCpuAndDomain_eq_none_iff.mpr fallsBack.outside
    have elsewhere : ∀ other ∈ cpus, ctx.topo.domainOfCpu other ≠ some
        (((ctx.currentDomain.filter activeDomains.contains).or
          ((firstAllowedCpuAndDomain ctx.topo cpus).map (·.2))).getD 0) := by
      intro other member
      rw [fallsBack.outside other member]
      exact (Option.some_ne_none _).symm
    have away : (taskCurrentCpu ctx.task).filter cpus.contains = Option.none := by
      refine Option.filter_eq_none_iff.mpr fun other current => ?_
      simpa using fallsBack.away other current
    rw [chooseStayCpu_eq_none consistent elsewhere, none, away, fallsBack.cpuZero]
    simp [fallsBack.home]

theorem choosePlacementWithTargets_filtered (consistent : ctx.topo.Consistent)
    (eligible : ∀ domain ∈ targets.activeDomains, domain ∈ ctx.mapping.eligibleDomains)
    (active : domain ∈ targets.activeDomains)
    (filtered : cpu ∉ allowedEligibleCpus ctx.allowedCpus ctx.mapping) :
    ((choosePlacementWithTargets ctx targets).selectedDomain = some domain ∧
      (choosePlacementWithTargets ctx targets).selectedCpu = some cpu) ↔
      FallsBackTo ctx (allowedEligibleCpus ctx.allowedCpus ctx.mapping) targets.activeDomains domain
        cpu := by
  unfold choosePlacementWithTargets
  dsimp only
  rw [activeDomainList_eligible active eligible]
  rcases placed : (orderCandidateDomains targets.activeDomains targets.targetDomain
      ctx.currentDomain).findSome? (fun candidate =>
        (chooseCpuForDomain ctx candidate (allowedEligibleCpus ctx.allowedCpus ctx.mapping)
          (if some candidate == targets.targetDomain then targets.targetCpu else none)).map
          (candidateDecision ctx candidate)) with _ | decision
  · exact fallbackDecision_iff consistent filtered
  · obtain ⟨candidate, _, found⟩ := List.exists_of_findSome?_eq_some placed
    obtain ⟨chosen, picked, rfl⟩ := Option.map_eq_some_iff.mp found
    constructor
    · rintro ⟨_, same⟩
      obtain rfl : chosen = cpu := Option.some.inj same
      exact absurd (chooseCpuForDomain_chosenFrom chosen picked) filtered
    · intro fallsBack
      obtain ⟨member, located⟩ := Planner.mem_cpusInDomain.mp
        (chooseCpuForDomain_inDomain consistent _ chosen picked)
      rw [fallsBack.outside chosen member] at located
      cases located

end Placement

/-! ## The controller of a run -/

section Run

variable {topo : TopologyLayout} {mapping : MappingInfo} {cfg : ArcasConfig}

/-- The active domains are eligible, from the first call on. -/
theorem rebalanceRun_eligible (eligible : mapping.eligibleDomains.isEmpty = false)
    (calls : List RebalanceCall) :
    ∀ domain ∈ (rebalanceRun topo mapping cfg calls).activeDomains,
      domain ∈ mapping.eligibleDomains := by
  induction calls using List.reverseRecOn with
  | nil =>
      intro domain active
      exact TreeSet.mem_toList.mp (List.mem_of_mem_take active)
  | append_singleton calls call ih =>
      rw [rebalanceRun_append]
      cases rebalanceStep_cases topo cfg (rebalanceRun topo mapping cfg calls) call eligible with
      | planned _ _ sound => exact sound
      | kept _ frame =>
          rw [frame]
          exact ih

/-- What the loop hands to the placement for one thread. -/
def ArcasController.targetsOf (controller : ArcasController) (tid : Nat) : ArcasTargets where
  activeDomains := controller.activeDomains
  targetDomain := controller.targetDomainByTid[tid]?
  targetCpu := controller.targetCpuByTid[tid]?

theorem domainOfCpu_of_inDomain (consistent : topo.Consistent) {cpu domain : Nat}
    (inDomain : InDomain topo cpu domain) : topo.domainOfCpu cpu = some domain := by
  rcases inDomain with listed | found
  · exact (consistent cpu domain).mpr listed
  · exact found

/-- In every state of the controller, the placement selects a task's target, with
a CPU that is free for it, exactly when its filter of the allowed CPUs keeps that
CPU, or it has nothing to choose from and its fallback happens to be the target. -/
theorem choosePlacementWithTargets_agrees_iff (ctx : PlacementContext) (cfg : ArcasConfig)
    (consistent : ctx.topo.Consistent) (cpuIds : ctx.topo.cpuToDomain.length ≤ 2147483648)
    (eligible : ctx.mapping.eligibleDomains.isEmpty = false) (calls : List RebalanceCall)
    (domain cpu : Nat) :
    let controller := rebalanceRun ctx.topo ctx.mapping cfg calls
    let decision := choosePlacementWithTargets ctx (controller.targetsOf ctx.taskTid)
    let allowedCpus := allowedEligibleCpus ctx.allowedCpus ctx.mapping
    controller.targetDomainByTid[ctx.taskTid]? = some domain →
    controller.targetCpuByTid[ctx.taskTid]? = some cpu → FreeFor ctx cpu →
    ((decision.selectedDomain = some domain ∧ decision.selectedCpu = some cpu) ↔
      cpu ∈ allowedCpus ∨ FallsBackTo ctx allowedCpus controller.activeDomains domain cpu) := by
  intro controller decision allowedCpus targetDomain targetCpu free
  have sound : ∀ domain ∈ (controller.targetsOf ctx.taskTid).activeDomains,
      domain ∈ ctx.mapping.eligibleDomains :=
    rebalanceRun_eligible eligible calls
  have paired : PairedTarget ctx.topo controller ctx.taskTid :=
    rebalanceRun_paired eligible calls ctx.taskTid
  cases paired with
  | neither missing _ =>
      rw [missing] at targetDomain
      cases targetDomain
  | @both home slot found chosen active inDomain =>
      obtain rfl : home = domain := Option.some.inj (found.symm.trans targetDomain)
      obtain rfl : slot = cpu := Option.some.inj (chosen.symm.trans targetCpu)
      have located := domainOfCpu_of_inDomain consistent inDomain
      have small := (List.getElem?_eq_some_iff.mp (getFlat_eq_some.mp located)).1.trans_le cpuIds
      by_cases allowed : slot ∈ allowedCpus
      · have kept := choosePlacementWithTargets_kept sound active found chosen located small free allowed
        exact ⟨fun _ => .inl allowed, fun _ => kept⟩
      · rw [choosePlacementWithTargets_filtered consistent sound active allowed]
        exact ⟨.inr, fun either => either.resolve_left allowed⟩

end Run

/-! One domain of two idle CPUs, of which only the second is eligible; a thread
that may use both. -/

def halfMapping : MappingInfo := { lateMapping with eligibleCpus := .ofList [1] }

def halfContext (mapping : MappingInfo) : PlacementContext where
  task := { tid := 10, tgid := 10, currentCpu := 1, currentDomain := 0 }
  thread := none
  topo := lateTopology
  mapping := mapping
  plannedStates := []
  llcStates := []
  dfStates := []
  cpuStates := [{ idle := 1 }, { idle := 1 }]
  cpuUtilsX100 := []
  plannedCpuStates := []
  allowedCpus := .ofList [0, 1]
  nowNs := 10000000
  cfg := Planner.samplePolicy

theorem lateTopology_consistent : lateTopology.Consistent := by
  intro cpu domain
  match cpu, domain with
  | 0, 0 => decide
  | 1, 0 => decide
  | cpu + 2, 0 => simp [lateTopology, TopologyLayout.domainOfCpu]
  | 0, domain + 1 => simp [lateTopology, TopologyLayout.domainOfCpu]
  | 1, domain + 1 => simp [lateTopology, TopologyLayout.domainOfCpu]
  | cpu + 2, domain + 1 => simp [lateTopology, TopologyLayout.domainOfCpu]

theorem halfContext_free (mapping : MappingInfo) : FreeFor (halfContext mapping) 0 :=
  ⟨rfl, (by decide : 0 < 8500), .inl rfl, by simp [halfContext]⟩

theorem choosePlacementWithTargets_agrees_iff_late :
    let decision := choosePlacementWithTargets (halfContext lateMapping)
      ((rebalanceRun lateTopology lateMapping lateConfig [firstCall]).targetsOf 10)
    decision.selectedDomain = some 0 ∧ decision.selectedCpu = some 0 :=
  (choosePlacementWithTargets_agrees_iff (halfContext lateMapping) lateConfig
    lateTopology_consistent (by decide) (by decide +kernel) [firstCall] 0 0 (by decide +kernel)
    (by decide +kernel) (halfContext_free lateMapping)).mpr (.inl (by decide +kernel))

/-- The target is the first CPU; the placement selects the second. -/
theorem choosePlacementWithTargets_leaves_target :
    (rebalanceRun lateTopology halfMapping lateConfig [firstCall]).targetDomainByTid[10]? = some 0 ∧
    (rebalanceRun lateTopology halfMapping lateConfig [firstCall]).targetCpuByTid[10]? = some 0 ∧
    firstCall.allowedCpusByTid[10]? = some (halfContext halfMapping).allowedCpus ∧
    FreeFor (halfContext halfMapping) 0 ∧
    (choosePlacementWithTargets (halfContext halfMapping)
      ((rebalanceRun lateTopology halfMapping lateConfig [firstCall]).targetsOf 10)).selectedCpu =
        some 1 :=
  ⟨by decide +kernel, by decide +kernel, rfl, halfContext_free halfMapping, by decide +kernel⟩

end CSwitch.Arcas
