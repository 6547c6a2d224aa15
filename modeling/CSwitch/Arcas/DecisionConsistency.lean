import CSwitch.Arcas.TargetPlan

/-! The domain and the CPU of an ARCAS decision. A candidate gives both; without
one, they come from two chains of fallbacks, which agree only where the current
domain is not active, or by chance. -/

set_option autoImplicit false

namespace CSwitch.Arcas

open Std (TreeSet)
open Policy Library

/-- The selected CPU is allowed and lies in the selected domain. -/
def SelectsInDomain (ctx : PlacementContext) (decision : PlacementDecision) : Prop :=
  ∃ domain cpu, decision.selectedDomain = some domain ∧ decision.selectedCpu = some cpu ∧
    cpu ∈ ctx.allowedCpus ∧ ctx.topo.domainOfCpu cpu = some domain

/-- The two chains meet: an active domain has a CPU for the task; or the current
domain is not active, so the first CPU with a domain gives both; or no CPU has a
domain and CPU 0 happens to be in the default one. -/
inductive ChainsMeet (ctx : PlacementContext) (cpus : TreeSet Nat) (activeDomains : List Nat) :
    Prop where
  | candidate {domain cpu : Nat} (active : domain ∈ activeDomains) (member : cpu ∈ cpus)
      (inDomain : ctx.topo.domainOfCpu cpu = some domain) : ChainsMeet ctx cpus activeDomains
  | first {domain cpu : Nat} (inactive : ∀ home ∈ ctx.currentDomain, home ∉ activeDomains)
      (member : cpu ∈ cpus) (inDomain : ctx.topo.domainOfCpu cpu = some domain) :
      ChainsMeet ctx cpus activeDomains
  | cpuZero {domain : Nat} (fallsBack : FallsBackTo ctx cpus activeDomains domain 0)
      (allowed : 0 ∈ ctx.allowedCpus) (inDomain : ctx.topo.domainOfCpu 0 = some domain) :
      ChainsMeet ctx cpus activeDomains

section Placement

variable {ctx : PlacementContext} {cpus : TreeSet Nat} {activeDomains : List Nat} {domain cpu : Nat}

/-! ## Candidates -/

theorem mem_foldl_append {domains ordered : List Nat} :
    domain ∈ domains.foldl (fun ordered domain =>
      if ordered.contains domain then ordered else ordered ++ [domain]) ordered ↔
      domain ∈ ordered ∨ domain ∈ domains := by
  induction domains generalizing ordered with
  | nil => simp
  | cons head rest ih =>
      rw [List.foldl_cons, ih]
      split
      next known =>
        have listed : head ∈ ordered := by simpa using known
        constructor
        · exact fun either => either.imp id (List.mem_cons_of_mem head)
        · intro either
          rcases either with before | now
          · exact .inl before
          · rcases List.mem_cons.mp now with rfl | later
            · exact .inl listed
            · exact .inr later
      next fresh => rw [List.mem_append, List.mem_singleton, List.mem_cons, or_assoc]

/-- The candidates are the active domains, in another order. -/
theorem mem_orderCandidateDomains {targetDomain currentDomain : Option Nat} :
    domain ∈ orderCandidateDomains activeDomains targetDomain currentDomain ↔
      domain ∈ activeDomains := by
  unfold orderCandidateDomains
  dsimp only
  rw [mem_foldl_append, mem_foldl_append]
  constructor
  · intro either
    rcases either with (target | current) | active
    · have kept := (Option.filter_eq_some_iff.mp (Option.mem_toList.mp target)).2
      exact List.contains_iff_mem.mp kept
    · have kept := (Option.filter_eq_some_iff.mp (Option.mem_toList.mp current)).2
      exact List.contains_iff_mem.mp kept
    · exact active
  · exact .inr

theorem chooseIn_isSome (consistent : ctx.topo.Consistent) (member : cpu ∈ cpus)
    (inDomain : ctx.topo.domainOfCpu cpu = some domain) : (ctx.chooseIn domain cpus).isSome := by
  obtain ⟨info, found, listed⟩ := (consistent cpu domain).mp inDomain
  exact chooseCpuInDomain_isSome found listed member _ _ _ _ _

theorem chooseStayCpu_isSome (consistent : ctx.topo.Consistent) (member : cpu ∈ cpus)
    (inDomain : ctx.topo.domainOfCpu cpu = some domain) :
    (chooseStayCpu ctx domain cpus).isSome := by
  unfold chooseStayCpu
  simp only [Option.isSome_or, chooseIn_isSome consistent member inDomain, Bool.or_true]

theorem chooseCpuForDomain_isSome (consistent : ctx.topo.Consistent) (member : cpu ∈ cpus)
    (inDomain : ctx.topo.domainOfCpu cpu = some domain) (preferredCpu : Option Nat) :
    (chooseCpuForDomain ctx domain cpus preferredCpu).isSome := by
  have last : (if some domain == ctx.currentDomain then chooseStayCpu ctx domain cpus
      else ctx.chooseIn domain cpus).isSome := by
    split
    · exact chooseStayCpu_isSome consistent member inDomain
    · exact chooseIn_isSome consistent member inDomain
  unfold chooseCpuForDomain
  rw [Option.isSome_or, last, Bool.or_true]

/-! ## Fallback -/

theorem firstAllowedCpuAndDomain_spec {topo : TopologyLayout}
    (found : firstAllowedCpuAndDomain topo cpus = some (cpu, domain)) :
    cpu ∈ cpus ∧ topo.domainOfCpu cpu = some domain := by
  obtain ⟨other, listed, found⟩ := List.exists_of_findSome?_eq_some found
  obtain ⟨home, located, same⟩ := Option.map_eq_some_iff.mp found
  obtain ⟨rfl, rfl⟩ := Prod.mk.inj same
  exact ⟨TreeSet.mem_toList.mp listed, located⟩

theorem filter_eq_none_of_inactive (inactive : ∀ home ∈ ctx.currentDomain, home ∉ activeDomains) :
    ctx.currentDomain.filter activeDomains.contains = none := by
  refine Option.filter_eq_none_iff.mpr fun home current => ?_
  simpa using inactive home current

/-- Where the current domain is not active, the first CPU decides the domain, and
its domain has a CPU. -/
theorem fallbackDecision_first (consistent : ctx.topo.Consistent)
    (inactive : ∀ home ∈ ctx.currentDomain, home ∉ activeDomains)
    (found : firstAllowedCpuAndDomain ctx.topo cpus = some (cpu, domain)) :
    ∃ chosen ∈ cpus, ctx.topo.domainOfCpu chosen = some domain ∧
      (fallbackDecision ctx activeDomains cpus).selectedDomain = some domain ∧
      (fallbackDecision ctx activeDomains cpus).selectedCpu = some chosen := by
  obtain ⟨member, located⟩ := firstAllowedCpuAndDomain_spec found
  obtain ⟨chosen, stays⟩ :=
    Option.isSome_iff_exists.mp (chooseStayCpu_isSome consistent member located)
  obtain ⟨kept, inDomain⟩ :=
    Planner.mem_cpusInDomain.mp (chooseStayCpu_inDomain consistent chosen stays)
  refine ⟨chosen, kept, inDomain, ?_, ?_⟩
  · simp only [fallbackDecision, placementDecision, filter_eq_none_of_inactive inactive, found,
      Option.map_some, Option.none_or, Option.getD_some]
  · simp only [fallbackDecision, placementDecision, filter_eq_none_of_inactive inactive, found,
      Option.map_some, Option.none_or, Option.getD_some, stays, Option.some_or]

/-- The fallback selects a CPU of the set, or CPU 0 where it has nothing else. -/
theorem fallbackDecision_selectedCpu (consistent : ctx.topo.Consistent)
    (selectedDomain : (fallbackDecision ctx activeDomains cpus).selectedDomain = some domain)
    (selectedCpu : (fallbackDecision ctx activeDomains cpus).selectedCpu = some cpu) :
    cpu ∈ cpus ∨ FallsBackTo ctx cpus activeDomains domain 0 ∧ cpu = 0 := by
  by_cases member : cpu ∈ cpus
  · exact .inl member
  · have fallsBack := (fallbackDecision_iff consistent member).mp ⟨selectedDomain, selectedCpu⟩
    have zero := fallsBack.cpuZero
    subst zero
    exact .inr ⟨fallsBack, rfl⟩

/-! ## The decision -/

theorem mem_of_mem_allowedEligibleCpus {allowedCpus : TreeSet Nat} {mapping : MappingInfo}
    (member : cpu ∈ allowedEligibleCpus allowedCpus mapping) : cpu ∈ allowedCpus := by
  unfold allowedEligibleCpus at member
  dsimp only at member
  split at member
  · exact member
  · exact TreeSet.mem_of_mem_filter member

/-- A decision comes from an active domain with a CPU for the task, and from the
fallback only when there is none. -/
inductive DecidedBy (ctx : PlacementContext) (cpus : TreeSet Nat) (activeDomains : List Nat)
    (decision : PlacementDecision) : Prop where
  | candidate {domain cpu : Nat} (active : domain ∈ activeDomains) (member : cpu ∈ cpus)
      (inDomain : ctx.topo.domainOfCpu cpu = some domain)
      (decides : decision = candidateDecision ctx domain cpu) :
      DecidedBy ctx cpus activeDomains decision
  | fallback (elsewhere : ∀ domain ∈ activeDomains, ∀ cpu ∈ cpus,
        ctx.topo.domainOfCpu cpu ≠ some domain)
      (decides : decision = fallbackDecision ctx activeDomains cpus) :
      DecidedBy ctx cpus activeDomains decision

theorem choosePlacementWithTargets_decidedBy (consistent : ctx.topo.Consistent)
    (targets : ArcasTargets) :
    DecidedBy ctx (allowedEligibleCpus ctx.allowedCpus ctx.mapping)
      (activeDomainList ctx.mapping targets.activeDomains)
      (choosePlacementWithTargets ctx targets) := by
  unfold choosePlacementWithTargets
  dsimp only
  generalize allowedEligibleCpus ctx.allowedCpus ctx.mapping = cpus
  generalize activeDomainList ctx.mapping targets.activeDomains = activeDomains
  rcases placed : (orderCandidateDomains activeDomains targets.targetDomain
      ctx.currentDomain).findSome? (fun candidate =>
        (chooseCpuForDomain ctx candidate cpus
          (if some candidate == targets.targetDomain then targets.targetCpu else none)).map
          (candidateDecision ctx candidate)) with _ | decision
  · refine .fallback ?_ rfl
    intro domain active cpu member inDomain
    have tried := List.findSome?_eq_none_iff.mp placed domain (mem_orderCandidateDomains.mpr active)
    have chosen := chooseCpuForDomain_isSome consistent member inDomain
      (if some domain == targets.targetDomain then targets.targetCpu else none)
    rw [Option.map_eq_none_iff.mp tried] at chosen
    cases chosen
  · obtain ⟨candidate, listed, found⟩ := List.exists_of_findSome?_eq_some placed
    obtain ⟨chosen, picked, rfl⟩ := Option.map_eq_some_iff.mp found
    obtain ⟨member, inDomain⟩ := Planner.mem_cpusInDomain.mp
      (chooseCpuForDomain_inDomain consistent _ chosen picked)
    exact .candidate (mem_orderCandidateDomains.mp listed) member inDomain rfl

/-- The selected CPU is an allowed one of the selected domain exactly when the
chains that give the two meet. -/
theorem choosePlacementWithTargets_selectsInDomain_iff (ctx : PlacementContext)
    (targets : ArcasTargets) (consistent : ctx.topo.Consistent) :
    SelectsInDomain ctx (choosePlacementWithTargets ctx targets) ↔
      ChainsMeet ctx (allowedEligibleCpus ctx.allowedCpus ctx.mapping)
        (activeDomainList ctx.mapping targets.activeDomains) := by
  have allowed : ∀ cpu ∈ allowedEligibleCpus ctx.allowedCpus ctx.mapping, cpu ∈ ctx.allowedCpus :=
    fun _ member => mem_of_mem_allowedEligibleCpus member
  have decided := choosePlacementWithTargets_decidedBy consistent targets
  generalize choosePlacementWithTargets ctx targets = decision at decided ⊢
  generalize allowedEligibleCpus ctx.allowedCpus ctx.mapping = cpus at allowed decided ⊢
  generalize activeDomainList ctx.mapping targets.activeDomains = activeDomains at decided ⊢
  cases decided with
  | candidate active member inDomain decides =>
      subst decides
      apply iff_of_true
      · exact ⟨_, _, rfl, rfl, allowed _ member, inDomain⟩
      · exact .candidate active member inDomain
  | fallback elsewhere decides =>
      subst decides
      constructor
      · intro ⟨domain, cpu, selectedDomain, selectedCpu, inSet, inDomain⟩
        rcases fallbackDecision_selectedCpu consistent selectedDomain selectedCpu with
          member | ⟨fallsBack, rfl⟩
        · refine .first ?_ member inDomain
          -- an active current domain is selected, and has no CPU
          intro home current active
          have kept : ctx.currentDomain.filter activeDomains.contains = some home :=
            Option.filter_eq_some_iff.mpr ⟨current, List.contains_iff_mem.mpr active⟩
          have stays : some home = some domain := by
            rw [← selectedDomain]
            simp only [fallbackDecision, placementDecision, kept, Option.some_or, Option.getD_some]
          obtain rfl := Option.some.inj stays
          exact elsewhere home active cpu member inDomain
        · exact .cpuZero fallsBack inSet inDomain
      · intro meets
        cases meets with
        | candidate active member inDomain => exact absurd inDomain (elsewhere _ active _ member)
        | first inactive member inDomain =>
            cases found : firstAllowedCpuAndDomain ctx.topo cpus with
            | none =>
                have outside := firstAllowedCpuAndDomain_eq_none_iff.mp found _ member
                rw [outside] at inDomain
                cases inDomain
            | some pair =>
                obtain ⟨chosen, kept, located, selectedDomain, selectedCpu⟩ :=
                  fallbackDecision_first consistent inactive found
                exact ⟨_, chosen, selectedDomain, selectedCpu, allowed chosen kept, located⟩
        | cpuZero fallsBack inSet inDomain =>
            have filtered : 0 ∉ cpus := by
              intro member
              rw [fallsBack.outside 0 member] at inDomain
              cases inDomain
            obtain ⟨selectedDomain, selectedCpu⟩ :=
              (fallbackDecision_iff consistent filtered).mpr fallsBack
            exact ⟨_, 0, selectedDomain, selectedCpu, inSet, inDomain⟩

end Placement

/-! Two domains of one CPU each, of which only the first is active; a task that
runs there. -/

def pinnedContext (allowedCpus : TreeSet Nat) : PlacementContext where
  task := { tid := 10, tgid := 10, currentCpu := 0, currentDomain := 0 }
  thread := none
  topo := narrowTopology
  mapping := { lateMapping with eligibleDomains := .ofList [0, 1] }
  plannedStates := []
  llcStates := []
  dfStates := []
  cpuStates := []
  cpuUtilsX100 := []
  plannedCpuStates := []
  allowedCpus := allowedCpus
  nowNs := 10000000
  cfg := Planner.samplePolicy

def pinnedTargets : ArcasTargets := ⟨[0], none, none⟩

theorem narrowTopology_consistent : narrowTopology.Consistent := by
  intro cpu domain
  match cpu, domain with
  | 0, 0 => decide
  | 0, 1 => decide
  | 1, 0 => decide
  | 1, 1 => decide
  | cpu + 2, 0 => simp [narrowTopology, TopologyLayout.domainOfCpu]
  | cpu + 2, 1 => simp [narrowTopology, TopologyLayout.domainOfCpu]
  | 0, domain + 2 => simp [narrowTopology, TopologyLayout.domainOfCpu]
  | 1, domain + 2 => simp [narrowTopology, TopologyLayout.domainOfCpu]
  | cpu + 2, domain + 2 => simp [narrowTopology, TopologyLayout.domainOfCpu]

theorem choosePlacementWithTargets_selectsInDomain_iff_both :
    SelectsInDomain (pinnedContext (.ofList [0, 1]))
      (choosePlacementWithTargets (pinnedContext (.ofList [0, 1])) pinnedTargets) :=
  (choosePlacementWithTargets_selectsInDomain_iff _ pinnedTargets narrowTopology_consistent).mpr
    (.candidate (by decide +kernel : 0 ∈ _) (by decide +kernel : 0 ∈ _) rfl)

/-- Pinned to the second CPU, the task gets it together with the first domain. -/
theorem choosePlacementWithTargets_mixes :
    ¬∀ (ctx : PlacementContext) (targets : ArcasTargets), ctx.topo.Consistent →
      (∃ cpu ∈ ctx.allowedCpus, (ctx.topo.domainOfCpu cpu).isSome) →
      SelectsInDomain ctx (choosePlacementWithTargets ctx targets) := by
  intro always
  obtain ⟨domain, cpu, selectedDomain, selectedCpu, _, inDomain⟩ :=
    always (pinnedContext (.ofList [1])) pinnedTargets narrowTopology_consistent
      ⟨1, by decide +kernel, rfl⟩
  have first : (choosePlacementWithTargets (pinnedContext (.ofList [1]))
      pinnedTargets).selectedDomain = some 0 := by decide +kernel
  have second : (choosePlacementWithTargets (pinnedContext (.ofList [1]))
      pinnedTargets).selectedCpu = some 1 := by decide +kernel
  obtain rfl := Option.some.inj (first.symm.trans selectedDomain)
  obtain rfl := Option.some.inj (second.symm.trans selectedCpu)
  cases inDomain

end CSwitch.Arcas
