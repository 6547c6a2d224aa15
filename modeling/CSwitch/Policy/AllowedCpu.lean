import CSwitch.Policy.PipelineProperties

/-! Every CPU the policy picks comes from the set it picks from, except one: the
stay falls back to the task's current CPU without looking at the allowed set. -/

set_option autoImplicit false

namespace CSwitch.Policy

open Std (TreeSet)

/-- A choice that is empty or lies in a CPU set. -/
def ChosenFrom (cpus : TreeSet Nat) (chosen : Option Nat) : Prop :=
  ∀ cpu, chosen = some cpu → cpu ∈ cpus

namespace ChosenFrom

variable {cpus wider : TreeSet Nat} {first second : Option Nat}

theorem none (cpus : TreeSet Nat) : ChosenFrom cpus .none := by
  intro cpu impossible
  cases impossible

theorem or (left : ChosenFrom cpus first) (right : ChosenFrom cpus second) :
    ChosenFrom cpus (first.or second) := by
  intro cpu chosen
  rcases Option.or_eq_some_iff.mp chosen with found | ⟨_, found⟩
  · exact left cpu found
  · exact right cpu found

theorem filter (chosen : ChosenFrom cpus first) (keep : Nat → Bool) :
    ChosenFrom cpus (first.filter keep) := by
  intro cpu found
  exact chosen cpu (Option.filter_eq_some_iff.mp found).1

theorem mono (chosen : ChosenFrom cpus first) (wide : ∀ cpu ∈ cpus, cpu ∈ wider) :
    ChosenFrom wider first :=
  fun cpu found => wide cpu (chosen cpu found)

end ChosenFrom

/-! ## The choosers -/

section Choosers

variable {topo : TopologyLayout} {cpus wider : TreeSet Nat} {cpuStates : List CpuStateValue}
  {cpuUtilsX100 : List Nat} {plannedCpuStates : List PlannedCpuState}
  {domain cpuHighUtilX100 taskTid : Nat} {currentCpu : Int}

theorem mem_domainCpusIn {cpu : Nat} :
    cpu ∈ domainCpusIn topo domain cpus ↔
      (∃ info, topo.domains[domain]? = some info ∧ cpu ∈ info.cpus) ∧ cpu ∈ cpus := by
  unfold domainCpusIn
  cases topo.domains[domain]? with
  | none => simp
  | some info => simp

theorem chooseCpuInDomain_listed {cpu : Nat}
    (chosen : chooseCpuInDomain domain topo cpuStates cpuUtilsX100 plannedCpuStates cpus
      cpuHighUtilX100 taskTid = some cpu) : cpu ∈ domainCpusIn topo domain cpus :=
  List.argmin_mem chosen

theorem chooseIdleCpuInDomain_listed {cpu : Nat}
    (chosen : chooseIdleCpuInDomain domain topo cpuStates cpuUtilsX100 plannedCpuStates cpus
      cpuHighUtilX100 = some cpu) : cpu ∈ domainCpusIn topo domain cpus :=
  (List.mem_filter.mp (List.argmin_mem chosen)).1

theorem chooseCpuInDomain_chosenFrom :
    ChosenFrom cpus (chooseCpuInDomain domain topo cpuStates cpuUtilsX100 plannedCpuStates cpus
      cpuHighUtilX100 taskTid) :=
  fun _ chosen => (mem_domainCpusIn.mp (chooseCpuInDomain_listed chosen)).2

theorem chooseIdleCpuInDomain_chosenFrom :
    ChosenFrom cpus (chooseIdleCpuInDomain domain topo cpuStates cpuUtilsX100 plannedCpuStates cpus
      cpuHighUtilX100) :=
  fun _ chosen => (mem_domainCpusIn.mp (chooseIdleCpuInDomain_listed chosen)).2

theorem currentCpuInDomain_legal {cpu : Nat}
    (chosen : currentCpuInDomain currentCpu domain topo cpus = some cpu) :
    cpu ∈ cpus ∧ topo.domainOfCpu cpu = some domain := by
  obtain ⟨current, _, chosen⟩ := Option.bind_eq_some_iff.mp chosen
  split at chosen
  · cases chosen
  next allowed =>
    split at chosen
    · cases chosen
    next inDomain =>
      obtain rfl := Option.some.inj chosen
      exact ⟨by simpa using allowed, by simpa using inDomain⟩

theorem currentCpuInDomain_chosenFrom :
    ChosenFrom cpus (currentCpuInDomain currentCpu domain topo cpus) :=
  fun _ chosen => (currentCpuInDomain_legal chosen).1

/-! The idle and the acceptable current CPU are the current CPU, when it passes. -/

theorem currentIdleCpuInDomain_chosenFrom
    (current : ChosenFrom wider (currentCpuInDomain currentCpu domain topo cpus)) :
    ChosenFrom wider (currentIdleCpuInDomain currentCpu domain topo cpuStates cpuUtilsX100 cpus
      cpuHighUtilX100) := by
  intro cpu chosen
  obtain ⟨own, found, chosen⟩ := Option.bind_eq_some_iff.mp chosen
  split at chosen
  · obtain rfl := Option.some.inj chosen
    exact current own found
  · cases chosen

theorem currentAcceptableCpuInDomain_chosenFrom
    (current : ChosenFrom wider (currentCpuInDomain currentCpu domain topo cpus)) :
    ChosenFrom wider (currentAcceptableCpuInDomain currentCpu domain topo cpuStates cpus
      taskTid) := by
  intro cpu chosen
  obtain ⟨own, found, chosen⟩ := Option.bind_eq_some_iff.mp chosen
  dsimp only at chosen
  split at chosen
  · cases chosen
  · obtain rfl := Option.some.inj chosen
    exact current own found

/-! A set without a CPU in the domain leaves nothing to choose. -/

theorem domainCpusIn_eq_nil (consistent : topo.Consistent)
    (empty : ∀ cpu ∈ cpus, topo.domainOfCpu cpu ≠ some domain) :
    domainCpusIn topo domain cpus = [] := by
  refine List.eq_nil_iff_forall_not_mem.mpr fun cpu member => ?_
  obtain ⟨listed, allowed⟩ := mem_domainCpusIn.mp member
  exact empty cpu allowed ((consistent cpu domain).mpr listed)

theorem currentCpuInDomain_eq_none (empty : ∀ cpu ∈ cpus, topo.domainOfCpu cpu ≠ some domain) :
    currentCpuInDomain currentCpu domain topo cpus = none := by
  unfold currentCpuInDomain
  cases tryU32 currentCpu with
  | none => rfl
  | some cpu =>
      rw [Option.bind_eq_bind, Option.bind_some]
      split
      · rfl
      next allowed => rw [if_pos (empty cpu (by simpa using allowed))]

/-- A preferred CPU is kept only inside its set and its domain. -/
theorem preferredCpuInDomain_legal {preferredCpu : Int} {cpu : Nat}
    (chosen : preferredCpuInDomain preferredCpu domain topo cpuStates cpuUtilsX100 cpus
      cpuHighUtilX100 taskTid = some cpu) :
    cpu ∈ cpus ∧ topo.domainOfCpu cpu = some domain := by
  obtain ⟨current, _, chosen⟩ := Option.bind_eq_some_iff.mp chosen
  split at chosen
  · cases chosen
  next allowed =>
    split at chosen
    · cases chosen
    next inDomain =>
      split at chosen
      · cases chosen
      · dsimp only at chosen
        split at chosen
        · cases chosen
        · obtain rfl := Option.some.inj chosen
          exact ⟨by simpa using allowed, by simpa using inDomain⟩

end Choosers

/-! ## The policy -/

namespace PlacementContext

variable {ctx : PlacementContext}

theorem ofEligible {chosen : Option Nat} (eligible : ChosenFrom ctx.allowedEligible chosen) :
    ChosenFrom ctx.allowedCpus chosen :=
  eligible.mono fun _ member => TreeSet.mem_of_mem_filter member

theorem currentIdleIn_chosenFrom (domain : Nat) (cpus : TreeSet Nat) :
    ChosenFrom cpus (ctx.currentIdleIn domain cpus) :=
  (currentIdleCpuInDomain_chosenFrom currentCpuInDomain_chosenFrom).filter _

theorem currentAcceptableIn_chosenFrom (domain : Nat) (cpus : TreeSet Nat) :
    ChosenFrom cpus (ctx.currentAcceptableIn domain cpus) :=
  (currentAcceptableCpuInDomain_chosenFrom currentCpuInDomain_chosenFrom).filter _

theorem chooseIn_chosenFrom (domain : Nat) (cpus : TreeSet Nat) :
    ChosenFrom cpus (ctx.chooseIn domain cpus) :=
  chooseCpuInDomain_chosenFrom

theorem tickCurrentCpu_chosenFrom (domain : Nat) :
    ChosenFrom ctx.allowedCpus (ctx.tickCurrentCpu domain) := by
  unfold tickCurrentCpu
  split
  · exact (ofEligible currentCpuInDomain_chosenFrom).or currentCpuInDomain_chosenFrom
  · exact .none _

theorem rebalanceIdleCpu_chosenFrom (domain : Nat) :
    ChosenFrom ctx.allowedCpus (ctx.rebalanceIdleCpu domain) :=
  ((ofEligible chooseIdleCpuInDomain_chosenFrom).or chooseIdleCpuInDomain_chosenFrom).filter _

theorem stayCpu_chosenFrom : ChosenFrom ctx.allowedCpus ctx.stayCpu := by
  intro cpu chosen
  obtain ⟨domain, _, chosen⟩ := Option.bind_eq_some_iff.mp chosen
  have any : ChosenFrom ctx.allowedCpus
      ((ctx.chooseIn domain ctx.allowedEligible).or (ctx.chooseIn domain ctx.allowedCpus)) :=
    (ofEligible (chooseIn_chosenFrom _ _)).or (chooseIn_chosenFrom _ _)
  exact ((tickCurrentCpu_chosenFrom domain).or <|
    (ofEligible (currentIdleIn_chosenFrom _ _)).or <| (currentIdleIn_chosenFrom _ _).or <|
    (rebalanceIdleCpu_chosenFrom domain).or <|
    (ofEligible (currentAcceptableIn_chosenFrom _ _)).or <|
    (currentAcceptableIn_chosenFrom _ _).or any) cpu chosen

/-- The stay finds a CPU as soon as the current domain has an allowed one. -/
theorem stayCpu_isSome {domain cpu : Nat} (consistent : ctx.topo.Consistent)
    (home : ctx.currentDomain = some domain) (allowed : cpu ∈ ctx.allowedCpus)
    (inDomain : ctx.topo.domainOfCpu cpu = some domain) : ctx.stayCpu.isSome = true := by
  obtain ⟨info, found, listed⟩ := (consistent cpu domain).mp inDomain
  have last : (ctx.chooseIn domain ctx.allowedCpus).isSome = true :=
    chooseCpuInDomain_isSome found listed allowed _ _ _ _ _
  unfold stayCpu
  simp only [home, Option.bind_some, Option.isSome_or, last, Bool.or_true]

/-- The stay finds no CPU when the current domain has no allowed one. -/
theorem stayCpu_eq_none (consistent : ctx.topo.Consistent)
    (empty : ∀ domain, ctx.currentDomain = some domain →
      ∀ cpu ∈ ctx.allowedCpus, ctx.topo.domainOfCpu cpu ≠ some domain) : ctx.stayCpu = none := by
  unfold stayCpu
  cases home : ctx.currentDomain with
  | none => rfl
  | some domain =>
      have eligible : ∀ cpu ∈ ctx.allowedEligible, ctx.topo.domainOfCpu cpu ≠ some domain :=
        fun cpu member => empty domain home cpu (TreeSet.mem_of_mem_filter member)
      simp only [Option.bind_some, tickCurrentCpu, currentIdleIn, currentIdleCpuInDomain,
        rebalanceIdleCpu, chooseIdleIn, chooseIdleCpuInDomain, currentAcceptableIn,
        currentAcceptableCpuInDomain, chooseIn, chooseCpuInDomain, currentCpuInDomain_eq_none eligible,
        currentCpuInDomain_eq_none (empty domain home), domainCpusIn_eq_nil consistent eligible,
        domainCpusIn_eq_nil consistent (empty domain home)]
      simp

/-- A young task is spread to an allowed CPU that is idle. -/
theorem idleSpread_target {domain cpu : Nat} (target : ctx.idleSpread = some (domain, cpu)) :
    cpu ∈ ctx.allowedCpus ∧ ctx.idleCpu cpu = true := by
  have best : ∀ cpus, ctx.bestIdleSpread cpus = some (domain, cpu) →
      cpu ∈ cpus ∧ ctx.idleCpu cpu = true := by
    intro cpus found
    obtain ⟨candidate, _, built⟩ := List.mem_filterMap.mp (List.argmin_mem found)
    obtain ⟨chosen, picked, same⟩ := Option.map_eq_some_iff.mp built
    obtain ⟨rfl, rfl⟩ := Prod.mk.inj same
    obtain ⟨picked, idle⟩ := Option.filter_eq_some_iff.mp picked
    exact ⟨chooseIn_chosenFrom _ _ _ picked, idle⟩
  unfold idleSpread at target
  split at target
  · unfold chooseIdleSpreadTarget at target
    have found := (Option.filter_eq_some_iff.mp target).1
    split at found
    · exact best _ found
    · rcases Option.or_eq_some_iff.mp found with eligible | ⟨_, allowed⟩
      · obtain ⟨member, idle⟩ := best _ eligible
        exact ⟨TreeSet.mem_of_mem_filter member, idle⟩
      · exact best _ allowed
  · cases target

end PlacementContext

/-- The policy answers with an allowed CPU or with the CPU of a stay. -/
theorem PolicyOutcome.selectedCpu {ctx : PlacementContext} {decision : PlacementDecision}
    (outcome : PolicyOutcome ctx decision) :
    ChosenFrom ctx.allowedCpus decision.selectedCpu ∨
      decision.selectedCpu = ctx.staySelectedCpu := by
  have admitted : ∀ best, ctx.Admitted best → ChosenFrom ctx.allowedCpus (some best.cpu) := by
    rintro best ⟨df, llc, admits⟩
    rw [← admits.cpu]
    exact PlacementContext.ofEligible (PlacementContext.chooseIn_chosenFrom _ _)
  cases outcome with
  | spread target =>
      refine .inl ?_
      intro cpu chosen
      obtain rfl := Option.some.inj chosen
      exact (PlacementContext.idleSpread_target target).1
  | stay => exact .inr rfl
  | move _ _ _ _ _ _ best => exact .inl (admitted _ best)
  | escape _ _ best => exact .inl (admitted _ best)

/-- With no idle CPU and no bandwidth sample the policy can only stay. -/
theorem PolicyOutcome.stays_of_quiet {ctx : PlacementContext} {decision : PlacementDecision}
    (outcome : PolicyOutcome ctx decision) (busy : ∀ cpu, ctx.idleCpu cpu = false)
    (unsampled : ∀ domain, ctx.freshDf domain = none) :
    decision.selectedCpu = ctx.staySelectedCpu ∧ decision.selectedDomain = ctx.currentDomain := by
  have refused : ∀ best, ¬ ctx.Admitted best := by
    rintro best ⟨df, llc, admits⟩
    have missing := unsampled best.domain
    rw [admits.freshDf] at missing
    cases missing
  cases outcome with
  | spread target =>
      have idle := (PlacementContext.idleSpread_target target).2
      rw [busy] at idle
      cases idle
  | stay => exact ⟨rfl, ctx.staySelectedDomain_eq⟩
  | move _ _ _ _ _ _ best => exact absurd best (refused _)
  | escape _ _ best => exact absurd best (refused _)

end CSwitch.Policy
