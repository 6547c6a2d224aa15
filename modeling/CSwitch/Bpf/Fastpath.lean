import CSwitch.Bpf.Tick
import CSwitch.Policy.AllowedCpu
import CSwitch.Policy.UnderSubscribed

/-! The fast path of the tick against the policy it stands in for. A task that
the tick keeps running is cold for the policy too, and a cold task stays where it
is, unless its domain is excluded: the policy lets such a task escape, and the
BPF side does not know which domains are excluded. -/

set_option autoImplicit false

namespace CSwitch.Policy.PlacementContext

open Std (TreeSet)

/-- The stay CPU of a task that is not held on its CPU by a tick. -/
def restingCpu (ctx : PlacementContext) (domain : Nat) : Option Nat :=
  (ctx.currentIdleIn domain ctx.allowedEligible).or <|
  (ctx.currentIdleIn domain ctx.allowedCpus).or <|
  (ctx.rebalanceIdleCpu domain).or <|
  (ctx.currentAcceptableIn domain ctx.allowedEligible).or <|
  (ctx.currentAcceptableIn domain ctx.allowedCpus).or <|
  (ctx.chooseIn domain ctx.allowedEligible).or <|
  ctx.chooseIn domain ctx.allowedCpus

variable {ctx : PlacementContext} {domain cpu : Nat}

theorem stayCpu_eq (here : ctx.currentDomain = some domain) :
    ctx.stayCpu = (ctx.tickCurrentCpu domain).or (ctx.restingCpu domain) := by
  unfold stayCpu restingCpu
  rw [here]
  rfl

theorem tickCurrentCpu_home (known : ctx.currentExcluded = false) (tick : ctx.trigger.isTick = true)
    (current : taskCurrentCpu ctx.task = some cpu) (allowed : cpu ∈ ctx.allowedCpus)
    (home : ctx.topo.domainOfCpu cpu = some domain) : ctx.tickCurrentCpu domain = some cpu := by
  have found : ∀ cpus : TreeSet Nat, currentCpuInDomain ctx.task.currentCpu domain ctx.topo cpus =
      if cpus.contains cpu then some cpu else none := by
    intro cpus
    have parsed : tryU32 ctx.task.currentCpu = some cpu := current
    unfold currentCpuInDomain
    rw [parsed, Option.bind_eq_bind, Option.bind_some]
    cases cpus.contains cpu with
    | true => simp [home]
    | false => rfl
  unfold tickCurrentCpu
  rw [known, tick]
  simp only [Bool.not_false, Bool.and_self, if_true]
  rw [found, found, if_pos (TreeSet.contains_iff_mem.mpr allowed)]
  split
  · rfl
  · rfl

theorem tickCurrentCpu_none (away : ctx.currentExcluded = true ∨
      ∀ cpu, taskCurrentCpu ctx.task = some cpu → ctx.topo.domainOfCpu cpu ≠ some domain) :
    ctx.tickCurrentCpu domain = none := by
  unfold tickCurrentCpu
  rcases away with excluded | foreign
  · rw [excluded]
    rfl
  · have missing : ∀ cpus : TreeSet Nat,
        currentCpuInDomain ctx.task.currentCpu domain ctx.topo cpus = none := by
      intro cpus
      unfold currentCpuInDomain
      cases parsed : tryU32 ctx.task.currentCpu with
      | none => rfl
      | some cpu =>
          rw [Option.bind_eq_bind, Option.bind_some, if_pos (foreign cpu parsed)]
          split <;> rfl
    rw [missing, missing]
    split <;> rfl

end CSwitch.Policy.PlacementContext

namespace CSwitch.Bpf

open Std (TreeSet)
open Policy Library

/-! ## The policy on the task of a tick -/

/-- The policy is asked about the ticked task: same place, same bandwidth, same
threshold, a set that allows the current CPU. -/
structure AsksAbout (cfg : TickConfig) (tctx : TaskCtx) (ctx : PlacementContext) : Prop where
  cpu : ctx.task.currentCpu = tctx.currentCpu
  domain : ctx.task.currentDomain = tctx.currentDomain
  trigger : ctx.trigger = .tick
  l2Bw : ctx.task.ewmaL2BwMibSX100 = tctx.ewmaL2BwMibSX100
  threshold : ctx.cfg.l2NeedMibSX100 = cfg.l2NeedMibSX100
  allowed : ∀ cpu, taskCurrentCpu ctx.task = some cpu → cpu ∈ ctx.allowedCpus

def KeepsPlace (ctx : PlacementContext) : Prop :=
  (choosePlacementWithPlannedCpus ctx).selectedDomain = taskCurrentDomain ctx.task ∧
    (choosePlacementWithPlannedCpus ctx).selectedCpu = taskCurrentCpu ctx.task

/-- When the policy keeps a cold task on a tick: in its own domain, not an
excluded one. Otherwise only when nothing better is found: no domain to escape to
and no other CPU to rest on, or the way out leads back. -/
inductive TickKeeps (ctx : PlacementContext) : Prop where
  | home {domain cpu : Nat} (here : ctx.currentDomain = some domain)
      (current : taskCurrentCpu ctx.task = some cpu) (known : ctx.currentExcluded = false)
      (home : ctx.topo.domainOfCpu cpu = some domain) : TickKeeps ctx
  | resting {domain : Nat} (here : ctx.currentDomain = some domain)
      (trapped : ctx.currentExcluded = true → ctx.admittedViews = [])
      (rests : (ctx.restingCpu domain).or (taskCurrentCpu ctx.task) = taskCurrentCpu ctx.task) :
      TickKeeps ctx
  | back {view : PlacementContext.CandidateView} (excluded : ctx.currentExcluded = true)
      (cheapest : FirstBest CandidateEval.cmp (ctx.admittedViews.map (·.candidate)) view.candidate)
      (domain : ctx.currentDomain = some view.candidate.domain)
      (cpu : taskCurrentCpu ctx.task = some view.candidate.cpu) : TickKeeps ctx

theorem taskShouldFastpathStay_cases {cfg : TickConfig} {maps : TickMaps} {task : TaskStruct}
    {tctx : TaskCtx} {now : Nat} (stays : taskShouldFastpathStay cfg maps task tctx now = true) :
    0 ≤ tctx.currentCpu ∧ 0 ≤ tctx.currentDomain ∧ task.allows tctx.currentCpu = true ∧
      tctx.ewmaL2BwMibSX100 < cfg.l2NeedMibSX100 := by
  unfold taskShouldFastpathStay at stays
  split at stays
  · cases stays
  · split at stays
    · cases stays
    next placed =>
      split at stays
      · cases stays
      next allows =>
        split at stays
        · cases stays
        next quiet =>
          rw [not_or] at placed
          exact ⟨Int.not_lt.mp placed.1, Int.not_lt.mp placed.2, by simpa using allows,
            Nat.lt_of_not_le quiet⟩

theorem rustlandTick_fastpath {cfg : TickConfig} {maps : TickMaps} {task : TaskStruct}
    {tctx : TaskCtx} {now : Nat} (kept : (rustlandTick cfg maps task tctx now).2 = .fastpathStay) :
    0 ≤ tctx.currentCpu ∧ 0 ≤ tctx.currentDomain ∧ task.allows tctx.currentCpu = true ∧
      tctx.ewmaL2BwMibSX100 < cfg.l2NeedMibSX100 := by
  unfold rustlandTick at kept
  split at kept
  · cases kept
  · split at kept
    · cases kept
    · dsimp only at kept
      split at kept
      · cases kept
      · split at kept
        · cases kept
        · split at kept
          next stays => exact taskShouldFastpathStay_cases stays
          · split at kept <;> cases kept

section Cold

variable {ctx : PlacementContext} (tick : ctx.trigger = .tick) (cold : ctx.threadClass = .cold)

include tick

theorem idleSpread_tick : ctx.idleSpread = none := by
  have old : youngTaskNeedsIdleSpread ctx.task ctx.thread = false := by
    have isTick : (QueueTrigger.fromU32 ctx.task.trigger).isTick = true := by
      have same : QueueTrigger.fromU32 ctx.task.trigger = .tick := tick
      rw [same]
      rfl
    unfold youngTaskNeedsIdleSpread
    rw [if_pos isTick]
  unfold PlacementContext.idleSpread
  rw [old]
  rfl

include cold

/-- Outside the excluded domains a cold task stays. -/
theorem choosePlacement_cold (known : ctx.currentExcluded = false) :
    choosePlacementWithPlannedCpus ctx = ctx.earlyStay := by
  unfold choosePlacementWithPlannedCpus
  rw [idleSpread_tick tick]
  dsimp only
  split
  · rfl
  · rw [known, cold]
    rfl

omit cold

/-- In an excluded domain the task is scanned for, cold or not. -/
theorem choosePlacement_excluded (excluded : ctx.currentExcluded = true) :
    choosePlacementWithPlannedCpus ctx = ctx.scanDecision := by
  unfold choosePlacementWithPlannedCpus
  rw [idleSpread_tick tick]
  unfold PlacementContext.sourceBudgetExhausted
  simp [excluded]

end Cold

theorem keepsPlace_of_stay {ctx : PlacementContext}
    (domain : (choosePlacementWithPlannedCpus ctx).selectedDomain = ctx.staySelectedDomain)
    (cpu : (choosePlacementWithPlannedCpus ctx).selectedCpu = ctx.staySelectedCpu) :
    KeepsPlace ctx ↔ ctx.staySelectedCpu = taskCurrentCpu ctx.task := by
  unfold KeepsPlace
  rw [domain, cpu, ctx.staySelectedDomain_eq]
  exact and_iff_right rfl

/-- The stay that an eligible task makes. -/
theorem keepsPlace_iff_known {ctx : PlacementContext} {domain cpu : Nat} (tick : ctx.trigger = .tick)
    (cold : ctx.threadClass = .cold) (here : ctx.currentDomain = some domain)
    (current : taskCurrentCpu ctx.task = some cpu) (allowed : cpu ∈ ctx.allowedCpus)
    (known : ctx.currentExcluded = false) : KeepsPlace ctx ↔ TickKeeps ctx := by
  have isTick : ctx.trigger.isTick = true := by
    rw [tick]
    rfl
  have early := choosePlacement_cold tick cold known
  rw [keepsPlace_of_stay (by rw [early]; rfl) (by rw [early]; rfl)]
  unfold PlacementContext.staySelectedCpu
  rw [PlacementContext.stayCpu_eq here]
  by_cases home : ctx.topo.domainOfCpu cpu = some domain
  · rw [PlacementContext.tickCurrentCpu_home known isTick current allowed home, current]
    exact iff_of_true rfl (.home here current known home)
  · have away : ∀ other, taskCurrentCpu ctx.task = some other →
        ctx.topo.domainOfCpu other ≠ some domain := by
      intro other same
      obtain rfl := Option.some.inj (current.symm.trans same)
      exact home
    rw [PlacementContext.tickCurrentCpu_none (.inr away), Option.none_or]
    constructor
    · exact fun rests => .resting here (by simp [known]) rests
    · intro keeps
      cases keeps with
      | home here' current' _ home' =>
          obtain rfl := Option.some.inj (here.symm.trans here')
          exact absurd home' (away _ current')
      | resting here' _ rests =>
          obtain rfl := Option.some.inj (here.symm.trans here')
          exact rests
      | back excluded => exact absurd (known.symm.trans excluded) (by simp)

/-- The stay of an excluded task that finds nowhere to go. -/
theorem keepsPlace_iff_trapped {ctx : PlacementContext} {domain : Nat} (tick : ctx.trigger = .tick)
    (here : ctx.currentDomain = some domain) (excluded : ctx.currentExcluded = true)
    (best : ctx.scanDomains.scan.best = none) : KeepsPlace ctx ↔ TickKeeps ctx := by
  have stay : choosePlacementWithPlannedCpus ctx = ctx.noBestStay ctx.scanDomains := by
    rw [choosePlacement_excluded tick excluded, PlacementContext.scanDecision, best]
  have nowhere : ctx.admittedViews = [] := by
    rw [PlacementContext.scanDomains_best_eq, foldl_keepBetter_eq_none,
      List.map_eq_nil_iff] at best
    exact best
  rw [keepsPlace_of_stay (by rw [stay]; rfl) (by rw [stay]; rfl)]
  unfold PlacementContext.staySelectedCpu
  rw [PlacementContext.stayCpu_eq here, PlacementContext.tickCurrentCpu_none (.inl excluded),
    Option.none_or]
  constructor
  · exact fun rests => .resting here (fun _ => nowhere) rests
  · intro keeps
    cases keeps with
    | home _ _ known => exact absurd (excluded.symm.trans known) (by simp)
    | resting here' _ rests =>
        obtain rfl := Option.some.inj (here.symm.trans here')
        exact rests
    | back _ cheapest =>
        rw [nowhere] at cheapest
        exact absurd cheapest.mem (by simp)

/-- The escape of an excluded task. -/
theorem keepsPlace_iff_escape {ctx : PlacementContext} {candidate : CandidateEval}
    (tick : ctx.trigger = .tick) (excluded : ctx.currentExcluded = true)
    (best : ctx.scanDomains.scan.best = some candidate) : KeepsPlace ctx ↔ TickKeeps ctx := by
  have first := best
  rw [PlacementContext.scanDomains_best_eq, foldl_keepBetter_iff] at first
  have escape : choosePlacementWithPlannedCpus ctx =
      ctx.escapeDecision ctx.scanDomains.debug candidate := by
    rw [choosePlacement_excluded tick excluded, PlacementContext.scanDecision, best, excluded]
    rfl
  unfold KeepsPlace
  rw [escape]
  constructor
  · intro ⟨domain, cpu⟩
    obtain ⟨view, _, rfl⟩ := List.mem_map.mp first.mem
    exact .back excluded first domain.symm cpu.symm
  · intro keeps
    cases keeps with
    | home _ _ known => exact absurd (excluded.symm.trans known) (by simp)
    | resting _ trapped _ =>
        rw [trapped excluded] at first
        exact absurd first.mem (by simp)
    | back _ cheapest domain cpu =>
        obtain rfl := first.unique cheapest
        exact ⟨domain.symm, cpu.symm⟩

/-- The policy keeps the place of a cold ticked task exactly in these cases. -/
theorem keepsPlace_iff {ctx : PlacementContext} {domain cpu : Nat} (tick : ctx.trigger = .tick)
    (cold : ctx.threadClass = .cold) (here : ctx.currentDomain = some domain)
    (current : taskCurrentCpu ctx.task = some cpu) (allowed : cpu ∈ ctx.allowedCpus) :
    KeepsPlace ctx ↔ TickKeeps ctx := by
  cases excluded : ctx.currentExcluded with
  | false => exact keepsPlace_iff_known tick cold here current allowed excluded
  | true =>
      cases best : ctx.scanDomains.scan.best with
      | none => exact keepsPlace_iff_trapped tick here excluded best
      | some candidate => exact keepsPlace_iff_escape tick excluded best

/-- A tick of the fast path agrees with the policy exactly when the policy keeps
the task. Outside the excluded domains it does for a task that runs where
`rustland_running` placed it. -/
theorem rustlandTick_fastpath_iff (cfg : TickConfig) (maps : TickMaps) (task : TaskStruct)
    (tctx : TaskCtx) (now : Nat) (ctx : PlacementContext)
    (kept : (rustlandTick cfg maps task tctx now).2 = .fastpathStay)
    (asks : AsksAbout cfg tctx ctx) :
    (KeepsPlace ctx ↔ TickKeeps ctx) ∧
    ∀ (before : TaskCtx) (cpu : Int),
      (∀ cpu domain, ctx.topo.domainOfCpu cpu = some domain → domain ≤ u32Max) →
      tctx = rustlandRunning (updateCpuDomainMap ctx.topo) before cpu →
      ctx.currentExcluded = false → KeepsPlace ctx := by
  obtain ⟨cpuPlaced, domainPlaced, _, quiet⟩ := rustlandTick_fastpath kept
  have here : ctx.currentDomain = some tctx.currentDomain.toNat := by
    unfold PlacementContext.currentDomain taskCurrentDomain tryU32
    rw [asks.domain, if_pos domainPlaced]
  have current : taskCurrentCpu ctx.task = some tctx.currentCpu.toNat := by
    unfold taskCurrentCpu tryU32
    rw [asks.cpu, if_pos cpuPlaced]
  have cold : ctx.threadClass = .cold := by
    unfold PlacementContext.threadClass classifyTask
    rw [asks.l2Bw, asks.threshold, if_pos quiet]
  have exactly := keepsPlace_iff asks.trigger cold here current (asks.allowed _ current)
  refine ⟨exactly, ?_⟩
  intro before cpu word placed known
  have domain : (rustlandRunning (updateCpuDomainMap ctx.topo) before cpu).currentDomain =
      tctx.currentDomain.toNat := by
    rw [← placed]
    exact (Int.toNat_of_nonneg domainPlaced).symm
  obtain ⟨loaded, converted, home⟩ := rustlandRunning_home word domain
  have same : tctx.currentCpu = cpu := by rw [placed, rustlandRunning]
  rw [← same, tryU32, if_pos cpuPlaced] at converted
  rw [← Option.some.inj converted] at home
  exact exactly.mpr (.home here current known home)

def quietTick : TickConfig where
  enableTickResched := true
  enableBpfStayFastpath := true
  tickReevalEvery := 1
  l2NeedMibSX100 := 51200
  llcStaleNs := 100000000
  dfStaleNs := 100000000

def quietTask : TaskStruct := { pid := 1001, tgid := 1000, nrCpusAllowed := 4, cpusPtr := .ofList [0, 1, 2, 3] }

def quietTaskCtx : TaskCtx := { currentCpu := 0, currentDomain := 0 }

def quietContext : PlacementContext :=
  { balanceContext with
    task := { tid := 1001, tgid := 1000, currentCpu := 0, currentDomain := 0, trigger := 1 } }

/-- The same task, and only domain 1 is eligible. -/
def excludedContext : PlacementContext :=
  { quietContext with
    mapping :=
      { quietContext.mapping with
        eligibleDomains := .ofList [1], excludedDomains := .ofList [0]
        eligibleCpus := .ofList [2, 3] } }

theorem quietContext_word (cpu domain : Nat)
    (mapped : quietContext.topo.domainOfCpu cpu = some domain) : domain ≤ u32Max := by
  have all : ∀ entry ∈ quietContext.topo.cpuToDomain, ∀ domain ∈ entry, domain ≤ u32Max := by
    decide
  obtain ⟨entry, found, rfl⟩ := Option.bind_eq_some_iff.mp mapped
  exact all _ (List.mem_of_getElem? found) domain rfl

theorem rustlandTick_fastpath_iff_quiet :
    (KeepsPlace quietContext ↔ TickKeeps quietContext) ∧ KeepsPlace quietContext := by
  have asks : AsksAbout quietTick quietTaskCtx quietContext := by
    refine ⟨rfl, rfl, rfl, rfl, rfl, ?_⟩
    intro cpu current
    obtain rfl := Option.some.inj current
    decide +kernel
  obtain ⟨exactly, running⟩ := rustlandTick_fastpath_iff quietTick {} quietTask quietTaskCtx 2000
    quietContext (by decide +kernel) asks
  exact ⟨exactly, running {} 0 quietContext_word rfl (by decide +kernel)⟩

/-- In an excluded domain the tick keeps a task that the policy takes out. -/
theorem rustlandTick_keeps_excluded :
    (rustlandTick quietTick {} quietTask quietTaskCtx 2000).2 = .fastpathStay ∧
      AsksAbout quietTick quietTaskCtx excludedContext ∧
      (choosePlacementWithPlannedCpus excludedContext).selectedDomain = some 1 ∧
      ¬ KeepsPlace excludedContext := by
  have leaves : (choosePlacementWithPlannedCpus excludedContext).selectedDomain = some 1 := by
    decide +kernel
  refine ⟨by decide +kernel, ⟨rfl, rfl, rfl, rfl, rfl, ?_⟩, leaves, ?_⟩
  · intro cpu current
    obtain rfl := Option.some.inj current
    decide +kernel
  · rintro ⟨domain, _⟩
    rw [leaves] at domain
    exact absurd domain (by decide)

end CSwitch.Bpf
