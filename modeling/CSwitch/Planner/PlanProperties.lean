import CSwitch.Planner.Plan

/-! Where the targets of a plan come from and why each is legal. -/

set_option autoImplicit false

namespace CSwitch.Planner

open Std (TreeMap TreeSet)

/-- What the planner checked before it sent a tid to a domain other than its home. -/
structure MoveLegal (snapshot : PlannerInput) (tid target : Nat) : Prop where
  allowed : target ∈ snapshot.allowedDomainsOf tid
  timers : ∀ home, snapshot.home tid = some home → home ≠ target →
    home ∉ snapshot.mapping.excludedDomains →
      ∃ thread, snapshot.threads[tid]? = some thread ∧ thread.settleUntilNs ≤ snapshot.nowNs ∧
        ¬ (snapshot.nowNs < thread.reverseProtectUntilNs ∧
          thread.lastMigrationToDomain = some home ∧ thread.lastMigrationFromDomain = some target)

/-- The sources of a plan target: the home, a checked candidate, or in
incremental mode a target of the previous plan that is still allowed. -/
inductive TargetOrigin (snapshot : PlannerInput) (mode : PlanMode) (tid target : Nat) : Prop where
  | home (same : snapshot.home tid = some target)
  | candidate (legal : MoveLegal snapshot tid target)
  | previous (incremental : mode.isGlobal = false) (allowed : target ∈ snapshot.allowedDomainsOf tid)

section

variable {features : BuildFeatures} {config : PlannerConfig} {snapshot : PlannerInput}
  {triggers : List PlannerTrigger} {tid : Nat}

theorem modeAndState_built (features : BuildFeatures) (config : PlannerConfig)
    (snapshot : PlannerInput) (triggers : List PlannerTrigger) :
    (modeAndState features config snapshot triggers).2 =
      buildState features config snapshot (modeAndState features config snapshot triggers).1 := by
  unfold modeAndState
  dsimp only
  split <;> rfl

theorem plannedState_reassigns (features : BuildFeatures) (config : PlannerConfig)
    (snapshot : PlannerInput) (triggers : List PlannerTrigger) :
    Reassigns snapshot
      (buildState features config snapshot (modeAndState features config snapshot triggers).1)
      (plannedState features config snapshot triggers) := by
  rw [← modeAndState_built]
  unfold plannedState
  dsimp only
  split
  · exact (applyPaperGreedySeed_reassigns _).trans (optimizeState_reassigns _)
  · exact optimizeState_reassigns _

theorem moveLegal_of_candidateAllowed {mode : PlanMode} {index target : Nat} {item : PlannerItem}
    (stored : (buildState features config snapshot mode).items[index]? = some item)
    (member : tid ∈ item.memberTids)
    (allowed : candidateAllowed index (.domain target) snapshot
      (buildState features config snapshot mode) = true) : MoveLegal snapshot tid target := by
  obtain ⟨checked, found, inItem, may⟩ := candidateAllowed_domain allowed
  obtain rfl := Option.some.inj (stored.symm.trans found)
  obtain ⟨view, takes⟩ := may tid member
  have reflects := buildMembers_reflects takes.found
  have valid := buildItems_wellFormed features (buildMembers config snapshot mode) snapshot mode
  refine ⟨?_, ?_⟩
  · exact memberDomains_buildMembers
      (valid.domains item (List.mem_of_getElem? stored) tid member target inItem)
  · intro home known moves counted
    have legal := (takes.legal home (reflects.home.trans known) moves).2 counted
    rwa [reflects.identity] at legal

theorem effectiveMemberDomain_origin {target : Nat}
    (found : effectiveMemberDomain tid (plannedState features config snapshot triggers) =
      some target) :
    TargetOrigin snapshot (modeAndState features config snapshot triggers).1 tid target := by
  have reassigned := plannedState_reassigns features config snapshot triggers
  generalize (modeAndState features config snapshot triggers).1 = mode at reassigned ⊢
  unfold effectiveMemberDomain at found
  rw [reassigned.itemIndexByTid, reassigned.members] at found
  obtain ⟨index, indexed, found⟩ := Option.bind_eq_some_iff.mp found
  obtain ⟨assignment, assigned, found⟩ := Option.bind_eq_some_iff.mp found
  obtain ⟨view, viewed, found⟩ := Option.bind_eq_some_iff.mp found
  change (buildMembers config snapshot mode)[tid]? = some view at viewed
  have reflects := buildMembers_reflects viewed
  have valid := buildItems_wellFormed features (buildMembers config snapshot mode) snapshot mode
  obtain ⟨item, stored, member⟩ := valid.indexed tid index indexed
  cases assignment with
  | currentHome => exact .home (reflects.home ▸ found)
  | domain domain =>
      obtain rfl := Option.some.inj found
      rcases reassigned.legal index _ assigned with seeded | allowed
      · obtain ⟨seed, seedStored, seedValue⟩ := buildState_assignment seeded
        obtain rfl := Option.some.inj (stored.symm.trans seedStored)
        obtain ⟨incremental, inItem | homes⟩ := seedAssignment_domain seedValue.symm
        · exact .previous incremental (memberDomains_buildMembers
            (valid.domains item (List.mem_of_getElem? stored) tid member domain inItem))
        · have home := homes tid member
          rw [viewed] at home
          exact .home (reflects.home ▸ home)
      · exact .candidate (moveLegal_of_candidateAllowed stored member allowed)

theorem entryTarget_origin {member : MemberView} {target : Nat}
    (viewed : (plannedState features config snapshot triggers).members[tid]? = some member)
    (found : entryTarget snapshot (plannedState features config snapshot triggers)
      (modeAndState features config snapshot triggers).1 tid member = some target) :
    TargetOrigin snapshot (modeAndState features config snapshot triggers).1 tid target := by
  rw [(plannedState_reassigns features config snapshot triggers).members] at viewed
  have reflects := buildMembers_reflects viewed
  unfold entryTarget at found
  dsimp only at found
  rcases Option.or_eq_some_iff.mp found with found | ⟨_, homed⟩
  · rcases Option.or_eq_some_iff.mp found with assigned | ⟨_, previous⟩
    · exact effectiveMemberDomain_origin assigned
    · split at previous
      · simp at previous
      next incremental =>
        obtain ⟨plan, _, previous⟩ := Option.bind_eq_some_iff.mp previous
        obtain ⟨entry, _, previous⟩ := Option.bind_eq_some_iff.mp previous
        dsimp only at previous
        split at previous
        · simp at previous
        · split at previous
          next legal =>
            obtain rfl := Option.some.inj previous
            simp only [Bool.or_eq_true, TreeSet.contains_iff_mem, beq_iff_eq] at legal
            rcases legal with allowed | homed
            · exact .previous (by simpa using incremental) (reflects.domains ▸ allowed)
            · exact .home (reflects.home ▸ homed)
          · simp at previous
  · exact .home (reflects.home ▸ homed)

/-- Every entry of a computed plan: its origin, its stamps and its CPU. -/
theorem computePlan_entry {moveTrace planDebug : TraceLogger} {entry : PlacementPlanEntry}
    (planned : (computePlanWithDebug features config snapshot triggers moveTrace
      planDebug).output.plan.entries[tid]? = some entry) :
    TargetOrigin snapshot (modeAndState features config snapshot triggers).1 tid entry.targetDomain ∧
      ∀ cpu, entry.targetCpu = some cpu →
        cpu ∈ candidateCpusForPlanTarget snapshot tid entry.targetDomain := by
  unfold computePlanWithDebug at planned
  dsimp only at planned
  rw [emitMoveTrace_state] at planned
  generalize satAdd64 (previousRevision snapshot) 1 = revision at planned
  have targets := assignPlanTargetCpus_targets snapshot
    (planEntries snapshot (plannedState features config snapshot triggers)
      (modeAndState features config snapshot triggers).1 revision) ?_
  · refine ⟨?_, fun cpu => targets.candidate tid entry cpu planned⟩
    obtain ⟨first, built, sameDomain⟩ := targets.targetDomain planned
    rw [planEntries, TreeMap.getElem?_filterMap'] at built
    obtain ⟨member, viewed, built⟩ := Option.bind_eq_some_iff.mp built
    obtain ⟨target, found, rfl⟩ := Option.map_eq_some_iff.mp built
    exact sameDomain ▸ entryTarget_origin viewed found
  · intro other first built
    rw [planEntries, TreeMap.getElem?_filterMap'] at built
    obtain ⟨member, _, built⟩ := Option.bind_eq_some_iff.mp built
    obtain ⟨target, _, rfl⟩ := Option.map_eq_some_iff.mp built
    rfl

/-- Plan legality: a target is allowed or the home, and a target CPU is allowed,
lies in the target domain and is eligible whenever an allowed CPU there is. -/
theorem computePlan_legal (features : BuildFeatures) (config : PlannerConfig)
    (snapshot : PlannerInput) (triggers : List PlannerTrigger) (moveTrace planDebug : TraceLogger)
    {tid : Nat} {entry : PlacementPlanEntry}
    (planned : (computePlanWithDebug features config snapshot triggers moveTrace
      planDebug).output.plan.entries[tid]? = some entry) :
    (entry.targetDomain ∈ snapshot.allowedDomainsOf tid ∨
        snapshot.home tid = some entry.targetDomain) ∧
      ∀ cpu, entry.targetCpu = some cpu → LegalTargetCpu snapshot tid entry.targetDomain cpu := by
  obtain ⟨origin, candidates⟩ := computePlan_entry planned
  refine ⟨?_, fun cpu chosen => candidateCpusForPlanTarget_legal (candidates cpu chosen)⟩
  cases origin with
  | home same => exact .inr same
  | candidate legal => exact .inl legal.allowed
  | previous _ allowed => exact .inl allowed

end

/-! ## A stranded thread

Two domains of one CPU each, and a thread at home in the first whose affinity
leaves it only the CPU of the second. -/

def samplePolicy : PolicyConfig where
  l2NeedMibSX100 := 0
  migrateMarginX100 := 500
  cpuHighUtilX100 := 8500
  cpuRebalanceJobDelta := 2
  stallVictimMinPctX100 := 5000
  stallVictimDeltaPctX100 := 1500
  llcStaleMs := 100
  dfStaleMs := 100
  migrateSettleMs := 80
  signatureSnapshots := false
  csVillainThrottle := true
  tickReevalEvery := 1
  tickDeferMax := 1
  csVillainResliceNs := 1000000
  csVillainRefillDivisor := 4
  csVillainSettleNs := 20000000
  csVillainReleaseSamples := 2
  tickMovePhaseMod := 1

def sampleTopology : TopologyLayout where
  nrCpuIds := 2
  domains := [{ domainId := 0, cpus := [0] }, { domainId := 1, cpus := [1] }]
  cpuToDomain := [some 0, some 1]

def sampleMapping : MappingInfo where
  domainToCcx := [0, 1]
  domainToCcm := [none, none]
  domainToDfCapacityMibSX100 := []
  csLinkCapacityMibSX100 := []
  eligibleDomains := .ofList [0, 1]
  excludedDomains := ∅
  eligibleCpus := .ofList [0, 1]

def sampleConfig : PlannerConfig where
  disableAutoSyncHints := false
  syncTgidOverrides := ∅
  incrementalItemLimit := 8
  incrementalDomainLimit := 2
  maxPasses := 4
  swapPassItems := 8

def strandedThread : ManagedThreadState := { tid := 7, lastObservedDomain := some 0 }

/-- The same thread with a valid signature. -/
def demandingThread : ManagedThreadState :=
  { strandedThread with signature := { valid := true, projectedDfPressureX100 := 300 } }

def strandedInput : PlannerInput where
  topo := sampleTopology
  mapping := sampleMapping
  policy := samplePolicy
  nowNs := 1000
  latestDfSweepEpoch := 1
  pendingTids := .ofList [7]
  threads := (∅ : ThreadMap).insert 7 strandedThread
  allowedCpus := (∅ : CpuSetMap).insert 7 (.ofList [1])
  allowedDomains := (∅ : CpuSetMap).insert 7 (.ofList [1])
  llcStates := []
  dfStates := []
  previousPlan := none

def strandedRun : PlannerRun := computePlanWithDebug ⟨false⟩ sampleConfig strandedInput [] {} {}

def strandedEntry : PlacementPlanEntry where
  targetDomain := 1
  targetCpu := some 1
  builtFromSweepEpoch := 1
  planRevision := 1
  plannedAtNs := 1000

/-! ## A crew of three

Two domains of two CPUs each. The home of threads 7 and 8 is saturated, so one of
them joins thread 9, whose affinity leaves it CPU 2 only. -/

def crewTopology : TopologyLayout where
  nrCpuIds := 4
  domains := [{ domainId := 0, cpus := [0, 1] }, { domainId := 1, cpus := [2, 3] }]
  cpuToDomain := [some 0, some 0, some 1, some 1]

def crewThread (tid home dfX100 : Nat) : ManagedThreadState where
  tid := tid
  tgid := tid
  lastObservedDomain := some home
  signature := { valid := true, stable := true, projectedDfPressureX100 := dfX100 }

def crewInput : PlannerInput where
  topo := crewTopology
  mapping := { sampleMapping with eligibleCpus := .ofList [0, 1, 2, 3] }
  policy := samplePolicy
  nowNs := 1000
  latestDfSweepEpoch := 1
  pendingTids := .ofList [7, 8, 9]
  threads := .ofList
    [(7, crewThread 7 0 300000), (8, crewThread 8 0 500000), (9, crewThread 9 1 200000)]
  allowedCpus := (((∅ : CpuSetMap).insert 7 (.ofList [0, 1, 2, 3])).insert 8
    (.ofList [0, 1, 2, 3])).insert 9 (.ofList [2])
  allowedDomains := (((∅ : CpuSetMap).insert 7 (.ofList [0, 1])).insert 8
    (.ofList [0, 1])).insert 9 (.ofList [1])
  llcStates := []
  dfStates :=
    [some { sampleTsNs := 1000, valid := 1, rawReadBwMibSX100 := 1900000 },
      some { sampleTsNs := 1000, valid := 1, rawReadBwMibSX100 := 200000 }]
  previousPlan := none

def crewRun : PlannerRun := computePlanWithDebug ⟨false⟩ sampleConfig crewInput [] {} {}

/-- Thread 7 moves beside the pinned thread 9, and thread 8 keeps its home. -/
theorem computePlan_legal_crew :
    (∃ moved, crewRun.output.plan.entries[7]? = some moved ∧
        moved.targetDomain = 1 ∧ moved.targetCpu = some 3) ∧
      LegalTargetCpu crewInput 7 1 3 ∧ LegalTargetCpu crewInput 8 0 0 ∧
      LegalTargetCpu crewInput 9 1 2 := by
  have planned {tid domain cpu : Nat} (found : (crewRun.output.plan.entries[tid]?.map fun entry =>
      (entry.targetDomain, entry.targetCpu)) = some (domain, some cpu)) :
      ∃ entry, crewRun.output.plan.entries[tid]? = some entry ∧ entry.targetDomain = domain ∧
        entry.targetCpu = some cpu := by
    obtain ⟨entry, read, same⟩ := Option.map_eq_some_iff.mp found
    exact ⟨entry, read, congrArg Prod.fst same, congrArg Prod.snd same⟩
  have legal {tid domain cpu : Nat} (found : (crewRun.output.plan.entries[tid]?.map fun entry =>
      (entry.targetDomain, entry.targetCpu)) = some (domain, some cpu)) :
      LegalTargetCpu crewInput tid domain cpu := by
    obtain ⟨entry, read, rfl, chosen⟩ := planned found
    exact (computePlan_legal ⟨false⟩ sampleConfig crewInput [] {} {} read).2 cpu chosen
  exact ⟨planned (by decide +kernel), legal (by decide +kernel), legal (by decide +kernel),
    legal (by decide +kernel)⟩

end CSwitch.Planner
