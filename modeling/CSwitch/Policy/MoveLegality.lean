import CSwitch.Policy.AllowedCpu

/-! Where the fallback policy may send a task. Whatever exit it takes, a move ends
on a usable CPU of a domain it has fresh samples of, and a move out of a domain
that is not excluded also keeps the budgets and the timers. -/

set_option autoImplicit false

namespace CSwitch.Policy

/-- A sample that was taken, not in the future, and not longer ago than the limit. -/
def FreshAt (sampleTsNs nowNs staleMs : Nat) : Prop :=
  0 < sampleTsNs ∧ sampleTsNs ≤ nowNs ∧ nowNs - sampleTsNs ≤ satMul64 staleMs 1000000

theorem isStale_eq_false_iff {sampleTsNs nowNs staleMs : Nat} :
    isStale sampleTsNs nowNs staleMs = false ↔ FreshAt sampleTsNs nowNs staleMs := by
  unfold isStale FreshAt
  split
  next missing =>
    refine iff_of_false Bool.noConfusion ?_
    omega
  next taken =>
    rw [decide_eq_false_iff_not]
    omega

theorem usableDf_eq_some {state : Option CcmDfStateValue} {nowNs staleMs : Nat}
    {value : CcmDfStateValue} (usable : usableDf state nowNs staleMs = some value) :
    state = some value ∧ value.valid ≠ 0 ∧ FreshAt value.sampleTsNs nowNs staleMs := by
  obtain ⟨found, kept⟩ := Option.filter_eq_some_iff.mp usable
  simp only [Bool.and_eq_true, bne_iff_ne, Bool.not_eq_true'] at kept
  exact ⟨found, kept.1, isStale_eq_false_iff.mp kept.2⟩

theorem usableLlc_eq_some {state : Option LlcStateValue} {nowNs staleMs : Nat}
    {value : LlcStateValue} (usable : usableLlc state nowNs staleMs = some value) :
    state = some value ∧ value.valid ≠ 0 ∧ FreshAt value.sampleTsNs nowNs staleMs := by
  obtain ⟨found, kept⟩ := Option.filter_eq_some_iff.mp usable
  simp only [Bool.and_eq_true, bne_iff_ne, Bool.not_eq_true'] at kept
  exact ⟨found, kept.1, isStale_eq_false_iff.mp kept.2⟩

/-- What every move respects: the domain and the CPU may be used, and both samples
of the domain are fresh. -/
structure LegalTarget (ctx : PlacementContext) (domain cpu : Nat) : Prop where
  eligibleDomain : domain ∈ ctx.mapping.eligibleDomains
  allowed : cpu ∈ ctx.allowedCpus
  eligibleCpu : cpu ∈ ctx.mapping.eligibleCpus
  listed : ∃ info, ctx.topo.domains[domain]? = some info ∧ cpu ∈ info.cpus
  df : ∃ sample, getFlat ctx.dfStates domain = some sample ∧ sample.valid ≠ 0 ∧
    FreshAt sample.sampleTsNs ctx.nowNs ctx.cfg.dfStaleMs
  llc : ∃ sample, getFlat ctx.llcStates domain = some sample ∧ sample.valid ≠ 0 ∧
    FreshAt sample.sampleTsNs ctx.nowNs ctx.cfg.llcStaleMs

/-- What a move out of a known domain that is not excluded respects on top of that. -/
structure LegalMove (ctx : PlacementContext) (source domain : Nat) : Prop where
  elsewhere : domain ≠ source
  outgoing : ∀ state, ctx.plannedStates[source]? = some state →
    state.outgoingMigrations < state.migrationBudget
  incoming : ∀ state, ctx.plannedStates[domain]? = some state →
    state.incomingMigrations < state.migrationBudget
  warm : ctx.threadClass ≠ .cold
  signed : ∃ thread, ctx.thread = some thread ∧ thread.signature.valid = true ∧
    thread.settleUntilNs ≤ ctx.nowNs

namespace PlacementContext

variable {ctx : PlacementContext}

theorem Admitted.legalTarget {candidate : CandidateEval} (admitted : ctx.Admitted candidate) :
    LegalTarget ctx candidate.domain candidate.cpu := by
  obtain ⟨df, llc, admits⟩ := admitted
  obtain ⟨listed, usable⟩ := mem_domainCpusIn.mp (List.argmin_mem admits.cpu)
  have both : candidate.cpu ∈ ctx.allowedCpus ∧ candidate.cpu ∈ ctx.mapping.eligibleCpus := by
    simpa [allowedEligible, intersectionWithEligible, Std.TreeSet.mem_filter] using usable
  constructor
  · exact admits.eligible
  · exact both.1
  · exact both.2
  · exact listed
  · exact ⟨df, usableDf_eq_some admits.freshDf⟩
  · exact ⟨llc, usableLlc_eq_some admits.freshLlc⟩

/-- A current domain that is known and not excluded. -/
theorem currentExcluded_eq_false {source : Nat} (home : ctx.currentDomain = some source)
    (included : source ∉ ctx.mapping.excludedDomains) : ctx.currentExcluded = false := by
  unfold currentExcluded
  rw [home]
  exact Bool.eq_false_iff.mpr (mt Std.TreeSet.contains_iff_mem.mp included)

end PlacementContext

theorem PolicyOutcome.legalMove {ctx : PlacementContext} {decision : PlacementDecision}
    {source domain : Nat} (outcome : PolicyOutcome ctx decision)
    (moves : decision.reason = .moveCoolerDomain ∨ decision.reason = .excludedDomainEscape)
    (selected : decision.selectedDomain = some domain)
    (home : ctx.currentDomain = some source)
    (included : source ∉ ctx.mapping.excludedDomains) : LegalMove ctx source domain := by
  have known := ctx.currentExcluded_eq_false home included
  cases outcome with
  | spread => rcases moves with impossible | impossible <;> cases impossible
  | @stay reason _ _ _ _ _ _ stays =>
      have moves : reason = .moveCoolerDomain ∨ reason = .excludedDomainEscape := moves
      rcases moves with rfl | rfl <;> cases stays
  | escape _ excluded =>
      rw [known] at excluded
      cases excluded
  | move _ _ settled warm signed budget admitted =>
      obtain ⟨df, llc, admits⟩ := admitted
      obtain rfl := Option.some.inj selected
      constructor
      · intro same
        exact admits.elsewhere known (same ▸ home)
      · intro state found
        simpa [PlacementContext.sourceBudgetExhausted, PlacementContext.currentPlan, known, home,
          found] using budget
      · intro state found
        simpa [PlacementContext.destinationBudgetExhausted, found] using admits.budget known
      · exact warm
      · change (ctx.thread.map (·.signature.valid)).getD false = true at signed
        cases stored : ctx.thread with
        | none => simp [stored] at signed
        | some thread =>
            refine ⟨thread, rfl, by simpa [stored] using signed, ?_⟩
            simpa [PlacementContext.inSettleWindow, stored] using settled

/-- Every input of the policy: a move ends on a legal target and, out of a domain
that is not excluded, is a legal move; all other decisions but the spread of a
young task keep the current domain. -/
theorem choosePlacement_legal (ctx : PlacementContext) :
    let decision := choosePlacementWithPlannedCpus ctx
    (decision.reason = .moveCoolerDomain ∨ decision.reason = .excludedDomainEscape →
      ∃ domain cpu, decision.selectedDomain = some domain ∧ decision.selectedCpu = some cpu ∧
        LegalTarget ctx domain cpu ∧
        ∀ source, ctx.currentDomain = some source → source ∉ ctx.mapping.excludedDomains →
          LegalMove ctx source domain) ∧
    (decision.reason ≠ .moveCoolerDomain → decision.reason ≠ .excludedDomainEscape →
      decision.reason ≠ .idleSpread → decision.selectedDomain = ctx.currentDomain) := by
  intro decision
  have outcome : PolicyOutcome ctx decision := choosePlacement_outcome ctx
  constructor
  · intro moves
    have target : ∃ candidate, ctx.Admitted candidate ∧
        decision.selectedDomain = some candidate.domain ∧
        decision.selectedCpu = some candidate.cpu := by
      generalize decision = answer at outcome moves ⊢
      cases outcome with
      | spread => rcases moves with impossible | impossible <;> cases impossible
      | @stay reason _ _ _ _ _ _ stays =>
          have moves : reason = .moveCoolerDomain ∨ reason = .excludedDomainEscape := moves
          rcases moves with rfl | rfl <;> cases stays
      | @move best _ _ _ _ _ _ _ _ _ admitted => exact ⟨best, admitted, rfl, rfl⟩
      | @escape best _ _ _ admitted => exact ⟨best, admitted, rfl, rfl⟩
    obtain ⟨candidate, admitted, domain, cpu⟩ := target
    refine ⟨candidate.domain, candidate.cpu, domain, cpu, admitted.legalTarget, ?_⟩
    intro source home included
    exact outcome.legalMove moves domain home included
  · intro notMove notEscape notSpread
    generalize decision = answer at outcome notMove notEscape notSpread ⊢
    cases outcome with
    | spread => exact absurd rfl notSpread
    | stay => exact ctx.staySelectedDomain_eq
    | move => exact absurd rfl notMove
    | escape => exact absurd rfl notEscape

end CSwitch.Policy
