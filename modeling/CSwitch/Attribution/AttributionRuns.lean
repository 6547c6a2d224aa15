import CSwitch.Attribution.Arming
import CSwitch.Attribution.Distribution
import CSwitch.Planner.PlanProperties

/-! Attribution over runs. A plan that is armed leaves a pending record, and every
application looks for links with a sample after the one of their baseline. The record
is taken out of the state, marks the links that are done and goes back while there is
something left of it. -/

set_option autoImplicit false

namespace CSwitch.Attribution

open Planner

def planCsPendingMaxAgeNs (policy : PolicyConfig) (linkCount : Nat) : Nat :=
  satMul64 (satMul64 (planCsStaleMs policy linkCount) planCsAttributionMaxSweeps) 1000000

namespace PendingPlanCsAttribution

def baselineAt (pending : PendingPlanCsAttribution) (linkId : Nat) : Option PlanCsLinkBaseline :=
  pending.linkBaselines[linkId]?.join

def applied (pending : PendingPlanCsAttribution) (linkId : Nat) : Bool :=
  pending.appliedLinks[linkId]?.getD false

def pendingLinkCount (pending : PendingPlanCsAttribution) : Nat :=
  (List.range (min pending.linkCount maxDomains)).countP fun linkId =>
    (pending.baselineAt linkId).isSome && !pending.applied linkId

def complete (pending : PendingPlanCsAttribution) : Bool := pending.pendingLinkCount == 0

def planKey (pending : PendingPlanCsAttribution) : Nat × Nat :=
  (pending.plannerEpoch, pending.planRevision)

def apply (pending : PendingPlanCsAttribution) (linkId : Nat) : PendingPlanCsAttribution :=
  { pending with appliedLinks := pending.appliedLinks.setIfInBounds linkId true }

end PendingPlanCsAttribution

/-- The number of links that an application of the record looks at. -/
def planCsLinkCount (pending : PendingPlanCsAttribution)
    (dfCsStates : List (Option CcmDfStateValue)) : Nat :=
  min (min pending.linkCount dfCsStates.length) maxDomains

def freshPlanCsLink (pending : PendingPlanCsAttribution)
    (dfCsStates : List (Option CcmDfStateValue)) (nowNs staleMs linkId : Nat) :
    Option FreshPlanCsLink :=
  if pending.applied linkId then none
  else
    match pending.baselineAt linkId, getFlat dfCsStates linkId with
    | some baseline, some current =>
        if current.valid = 0 ∨ isStale current.sampleTsNs nowNs staleMs then none
        else if current.sampleTsNs > baseline.sampleTsNs then some { linkId, baseline, current }
        else none
    | _, _ => none

def freshPlanCsLinks (pending : PendingPlanCsAttribution)
    (dfCsStates : List (Option CcmDfStateValue)) (nowNs : Nat) (policy : PolicyConfig) :
    List FreshPlanCsLink :=
  let linkCount := planCsLinkCount pending dfCsStates
  (List.range linkCount).filterMap
    (freshPlanCsLink pending dfCsStates nowNs (planCsStaleMs policy linkCount))

/-- The loop over the fresh links, and what it has logged for each of them. -/
structure PlanCsProgress where
  pending : PendingPlanCsAttribution
  threads : ThreadMap
  actions : List (FreshPlanCsLink × PlanCsLinkAction)

def PlanCsProgress.step (linkCount activeCutoffNs nowNs : Nat) (progress : PlanCsProgress)
    (fresh : FreshPlanCsLink) : PlanCsProgress :=
  let pending := progress.pending.apply fresh.linkId
  let outcome := applyPlanCsLink pending progress.threads linkCount activeCutoffNs nowNs fresh
  { pending
    threads := outcome.threads
    actions := progress.actions ++ [(fresh, outcome.action)] }

structure PlanCsApplied where
  state : PlanCsAttributionState
  threads : ThreadMap
  actions : List (FreshPlanCsLink × PlanCsLinkAction) := []

def applyPlanCsAttribution (state : PlanCsAttributionState) (threads : ThreadMap)
    (dfCsStates : List (Option CcmDfStateValue)) (nowNs : Nat) (policy : PolicyConfig) :
    PlanCsApplied :=
  match state.pending with
  | none => { state, threads }
  | some pending =>
      let linkCount := planCsLinkCount pending dfCsStates
      let freshLinks := freshPlanCsLinks pending dfCsStates nowNs policy
      if freshLinks.isEmpty then
        if nowNs - pending.armedAtNs ≥ planCsPendingMaxAgeNs policy pending.linkCount then
          { state := { state with pending := none }, threads }
        else { state, threads }
      else
        let activeCutoffNs := nowNs - satMul64 (planCsStaleMs policy linkCount) 1000000
        let progress := freshLinks.foldl (PlanCsProgress.step linkCount activeCutoffNs nowNs)
          { pending, threads, actions := [] }
        { state :=
            { state with
              pending := if progress.pending.complete then none else some progress.pending }
          threads := progress.threads
          actions := progress.actions }

/-! ## Fresh links -/

section Fresh

variable {pending : PendingPlanCsAttribution} {dfCsStates : List (Option CcmDfStateValue)}
  {nowNs : Nat} {policy : PolicyConfig}

/-- A link of the record that has a baseline and a fresh sample after it. -/
structure FreshSample (pending : PendingPlanCsAttribution)
    (dfCsStates : List (Option CcmDfStateValue)) (nowNs : Nat) (policy : PolicyConfig)
    (fresh : FreshPlanCsLink) : Prop where
  inside : fresh.linkId < planCsLinkCount pending dfCsStates
  baseline : pending.baselineAt fresh.linkId = some fresh.baseline
  current : getFlat dfCsStates fresh.linkId = some fresh.current
  valid : fresh.current.valid ≠ 0
  recent : isStale fresh.current.sampleTsNs nowNs
    (planCsStaleMs policy (planCsLinkCount pending dfCsStates)) = false
  later : fresh.baseline.sampleTsNs < fresh.current.sampleTsNs

theorem freshPlanCsLink_eq_some {staleMs linkId : Nat} {fresh : FreshPlanCsLink} :
    freshPlanCsLink pending dfCsStates nowNs staleMs linkId = some fresh ↔
      fresh.linkId = linkId ∧ pending.applied linkId = false ∧
        pending.baselineAt linkId = some fresh.baseline ∧
        getFlat dfCsStates linkId = some fresh.current ∧ fresh.current.valid ≠ 0 ∧
        isStale fresh.current.sampleTsNs nowNs staleMs = false ∧
        fresh.baseline.sampleTsNs < fresh.current.sampleTsNs := by
  unfold freshPlanCsLink
  cases pending.applied linkId with
  | true => simp
  | false =>
      cases pending.baselineAt linkId with
      | none => simp
      | some baseline =>
          cases getFlat dfCsStates linkId with
          | none => simp
          | some current =>
              obtain ⟨freshId, freshBaseline, freshCurrent⟩ := fresh
              simp only [Bool.false_eq_true, if_false, Option.some.injEq, true_and]
              constructor
              · intro found
                split at found
                · cases found
                · next usable =>
                    split at found
                    · next later =>
                        cases found
                        simp only [not_or, Bool.not_eq_true] at usable
                        exact ⟨rfl, rfl, rfl, usable.1, usable.2, later⟩
                    · cases found
              · rintro ⟨rfl, rfl, rfl, valid, recent, later⟩
                simp [valid, recent, later]

theorem mem_freshPlanCsLinks {fresh : FreshPlanCsLink} :
    fresh ∈ freshPlanCsLinks pending dfCsStates nowNs policy ↔
      FreshSample pending dfCsStates nowNs policy fresh ∧ pending.applied fresh.linkId = false := by
  unfold freshPlanCsLinks
  rw [List.mem_filterMap]
  constructor
  · intro found
    obtain ⟨linkId, inside, sampled⟩ := found
    obtain ⟨rfl, unapplied, baseline, current, valid, recent, later⟩ :=
      freshPlanCsLink_eq_some.mp sampled
    exact ⟨⟨List.mem_range.mp inside, baseline, current, valid, recent, later⟩, unapplied⟩
  · intro sample
    obtain ⟨⟨inside, baseline, current, valid, recent, later⟩, unapplied⟩ := sample
    exact ⟨fresh.linkId, List.mem_range.mpr inside, freshPlanCsLink_eq_some.mpr
      ⟨rfl, unapplied, baseline, current, valid, recent, later⟩⟩

theorem freshPlanCsLinks_nodup :
    ((freshPlanCsLinks pending dfCsStates nowNs policy).map (·.linkId)).Nodup := by
  rw [List.Nodup, List.pairwise_map]
  refine List.Pairwise.filterMap _ ?_ List.nodup_range
  intro left right distinct leftFresh leftFound rightFresh rightFound
  rw [(freshPlanCsLink_eq_some.mp leftFound).1, (freshPlanCsLink_eq_some.mp rightFound).1]
  exact distinct

end Fresh

/-! ## Marks -/

/-- The record with some more of its links done. -/
structure AppliesLinks (pending after : PendingPlanCsAttribution) (linkIds : List Nat) : Prop where
  record : after = { pending with appliedLinks := after.appliedLinks }
  applied : ∀ linkId, after.applied linkId = true ↔
    pending.applied linkId = true ∨ (linkId ∈ linkIds ∧ linkId < maxDomains)

section Marks

variable {pending middle after : PendingPlanCsAttribution} {linkIds : List Nat}

theorem AppliesLinks.nil (pending : PendingPlanCsAttribution) : AppliesLinks pending pending [] where
  record := rfl
  applied linkId := by simp

theorem AppliesLinks.apply (marked : AppliesLinks pending middle linkIds) (linkId : Nat) :
    AppliesLinks pending (middle.apply linkId) (linkIds ++ [linkId]) where
  record := by
    rw [PendingPlanCsAttribution.apply, marked.record]
  applied other := by
    have before := marked.applied other
    unfold PendingPlanCsAttribution.applied PendingPlanCsAttribution.apply at *
    by_cases same : linkId = other
    · subst same
      by_cases inside : linkId < maxDomains
      · simp [inside]
      · simp [inside]
    · have apart : ¬other = linkId := fun equal => same equal.symm
      rw [Vector.getElem?_setIfInBounds_ne same, before, List.mem_append, List.mem_singleton]
      simp [apart]

theorem foldl_progress (linkCount activeCutoffNs nowNs : Nat) (freshLinks : List FreshPlanCsLink)
    (start : PlanCsProgress) (marked : AppliesLinks pending start.pending linkIds) :
    AppliesLinks pending
        (freshLinks.foldl (PlanCsProgress.step linkCount activeCutoffNs nowNs) start).pending
        (linkIds ++ freshLinks.map (·.linkId)) ∧
      (freshLinks.foldl (PlanCsProgress.step linkCount activeCutoffNs nowNs)
        start).actions.map Prod.fst = start.actions.map Prod.fst ++ freshLinks := by
  induction freshLinks generalizing start linkIds with
  | nil => simpa using marked
  | cons fresh rest ih =>
      have next := ih (start.step linkCount activeCutoffNs nowNs fresh) (marked.apply fresh.linkId)
      rw [List.append_assoc] at next
      refine ⟨next.1, next.2.trans ?_⟩
      simp [PlanCsProgress.step]

theorem complete_iff : pending.complete = true ↔
    ∀ linkId baseline, linkId < min pending.linkCount maxDomains →
      pending.baselineAt linkId = some baseline → pending.applied linkId = true := by
  unfold PendingPlanCsAttribution.complete PendingPlanCsAttribution.pendingLinkCount
  rw [beq_iff_eq, List.countP_eq_zero]
  constructor
  · intro done linkId baseline inside present
    have own := done linkId (List.mem_range.mpr inside)
    simpa [present] using own
  · intro done linkId inside
    cases present : pending.baselineAt linkId with
    | none => simp
    | some baseline => simp [done linkId baseline (List.mem_range.mp inside) present]

end Marks

/-- The five ways through an application. -/
inductive PlanCsApplication (state : PlanCsAttributionState) (threads : ThreadMap)
    (dfCsStates : List (Option CcmDfStateValue)) (nowNs : Nat) (policy : PolicyConfig) :
    PlanCsApplied → Prop where
  | idle (none : state.pending = none) :
      PlanCsApplication state threads dfCsStates nowNs policy { state, threads }
  | expired {pending} (held : state.pending = some pending)
      (unfresh : freshPlanCsLinks pending dfCsStates nowNs policy = [])
      (old : planCsPendingMaxAgeNs policy pending.linkCount ≤ nowNs - pending.armedAtNs) :
      PlanCsApplication state threads dfCsStates nowNs policy
        { state := { state with pending := none }, threads }
  | waiting {pending} (held : state.pending = some pending)
      (unfresh : freshPlanCsLinks pending dfCsStates nowNs policy = []) :
      PlanCsApplication state threads dfCsStates nowNs policy { state, threads }
  | completed {pending after appliedThreads actions} (held : state.pending = some pending)
      (marked : AppliesLinks pending after
        ((freshPlanCsLinks pending dfCsStates nowNs policy).map (·.linkId)))
      (logged : actions.map Prod.fst = freshPlanCsLinks pending dfCsStates nowNs policy)
      (complete : after.complete = true) :
      PlanCsApplication state threads dfCsStates nowNs policy
        { state := { state with pending := none }, threads := appliedThreads, actions }
  | continued {pending after appliedThreads actions} (held : state.pending = some pending)
      (marked : AppliesLinks pending after
        ((freshPlanCsLinks pending dfCsStates nowNs policy).map (·.linkId)))
      (logged : actions.map Prod.fst = freshPlanCsLinks pending dfCsStates nowNs policy) :
      PlanCsApplication state threads dfCsStates nowNs policy
        { state := { state with pending := some after }, threads := appliedThreads, actions }

theorem applyPlanCsAttribution_cases (state : PlanCsAttributionState) (threads : ThreadMap)
    (dfCsStates : List (Option CcmDfStateValue)) (nowNs : Nat) (policy : PolicyConfig) :
    PlanCsApplication state threads dfCsStates nowNs policy
      (applyPlanCsAttribution state threads dfCsStates nowNs policy) := by
  unfold applyPlanCsAttribution
  cases held : state.pending with
  | none => exact .idle held
  | some pending =>
      dsimp only
      split
      · next empty =>
          have unfresh := List.isEmpty_iff.mp empty
          split
          · next old => exact .expired held unfresh old
          · exact .waiting held unfresh
      · have progress := foldl_progress (planCsLinkCount pending dfCsStates)
          (nowNs - satMul64 (planCsStaleMs policy (planCsLinkCount pending dfCsStates)) 1000000)
          nowNs (freshPlanCsLinks pending dfCsStates nowNs policy)
          { pending, threads, actions := [] } (AppliesLinks.nil pending)
        split
        · next complete => exact .completed held progress.1 progress.2 complete
        · exact .continued held progress.1 progress.2

/-! ## Runs -/

structure AttributionInput where
  threads : ThreadMap
  dfCsStates : List (Option CcmDfStateValue)
  nowNs : Nat
  policy : PolicyConfig

inductive AttributionCall where
  | arm (plan : PlacementPlan) (input : AttributionInput)
  | apply (input : AttributionInput)

/-- A link that was done for an armed record, counted from the first. -/
structure PlanCsAttributed where
  record : Nat
  input : AttributionInput
  fresh : FreshPlanCsLink
  action : PlanCsLinkAction

def PlanCsAttributed.key (attributed : PlanCsAttributed) : Nat × Nat :=
  (attributed.record, attributed.fresh.linkId)

/-- The state between two calls, with every record that was armed and every link that
was done so far. -/
structure AttributionRun where
  state : PlanCsAttributionState := {}
  armed : List PendingPlanCsAttribution := []
  attributed : List PlanCsAttributed := []

def AttributionInput.arming (input : AttributionInput) (state : PlanCsAttributionState)
    (plan : PlacementPlan) : Option PendingPlanCsAttribution :=
  planCsArming state plan input.threads input.dfCsStates input.nowNs input.policy

def AttributionInput.applied (input : AttributionInput) (state : PlanCsAttributionState) :
    PlanCsApplied :=
  applyPlanCsAttribution state input.threads input.dfCsStates input.nowNs input.policy

/-- What an application logs, as entries of the run. -/
def logOf (run : AttributionRun) (input : AttributionInput)
    (actions : List (FreshPlanCsLink × PlanCsLinkAction)) : List PlanCsAttributed :=
  actions.map fun (fresh, action) => { record := run.armed.length - 1, input, fresh, action }

def AttributionRun.step (run : AttributionRun) : AttributionCall → AttributionRun
  | .arm plan input =>
      { run with
        state :=
          armPlanCsAttribution run.state plan input.threads input.dfCsStates input.nowNs input.policy
        armed := run.armed ++ (input.arming run.state plan).toList }
  | .apply input =>
      { run with
        state := (input.applied run.state).state
        attributed := run.attributed ++ logOf run input (input.applied run.state).actions }

def attributionRun (calls : List AttributionCall) : AttributionRun :=
  calls.foldl AttributionRun.step {}

/-- A record has baselines for the links that it counts, and no others. -/
def BaselinesCounted (record : PendingPlanCsAttribution) : Prop :=
  ∀ linkId baseline, record.baselineAt linkId = some baseline →
    linkId < min record.linkCount maxDomains

/-- The record that is pending is the last one armed, and its marks are what was
logged for it. -/
structure PendingLogged (run : AttributionRun) (pending record : PendingPlanCsAttribution) :
    Prop where
  last : run.armed.getLast? = some record
  record : pending = { record with appliedLinks := pending.appliedLinks }
  applied : ∀ linkId, pending.applied linkId = true ↔
    (run.armed.length - 1, linkId) ∈ run.attributed.map (·.key)

structure AttributionInvariant (run : AttributionRun) : Prop where
  counted : ∀ record ∈ run.armed, BaselinesCounted record
  keys : (run.armed.map (·.planKey)).IsChain (· ≠ ·)
  lastArmed : run.state.lastArmedPlan = (run.armed.map (·.planKey)).getLast?
  fresh : ∀ attributed ∈ run.attributed, ∃ record, run.armed[attributed.record]? = some record ∧
    FreshSample record attributed.input.dfCsStates attributed.input.nowNs attributed.input.policy
      attributed.fresh
  once : (run.attributed.map (·.key)).Nodup
  pending : ∀ pending, run.state.pending = some pending →
    ∃ record, PendingLogged run pending record

section Runs

variable {run : AttributionRun}

/-- A sample is fresh for a record whatever its marks are. -/
theorem FreshSample.of_record {pending record : PendingPlanCsAttribution}
    {dfCsStates : List (Option CcmDfStateValue)} {nowNs : Nat} {policy : PolicyConfig}
    {fresh : FreshPlanCsLink} (same : pending = { record with appliedLinks := pending.appliedLinks })
    (sample : FreshSample pending dfCsStates nowNs policy fresh) :
    FreshSample record dfCsStates nowNs policy fresh := by
  rw [same] at sample
  exact ⟨sample.inside, sample.baseline, sample.current, sample.valid, sample.recent, sample.later⟩

theorem planCsArming_some {state : PlanCsAttributionState} {plan : PlacementPlan}
    {input : AttributionInput} {record : PendingPlanCsAttribution}
    (arming : input.arming state plan = some record) :
    state.lastArmedPlan ≠ some record.planKey ∧ record.planKey = planKey plan ∧
      BaselinesCounted record ∧ ∀ linkId, record.applied linkId = false := by
  unfold AttributionInput.arming planCsArming at arming
  split at arming
  · cases arming
  · next other =>
      dsimp only at arming
      split at arming
      · cases arming
      · split at arming
        · cases arming
        · cases arming
          refine ⟨other, rfl, ?_, ?_⟩
          · intro linkId baseline present
            unfold PendingPlanCsAttribution.baselineAt capturePlanCsLinkBaselines at present
            obtain ⟨inside, stored⟩ := Vector.getElem?_eq_some_iff.mp (Option.join_eq_some_iff.mp present)
            rw [Vector.getElem_ofFn, planCsLinkBaseline, getFlat] at stored
            obtain ⟨sample, kept, _⟩ := Option.map_eq_some_iff.mp stored
            have listed := Option.join_eq_some_iff.mp (Option.filter_eq_some_iff.mp kept).1
            have short := (List.getElem?_eq_some_iff.mp listed).1
            exact lt_min (lt_min short inside) inside
          · intro linkId
            unfold PendingPlanCsAttribution.applied
            by_cases inside : linkId < maxDomains
            · simp [inside]
            · simp [inside]

theorem step_arm_none {plan : PlacementPlan} {input : AttributionInput}
    (arming : input.arming run.state plan = none) : run.step (.arm plan input) = run := by
  have unchanged : armPlanCsAttribution run.state plan input.threads input.dfCsStates input.nowNs
      input.policy = run.state := by
    rw [AttributionInput.arming] at arming
    rw [armPlanCsAttribution, arming]
  rw [AttributionRun.step, unchanged, arming, Option.toList_none, List.append_nil]

theorem step_arm_some {plan : PlacementPlan} {input : AttributionInput}
    {record : PendingPlanCsAttribution} (arming : input.arming run.state plan = some record) :
    run.step (.arm plan input) =
      { run with
        state := { pending := some record, lastArmedPlan := some (planKey plan) }
        armed := run.armed ++ [record] } := by
  have armed : armPlanCsAttribution run.state plan input.threads input.dfCsStates input.nowNs
      input.policy = { pending := some record, lastArmedPlan := some (planKey plan) } := by
    rw [AttributionInput.arming] at arming
    rw [armPlanCsAttribution, arming]
  rw [AttributionRun.step, armed, arming, Option.toList_some]

theorem AttributionInvariant.arm (holds : AttributionInvariant run) (plan : PlacementPlan)
    (input : AttributionInput) : AttributionInvariant (run.step (.arm plan input)) := by
  cases arming : input.arming run.state plan with
  | none => exact (step_arm_none arming).symm ▸ holds
  | some record =>
      obtain ⟨other, key, counted, unapplied⟩ := planCsArming_some arming
      rw [step_arm_some arming]
      refine
        { counted := ?_
          keys := ?_
          lastArmed := by simp [key]
          fresh := ?_
          once := holds.once
          pending := ?_ }
      · intro old member
        cases List.mem_append.mp member with
        | inl before => exact holds.counted old before
        | inr new => exact List.mem_singleton.mp new ▸ counted
      · rw [List.map_append, List.map_singleton, List.isChain_append]
        refine ⟨holds.keys, .singleton _, ?_⟩
        intro lastKey isLast newKey isNew same
        cases isNew
        rw [holds.lastArmed] at other
        exact other (same ▸ isLast)
      · intro attributed logged
        obtain ⟨old, armed, sample⟩ := holds.fresh attributed logged
        have inside := (List.getElem?_eq_some_iff.mp armed).1
        exact ⟨old, (List.getElem?_append_left inside).trans armed, sample⟩
      · intro pending held
        cases held
        refine ⟨record, by simp, rfl, ?_⟩
        -- nothing is logged for a record before it is armed
        intro linkId
        rw [unapplied linkId]
        refine iff_of_false Bool.false_ne_true ?_
        intro listed
        obtain ⟨attributed, logged, same⟩ := List.mem_map.mp listed
        obtain ⟨old, armed, _⟩ := holds.fresh attributed logged
        have inside := (List.getElem?_eq_some_iff.mp armed).1
        have number := congrArg Prod.fst same
        simp only [PlanCsAttributed.key, List.length_append, List.length_singleton] at number
        omega

theorem step_apply (run : AttributionRun) (input : AttributionInput) :
    run.step (.apply input) =
      { run with
        state := (input.applied run.state).state
        attributed := run.attributed ++ logOf run input (input.applied run.state).actions } :=
  rfl

theorem map_key_logOf {input : AttributionInput}
    {actions : List (FreshPlanCsLink × PlanCsLinkAction)} {freshLinks : List FreshPlanCsLink}
    (logged : actions.map Prod.fst = freshLinks) :
    (logOf run input actions).map (·.key) =
      (freshLinks.map (·.linkId)).map fun linkId => (run.armed.length - 1, linkId) := by
  rw [← logged, logOf, List.map_map, List.map_map, List.map_map]
  rfl

theorem mem_logOf {input : AttributionInput}
    {actions : List (FreshPlanCsLink × PlanCsLinkAction)} {freshLinks : List FreshPlanCsLink}
    {attributed : PlanCsAttributed} (logged : actions.map Prod.fst = freshLinks)
    (member : attributed ∈ logOf run input actions) :
    attributed.record = run.armed.length - 1 ∧ attributed.input = input ∧
      attributed.fresh ∈ freshLinks := by
  obtain ⟨entry, listed, rfl⟩ := List.mem_map.mp member
  exact ⟨rfl, rfl, logged ▸ List.mem_map_of_mem listed⟩

/-- The links that an application marks are new to the log. -/
theorem AttributionInvariant.log {pending after : PendingPlanCsAttribution}
    {input : AttributionInput} {actions : List (FreshPlanCsLink × PlanCsLinkAction)}
    (holds : AttributionInvariant run) (held : run.state.pending = some pending)
    (marked : AppliesLinks pending after
      ((freshPlanCsLinks pending input.dfCsStates input.nowNs input.policy).map (·.linkId)))
    (logged : actions.map Prod.fst =
      freshPlanCsLinks pending input.dfCsStates input.nowNs input.policy)
    {next : Option PendingPlanCsAttribution} (kept : ∀ other, next = some other → other = after) :
    AttributionInvariant
      { run with
        state := { run.state with pending := next }
        attributed := run.attributed ++ logOf run input actions } := by
  obtain ⟨record, last, same, applied⟩ := holds.pending pending held
  have newest : run.armed[run.armed.length - 1]? = some record :=
    List.getLast?_eq_getElem?.symm.trans last
  refine
    { counted := holds.counted
      keys := holds.keys
      lastArmed := holds.lastArmed
      fresh := ?_
      once := ?_
      pending := ?_ }
  · intro attributed member
    cases List.mem_append.mp member with
    | inl before => exact holds.fresh attributed before
    | inr new =>
        obtain ⟨number, rfl, sampled⟩ := mem_logOf logged new
        refine ⟨record, by rw [number, newest], ?_⟩
        exact (mem_freshPlanCsLinks.mp sampled).1.of_record same
  · rw [List.map_append, map_key_logOf logged, List.nodup_append]
    refine ⟨holds.once, ?_, ?_⟩
    · exact freshPlanCsLinks_nodup.map fun _ _ equal => congrArg Prod.snd equal
    · intro before old new isNew equal
      obtain ⟨linkId, isFresh, rfl⟩ := List.mem_map.mp isNew
      obtain ⟨fresh, sampled, rfl⟩ := List.mem_map.mp isFresh
      have done := (applied fresh.linkId).mpr (equal ▸ old)
      exact Bool.false_ne_true ((mem_freshPlanCsLinks.mp sampled).2.symm.trans done)
  · intro other held
    obtain rfl := kept other held
    refine ⟨record, last, ?_, ?_⟩
    · rw [marked.record, same]
    · intro linkId
      rw [marked.applied, applied, List.map_append, map_key_logOf logged, List.mem_append]
      refine or_congr_right ?_
      constructor
      · intro isFresh
        exact List.mem_map.mpr ⟨linkId, isFresh.1, rfl⟩
      · intro isFresh
        obtain ⟨_, member, equal⟩ := List.mem_map.mp isFresh
        cases equal
        refine ⟨member, ?_⟩
        obtain ⟨fresh, sampled, rfl⟩ := List.mem_map.mp member
        have inside := (mem_freshPlanCsLinks.mp sampled).1.inside
        exact lt_of_lt_of_le inside (Nat.min_le_right _ _)

theorem AttributionInvariant.apply (holds : AttributionInvariant run) (input : AttributionInput) :
    AttributionInvariant (run.step (.apply input)) := by
  rw [step_apply]
  have application := applyPlanCsAttribution_cases run.state input.threads input.dfCsStates
    input.nowNs input.policy
  rw [AttributionInput.applied]
  generalize applyPlanCsAttribution run.state input.threads input.dfCsStates input.nowNs
    input.policy = applied at application ⊢
  cases application with
  | idle => exact (List.append_nil run.attributed).symm ▸ holds
  | waiting => exact (List.append_nil run.attributed).symm ▸ holds
  | expired =>
      refine ⟨holds.counted, holds.keys, holds.lastArmed, ?_, ?_, ?_⟩
      · simpa [logOf] using holds.fresh
      · simpa [logOf] using holds.once
      · intro pending held
        cases held
  | completed held marked logged =>
      exact holds.log held marked logged fun other isNone => by cases isNone
  | continued held marked logged =>
      exact holds.log held marked logged fun other isSome => (Option.some.inj isSome).symm

theorem AttributionInvariant.step (holds : AttributionInvariant run) (call : AttributionCall) :
    AttributionInvariant (run.step call) := by
  cases call with
  | arm plan input => exact holds.arm plan input
  | apply input => exact holds.apply input

theorem attributionInvariant_start : AttributionInvariant {} where
  counted record member := by cases member
  keys := .nil
  lastArmed := rfl
  fresh attributed member := by cases member
  once := .nil
  pending pending held := by cases held

theorem attributionInvariant_foldl (holds : AttributionInvariant run)
    (calls : List AttributionCall) : AttributionInvariant (calls.foldl AttributionRun.step run) := by
  induction calls generalizing run with
  | nil => exact holds
  | cons call rest ih => exact ih (holds.step call)

/-- What a call does to the record that is pending. -/
inductive PendingStep (run : AttributionRun) (pending : PendingPlanCsAttribution)
    (call : AttributionCall) : Prop where
  | kept {after} (held : (run.step call).state.pending = some after)
      (record : after = { pending with appliedLinks := after.appliedLinks })
  | replaced {plan input record} (called : call = .arm plan input)
      (arming : input.arming run.state plan = some record)
      (held : (run.step call).state.pending = some record)
  | done {input} (called : call = .apply input)
      (done : ∀ linkId baseline, pending.baselineAt linkId = some baseline →
        (run.armed.length - 1, linkId) ∈ (run.step call).attributed.map (·.key))
  | expired {input} (called : call = .apply input)
      (unfresh : ∀ fresh, FreshSample pending input.dfCsStates input.nowNs input.policy fresh →
        (run.armed.length - 1, fresh.linkId) ∈ run.attributed.map (·.key))
      (old : planCsPendingMaxAgeNs input.policy pending.linkCount ≤
        input.nowNs - pending.armedAtNs)

/-- Every link of a completed record has been logged. -/
theorem AttributionInvariant.done {pending after : PendingPlanCsAttribution}
    {input : AttributionInput} {actions : List (FreshPlanCsLink × PlanCsLinkAction)}
    (holds : AttributionInvariant run) (held : run.state.pending = some pending)
    (marked : AppliesLinks pending after
      ((freshPlanCsLinks pending input.dfCsStates input.nowNs input.policy).map (·.linkId)))
    (logged : actions.map Prod.fst =
      freshPlanCsLinks pending input.dfCsStates input.nowNs input.policy)
    (complete : after.complete = true) {linkId : Nat} {baseline : PlanCsLinkBaseline}
    (present : pending.baselineAt linkId = some baseline) :
    (run.armed.length - 1, linkId) ∈
      (run.attributed ++ logOf run input actions).map (·.key) := by
  obtain ⟨record, last, same, applied⟩ := holds.pending pending held
  have counted := holds.counted record (List.mem_of_getLast? last)
  have inside : linkId < min pending.linkCount maxDomains := by
    rw [same] at present ⊢
    exact counted linkId baseline present
  have isMarked : after.applied linkId = true := by
    have all := complete_iff.mp complete linkId baseline
    rw [marked.record] at all
    exact marked.record ▸ all inside present
  rw [List.map_append, map_key_logOf logged]
  cases (marked.applied linkId).mp isMarked with
  | inl before => exact List.mem_append_left _ ((applied linkId).mp before)
  | inr new => exact List.mem_append_right _ (List.mem_map_of_mem new.1)

theorem AttributionInvariant.pendingStep {pending : PendingPlanCsAttribution}
    (holds : AttributionInvariant run) (held : run.state.pending = some pending)
    (call : AttributionCall) : PendingStep run pending call := by
  cases call with
  | arm plan input =>
      cases arming : input.arming run.state plan with
      | none => exact .kept (by rw [step_arm_none arming]; exact held) rfl
      | some record => exact .replaced rfl arming (by rw [step_arm_some arming])
  | apply input =>
      have application := applyPlanCsAttribution_cases run.state input.threads input.dfCsStates
        input.nowNs input.policy
      have stepped := step_apply run input
      rw [AttributionInput.applied] at stepped
      generalize applyPlanCsAttribution run.state input.threads input.dfCsStates input.nowNs
        input.policy = applied at application stepped
      obtain ⟨record, _, _, logged⟩ := holds.pending pending held
      cases application with
      | idle none => cases none.symm.trans held
      | waiting => exact .kept (by rw [stepped]; exact held) rfl
      | expired other unfresh old =>
          obtain rfl := Option.some.inj (held.symm.trans other)
          refine .expired rfl ?_ old
          intro fresh sample
          by_contra unlogged
          have unapplied : pending.applied fresh.linkId = false :=
            Bool.eq_false_iff.mpr fun isApplied => unlogged ((logged fresh.linkId).mp isApplied)
          have listed := mem_freshPlanCsLinks.mpr ⟨sample, unapplied⟩
          rw [unfresh] at listed
          cases listed
      | completed other marked actions complete =>
          obtain rfl := Option.some.inj (held.symm.trans other)
          refine .done rfl ?_
          intro linkId baseline present
          rw [stepped]
          exact holds.done held marked actions complete present
      | continued other marked actions =>
          obtain rfl := Option.some.inj (held.symm.trans other)
          exact .kept (by rw [stepped]) marked.record

/-- Whatever the samples are and in whichever order plans are armed and applied, a link
is done once at most for each armed record, and only with a baseline and a fresh sample
after it; the keys of two plans armed one after the other differ; and a pending record
stays until a new one replaces it, all its links are done, or it has reached its
greatest age and no link is fresh. -/
theorem attributionRun_once (calls : List AttributionCall) :
    ((attributionRun calls).attributed.map (·.key)).Nodup ∧
      (∀ attributed ∈ (attributionRun calls).attributed,
        ∃ record, (attributionRun calls).armed[attributed.record]? = some record ∧
          FreshSample record attributed.input.dfCsStates attributed.input.nowNs
            attributed.input.policy attributed.fresh) ∧
      ((attributionRun calls).armed.map (·.planKey)).IsChain (· ≠ ·) ∧
      ∀ pending call, (attributionRun calls).state.pending = some pending →
        PendingStep (attributionRun calls) pending call := by
  have holds := attributionInvariant_foldl attributionInvariant_start calls
  exact ⟨holds.once, holds.fresh, holds.keys, fun pending call held => holds.pendingStep held call⟩

end Runs

/-! A record whose greatest age is 2000000 ns is dropped when it is exactly that old. -/

def armedThread : ManagedThreadState where
  lastSeenNs := 2000000

def armingInput : AttributionInput where
  threads := .ofList [(11, armedThread)]
  dfCsStates := [some { sampleTsNs := 2000000, rawReadBwMibSX100 := 3000, valid := 1 }]
  nowNs := 2000000
  policy := { samplePolicy with dfStaleMs := 1 }

def armingPlan : PlacementPlan where
  builtFromSweepEpoch := 1
  planRevision := 1
  entries := (∅ : Std.TreeMap Nat PlacementPlanEntry).insert 11 {}

def silentInput : AttributionInput where
  threads := ∅
  dfCsStates := [none]
  nowNs := 4000000
  policy := { samplePolicy with dfStaleMs := 1 }

theorem attributionRun_expires_at_age :
    ∃ pending, (attributionRun [.arm armingPlan armingInput]).state.pending = some pending ∧
      (pending.baselineAt 0).isSome = true ∧
      (attributionRun [.arm armingPlan armingInput, .apply silentInput]).state.pending.isNone = true ∧
      (attributionRun [.arm armingPlan armingInput, .apply silentInput]).attributed.length = 0 ∧
      (attributionRun [.arm armingPlan armingInput, .apply silentInput]).armed.length = 1 ∧
      ¬planCsPendingMaxAgeNs silentInput.policy pending.linkCount <
        silentInput.nowNs - pending.armedAtNs := by
  have armed : (attributionRun [.arm armingPlan armingInput]).state.pending.map
      (fun pending => (pending.linkCount, pending.armedAtNs, (pending.baselineAt 0).isSome)) =
        some (1, 2000000, true) := by
    decide +kernel
  obtain ⟨pending, held, fields⟩ := Option.map_eq_some_iff.mp armed
  injection fields with linkCount fields
  injection fields with armedAt baseline
  refine ⟨pending, held, baseline, by decide +kernel, by decide +kernel, by decide +kernel, ?_⟩
  rw [linkCount, armedAt]
  decide

end CSwitch.Attribution
