import CSwitch.Dispatch.PlannerLink
import CSwitch.Dispatch.SchedulerProperties

/-! What survives between the main loop and the planner worker, in any order of
their steps: the triggers that were raised, and the identity of the plans. -/

set_option autoImplicit false

namespace CSwitch.Dispatch

open Std (TreeMap TreeSet)
open Attribution Planner Library
open SchedulerConfig (sampleScheduler shuttleWorld)

/-! ## The protocol -/

structure LinkView where
  requestSlot : Option PlannerRequest
  batch : Option PlannerRequest
  results : List PlannerOutput
  activePlan : Option PlacementPlan
  lastArmedPlan : Option (Nat × Nat)

def PlannerLink.view (link : PlannerLink) : LinkView where
  requestSlot := link.requestSlot
  batch := link.batch
  results := link.results
  activePlan := link.activePlan
  lastArmedPlan := link.planCsAttribution.lastArmedPlan

structure LinkEvents where
  offered : List PlannerRequest := []
  raised : List PlannerTrigger := []
  called : List PlannerRequest := []
  produced : List PlacementPlan := []
  adopted : List PlacementPlan := []
  armed : List PlacementPlan := []

/-- The protocol between the threads, without what a plan contains and when a
request is sent. -/
inductive LinkStep (view : LinkView) : LinkEvents → LinkView → Prop where
  | quiet : LinkStep view {} view
  | accepted {request : PlannerRequest} (free : view.requestSlot = none)
      (previous : request.snapshot.previousPlan.map planKey = view.activePlan.map planKey) :
      LinkStep view { offered := [request], raised := request.triggers }
        { view with requestSlot := some request }
  | refused {request waiting : PlannerRequest} (full : view.requestSlot = some waiting)
      (lost : request.triggers ≠ []) :
      LinkStep view { offered := [request], raised := request.triggers } view
  | adopts {output : PlannerOutput} {rest : List PlannerOutput}
      (front : view.results = output :: rest) :
      LinkStep view { adopted := [output.plan] }
        { view with activePlan := some output.plan, results := rest }
  | arms {plan : PlacementPlan} (active : view.activePlan = some plan) :
      LinkStep view { armed := [plan] } { view with lastArmedPlan := some (planKey plan) }
  | takes {request : PlannerRequest} (idle : view.batch = none)
      (waiting : view.requestSlot = some request) :
      LinkStep view {} { view with batch := some request, requestSlot := none }
  | merges {batch next : PlannerRequest} (busy : view.batch = some batch)
      (waiting : view.requestSlot = some next) :
      LinkStep view {}
        { view with
          batch := some { snapshot := next.snapshot, triggers := batch.triggers ++ next.triggers }
          requestSlot := none }
  | computes {batch : PlannerRequest} {output : PlannerOutput} (busy : view.batch = some batch)
      (revision : output.plan.planRevision = satAdd64 (previousRevision batch.snapshot) 1) :
      LinkStep view { called := [batch], produced := [output.plan] }
        { view with batch := none, results := view.results ++ [output] }

theorem PlannerLink.planToArm_active {config : LinkConfig} {link : PlannerLink}
    {plan : PlacementPlan} (offered : link.planToArm config = some plan) :
    link.activePlan = some plan := by
  unfold PlannerLink.planToArm at offered
  split at offered
  · exact (Option.filter_eq_some_iff.mp offered).1
  · simp at offered

theorem retargetPlan_key (plan : Option PlacementPlan) (latestDfSweepEpoch : Nat)
    (targetCpus : TreeMap Nat Nat) :
    (retargetPlan plan latestDfSweepEpoch targetCpus).map planKey = plan.map planKey := by
  cases plan with
  | none => rfl
  | some plan =>
      unfold retargetPlan
      rw [Option.map_some, Option.map_some, Option.map_some]
      split
      · rfl
      · rfl

/-- The bursts leave the key of the active plan as it was received. -/
theorem PlannerLink.heldPlan_key (link : PlannerLink) :
    link.heldPlan.map planKey = link.activePlan.map planKey := by
  unfold PlannerLink.heldPlan
  refine List.foldlRecOn link.burstTargets _
    (motive := fun plan : Option PlacementPlan => plan.map planKey = link.activePlan.map planKey)
    rfl ?_
  intro plan same burst _
  exact (retargetPlan_key plan burst.1 burst.2).trans same

namespace LinkConfig

variable (config : LinkConfig)

def events (action : LinkAction) (link : PlannerLink) : LinkEvents where
  offered := config.offered action link
  raised := config.raised action link
  called := called action link
  produced := config.produced action link
  adopted := adopted action link
  armed := config.arms action link

/-! ## The code follows the protocol -/

variable (link : PlannerLink)

private theorem sample_follows (world : IterationWorld) :
    LinkStep link.view (config.events (.sample world) link) (link.sample world).view := by
  have same : (link.sample world).view = link.view := by
    unfold PlannerLink.sample
    split <;> rfl
  rw [same]
  exact .quiet

private theorem tryRecv_follows :
    LinkStep link.view (config.events .tryRecv link) link.tryRecv.view := by
  obtain ⟨_, _, _, _, _, phase, _, _, results, _, _⟩ := link
  cases phase with
  | sampling => exact .quiet
  | requesting => exact .quiet
  | dispatching => exact .quiet
  | receiving =>
      cases results with
      | nil => exact .quiet
      | cons output rest => exact .adopts rfl
  | collecting =>
      cases results with
      | nil => exact .quiet
      | cons output rest => exact .adopts rfl

private theorem request_follows :
    LinkStep link.view (config.events .request link) (link.request config).view := by
  cases phase : link.phase with
  | requesting world =>
      have viewed : (link.request config).view =
          if link.sendsRequest config world then
            (link.trySend (link.plannerRequest config world)).view
          else link.view := by
        simp only [PlannerLink.request, phase, PlannerLink.view, PlannerLink.trySend]
        repeat' split
        all_goals rfl
      cases sends : link.sendsRequest config world with
      | true =>
          have swept : 0 < link.latestDfSweepEpoch ∧ link.plannerTriggers config world ≠ [] := by
            simpa [PlannerLink.sendsRequest] using sends
          have observed : config.events .request link =
              { offered := [link.plannerRequest config world]
                raised := (link.plannerRequest config world).triggers } := by
            simp [events, offered, raised, called, produced, adopted, arms, phase, sends, swept.1,
              PlannerLink.plannerRequest]
          rw [observed, viewed, if_pos sends]
          unfold PlannerLink.trySend
          split
          next free => exact .accepted free link.heldPlan_key
          next waiting full => exact .refused full swept.2
      | false =>
          have observed : config.events .request link = {} := by
            have unsent : 0 < link.latestDfSweepEpoch → link.plannerTriggers config world = [] := by
              simpa [PlannerLink.sendsRequest] using sends
            have none : config.raised .request link = [] := by
              simp only [raised, phase]
              split
              next swept => exact unsent swept
              · rfl
            simp [events, offered, none, called, produced, adopted, arms, phase, sends]
          rw [observed, viewed, sends]
          exact .quiet
  | sampling | receiving | collecting | dispatching =>
      simp only [events, offered, raised, called, produced, adopted, arms, PlannerLink.request, phase]
      exact .quiet

private theorem dispatch_follows :
    LinkStep link.view (config.events .dispatch link) (link.dispatch config).view := by
  cases phase : link.phase with
  | dispatching world =>
      simp only [events, offered, raised, called, produced, adopted, arms, PlannerLink.dispatch, phase]
      cases offered : link.planToArm config with
      | none => exact .quiet
      | some plan =>
          have active : link.activePlan = some plan := PlannerLink.planToArm_active offered
          cases arming : planCsArming link.planCsAttribution plan
              (config.scheduler.preparedThreads world.round link.scheduler) world.dfCsStates
              world.armNowNs config.scheduler.cfg with
          | none =>
              simp only [Option.toList_some, List.filter_singleton, arming, PlannerLink.armed,
                armPlanCsAttribution, Option.map_some, Option.getD_some]
              exact .quiet
          | some pending =>
              simp only [Option.toList_some, List.filter_singleton, arming, PlannerLink.armed,
                armPlanCsAttribution, Option.map_some, Option.getD_some]
              exact .arms active
  | sampling | receiving | collecting | requesting =>
      simp only [events, offered, raised, called, produced, adopted, arms, PlannerLink.dispatch, phase]
      exact .quiet

/-- Every step of the two threads is a step of the protocol. -/
theorem step_follows (action : LinkAction) :
    LinkStep link.view (config.events action link) (config.step action link).view := by
  cases action with
  | sample world => exact config.sample_follows link world
  | tryRecv => exact config.tryRecv_follows link
  | request => exact config.request_follows link
  | dispatch => exact config.dispatch_follows link
  | recvFirst =>
      change LinkStep link.view {} link.recvFirst.view
      unfold PlannerLink.recvFirst
      split
      next first idle waiting => exact .takes idle waiting
      · exact .quiet
  | recvNext =>
      change LinkStep link.view {} link.recvNext.view
      unfold PlannerLink.recvNext
      split
      next batch next busy waiting => exact .merges busy waiting
      · exact .quiet
  | compute =>
      cases batch : link.batch with
      | none =>
          simp only [events, offered, raised, called, produced, adopted, arms, step,
            PlannerLink.compute, batch]
          exact .quiet
      | some request =>
          simp only [events, offered, raised, called, produced, adopted, arms, step,
            PlannerLink.compute, batch]
          exact .computes batch rfl

end LinkConfig

/-! ## Triggers -/

def LinkView.heldTriggers (view : LinkView) : Multiset PlannerTrigger :=
  view.requestSlot.toList.flatMap PlannerRequest.triggers +
    view.batch.toList.flatMap PlannerRequest.triggers

def LinkEvents.refusedTriggers (events : LinkEvents) (view : LinkView) : List PlannerTrigger :=
  if view.requestSlot.isSome then events.offered.flatMap PlannerRequest.triggers else []

section Protocol

variable {view next : LinkView} {events : LinkEvents}

/-- What a step raises is held, handed to the planner, or refused. -/
theorem LinkStep.balances (step : LinkStep view events next) :
    next.heldTriggers + ↑(events.called.flatMap PlannerRequest.triggers ++
        events.refusedTriggers view) = view.heldTriggers + events.raised := by
  unfold LinkView.heldTriggers LinkEvents.refusedTriggers
  cases step with
  | quiet => simp
  | accepted free previous => simp [free, add_comm]
  | refused full lost => simp [full]
  | adopts front => simp
  | arms active => simp
  | takes idle waiting => simp [idle, waiting]
  | merges busy waiting => simp [busy, waiting, ← Multiset.coe_add, add_comm]
  | computes busy revision => simp [busy]

theorem LinkStep.refused_iff (step : LinkStep view events next) :
    events.refusedTriggers view = [] ↔ (events.offered ≠ [] → view.requestSlot = none) := by
  unfold LinkEvents.refusedTriggers
  cases step with
  | accepted free previous => simp [free]
  | refused full lost => simp [full, lost]
  | quiet | adopts | arms | takes | merges | computes => simp

end Protocol

namespace LinkConfig

variable (config : LinkConfig) (actions : Nat → LinkAction)

/-- Every trigger raised so far waits in the channel, is in the batch of the
worker, or was handed to the planner, as often as it was raised. -/
def TriggersAccounted (count : Nat) : Prop :=
  (config.raisedTriggers actions count : Multiset PlannerTrigger) =
    (config.linkRun actions count).view.heldTriggers +
      (config.plannerCalls actions count).flatMap PlannerRequest.triggers

def HasRoom (action : LinkAction) (link : PlannerLink) : Prop :=
  config.offered action link ≠ [] → link.requestSlot = none

/-- No trigger is lost as long as every request finds the channel free. -/
theorem linkRun_triggersAccounted_iff (count : Nat) :
    config.TriggersAccounted actions count ↔
      ∀ index < count, config.HasRoom (actions index) (config.linkRun actions index) := by
  let refused := fun action (link : PlannerLink) =>
    (config.events action link).refusedTriggers link.view
  have balance := history_balance (fun link : PlannerLink => link.view.heldTriggers) config.raised
    (fun action link => (called action link).flatMap PlannerRequest.triggers ++ refused action link)
    (fun action link => (config.step_follows link action).balances) actions config.start count
  rw [history_append, ← history_flatMap] at balance
  have none : config.start.view.heldTriggers = 0 := rfl
  rw [none, zero_add, ← add_assoc] at balance
  have lost : config.TriggersAccounted actions count ↔
      history refused config.step actions config.start count = [] := by
    unfold TriggersAccounted raisedTriggers
    rw [← balance, ← Multiset.coe_eq_zero]
    exact add_eq_left
  rw [lost, history_eq_nil]
  exact forall₂_congr fun index _ =>
    (config.step_follows (config.linkRun actions index) (actions index)).refused_iff

def sampleLink : LinkConfig where
  scheduler := { sampleScheduler with cfg := { samplePolicy with signatureSnapshots := true } }
  planner := sampleConfig
  features := ⟨false⟩

def flipWorld (nowNs : Nat) (sweepComplete : Option Nat) (dequeued : List QueuedTask) :
    IterationWorld where
  round :=
    { shuttleWorld 0 nowNs with sweepComplete, domainStateFlips := .ofList [0], dequeued }
  plannerNowNs := nowNs
  allowedCpus := fun _ => some (.ofList [1])
  dfCsStates := [some { sampleTsNs := nowNs, valid := 1 }]
  armNowNs := nowNs
  attributed := id

/-- The worker takes no request between two iterations of the main loop. -/
def unreadScript : List LinkAction :=
  [.sample (flipWorld 1000000000 (some 1) []), .tryRecv, .request, .tryRecv, .dispatch,
    .sample (flipWorld 2000000000 none [strandedTask]), .tryRecv, .request]

def scripted (script : List LinkAction) (index : Nat) : LinkAction := script.getD index .dispatch

theorem linkRun_loses_trigger :
    .runnableDelta 7 ∈ sampleLink.raisedTriggers (scripted unreadScript) 8 ∧
      .runnableDelta 7 ∉ (sampleLink.linkRun (scripted unreadScript) 8).view.heldTriggers ∧
      ∀ request ∈ sampleLink.plannerCalls (scripted unreadScript) 8,
        .runnableDelta 7 ∉ request.triggers := by
  decide +kernel

end LinkConfig

/-! ## Plans -/

def LinkView.latestPlan (view : LinkView) : Option PlacementPlan :=
  (view.results.getLast?.map (·.plan)).or view.activePlan

def LinkView.latestRevision (view : LinkView) : Nat :=
  (view.latestPlan.map (·.planRevision)).getD 0

structure PlanLedger (view : LinkView) (produced adopted armed : List PlacementPlan) : Prop where
  read : produced = adopted ++ view.results.map (·.plan)
  active : view.activePlan = adopted.getLast?
  lastArmed : view.lastArmedPlan = armed.getLast?.map planKey
  armedAdopted : ∀ plan ∈ armed, plan ∈ adopted

/-- The snapshot of a request is based on no plan or on one already computed. -/
def KnownRevision (produced : List PlacementPlan) (request : PlannerRequest) : Prop :=
  previousRevision request.snapshot = 0 ∨
    ∃ plan ∈ produced, plan.planRevision = previousRevision request.snapshot

structure KnownRequests (view : LinkView) (produced : List PlacementPlan) : Prop where
  slot : ∀ {request}, view.requestSlot = some request → KnownRevision produced request
  batch : ∀ {request}, view.batch = some request → KnownRevision produced request

section Protocol

variable {view next : LinkView} {events : LinkEvents} {produced adopted armed : List PlacementPlan}

theorem LinkStep.ledger (step : LinkStep view events next)
    (before : PlanLedger view produced adopted armed) :
    PlanLedger next (produced ++ events.produced) (adopted ++ events.adopted)
      (armed ++ events.armed) := by
  obtain ⟨read, active, known, armedAdopted⟩ := before
  cases step with
  | quiet | accepted | refused | takes | merges =>
      exact ⟨by simpa using read, by simpa using active, by simpa using known, by simpa⟩
  | adopts front =>
      refine ⟨by simp [read, front], by simp, by simpa using known, ?_⟩
      intro plan member
      exact List.mem_append_left _ (armedAdopted plan (by simpa using member))
  | @arms plan current =>
      refine ⟨by simpa using read, by simpa using active, by simp, ?_⟩
      intro other member
      rw [List.append_nil]
      rcases List.mem_append.mp member with earlier | here
      · exact armedAdopted other earlier
      · rw [List.mem_singleton.mp here]
        exact List.mem_of_getLast? (active ▸ current)
  | computes =>
      exact ⟨by simp [read], by simpa using active, by simpa using known, by simpa⟩

theorem PlanLedger.latestPlan (ledger : PlanLedger view produced adopted armed) :
    view.latestPlan = produced.getLast? := by
  rw [ledger.read, List.getLast?_append, List.getLast?_map, ← ledger.active]
  rfl

theorem LinkStep.knownRequests (step : LinkStep view events next)
    (ledger : PlanLedger view produced adopted armed) (before : KnownRequests view produced) :
    KnownRequests next (produced ++ events.produced) := by
  have grown : ∀ {request : PlannerRequest} (more : List PlacementPlan),
      KnownRevision produced request → KnownRevision (produced ++ more) request := by
    rintro request more (none | ⟨plan, member, revision⟩)
    · exact .inl none
    · exact .inr ⟨plan, List.mem_append_left _ member, revision⟩
  cases step with
  | quiet | refused | adopts | arms => rw [List.append_nil]; exact ⟨before.slot, before.batch⟩
  | accepted free previous =>
      rw [List.append_nil]
      refine ⟨?_, before.batch⟩
      rintro _ ⟨⟩
      unfold KnownRevision previousRevision
      rw [ledger.active] at previous
      cases last : adopted.getLast? with
      | none =>
          rw [last, Option.map_none, Option.map_eq_none_iff] at previous
          rw [previous]
          exact .inl rfl
      | some plan =>
          rw [last, Option.map_some] at previous
          obtain ⟨held, found, same⟩ := Option.map_eq_some_iff.mp previous
          have revision : held.planRevision = plan.planRevision := congrArg Prod.snd same
          rw [found]
          refine .inr ⟨plan, ?_, revision.symm⟩
          rw [ledger.read]
          exact List.mem_append_left _ (List.mem_of_getLast? last)
  | takes idle waiting =>
      rw [List.append_nil]
      refine ⟨nofun, ?_⟩
      rintro _ ⟨⟩
      exact before.slot waiting
  | merges busy waiting =>
      rw [List.append_nil]
      refine ⟨nofun, ?_⟩
      rintro _ ⟨⟩
      -- the merged request has the snapshot of the newer one
      have newer : KnownRevision produced _ := before.slot waiting
      exact newer
  | computes busy revision =>
      exact ⟨fun waiting => grown _ (before.slot waiting), nofun⟩

def Increasing (plans : List PlacementPlan) : Prop :=
  plans.Pairwise fun earlier later => earlier.planRevision < later.planRevision

/-- A snapshot names the last plan computed, and there is a revision left for
the next one. -/
def LinkView.fresh (view : LinkView) (snapshot : PlannerInput) : Bool :=
  previousRevision snapshot == view.latestRevision && view.latestRevision < u64Max

theorem PlanLedger.revision_le_latest (ledger : PlanLedger view produced adopted armed)
    (increasing : Increasing produced) {plan : PlacementPlan} (member : plan ∈ produced) :
    plan.planRevision ≤ view.latestRevision := by
  unfold LinkView.latestRevision
  rw [ledger.latestPlan]
  rcases List.eq_nil_or_concat' produced with rfl | ⟨earlier, last, rfl⟩
  · simp at member
  · rw [List.getLast?_concat]
    rcases List.mem_append.mp member with before | here
    · exact ((List.pairwise_append.mp increasing).2.2 plan before last (by simp)).le
    · rw [List.mem_singleton.mp here]
      exact Nat.le_refl _

/-- The revisions keep increasing exactly when the planner gets a fresh snapshot. -/
theorem LinkStep.increasing_iff (step : LinkStep view events next)
    (ledger : PlanLedger view produced adopted armed) (known : KnownRequests view produced)
    (increasing : Increasing produced) :
    Increasing (produced ++ events.produced) ↔
      events.called.all fun request => view.fresh request.snapshot := by
  cases step with
  | quiet | accepted | refused | adopts | arms | takes | merges => simpa using increasing
  | @computes batch output busy revision =>
      have latest : ∀ {plan}, plan ∈ produced → plan.planRevision ≤ view.latestRevision :=
        ledger.revision_le_latest increasing
      have appended : Increasing (produced ++ [output.plan]) ↔
          ∀ plan ∈ produced, plan.planRevision < output.plan.planRevision := by
        unfold Increasing at increasing ⊢
        simp [List.pairwise_append, increasing]
      have behind : previousRevision batch.snapshot ≤ view.latestRevision := by
        rcases known.batch busy with none | ⟨plan, member, same⟩
        · omega
        · exact same ▸ latest member
      have reached : view.latestRevision = 0 ∨
          ∃ plan ∈ produced, plan.planRevision = view.latestRevision := by
        unfold LinkView.latestRevision
        rw [ledger.latestPlan]
        cases last : produced.getLast? with
        | none => exact .inl rfl
        | some plan => exact .inr ⟨plan, List.mem_of_getLast? last, rfl⟩
      have fresh : view.fresh batch.snapshot = true ↔
          previousRevision batch.snapshot = view.latestRevision ∧ view.latestRevision < u64Max := by
        simp [LinkView.fresh]
      simp only [List.all_cons, List.all_nil, Bool.and_true]
      rw [appended, fresh, revision]
      unfold satAdd64
      constructor
      · intro above
        rcases reached with first | ⟨plan, member, same⟩
        · exact ⟨by omega, by rw [first]; decide⟩
        · have := above plan member
          omega
      · rintro ⟨same, room⟩ plan member
        have := latest member
        omega

end Protocol

namespace LinkConfig

variable (config : LinkConfig) (actions : Nat → LinkAction)

theorem linkRun_ledger (count : Nat) :
    PlanLedger (config.linkRun actions count).view (config.producedPlans actions count)
      (config.adoptedPlans actions count) (config.armedPlans actions count) := by
  induction count with
  | zero => exact ⟨rfl, rfl, rfl, by simp [armedPlans]⟩
  | succ count ih =>
      unfold producedPlans adoptedPlans armedPlans
      rw [history_succ, history_succ, history_succ]
      exact (config.step_follows (config.linkRun actions count) (actions count)).ledger ih

theorem linkRun_knownRequests (count : Nat) :
    KnownRequests (config.linkRun actions count).view (config.producedPlans actions count) := by
  induction count with
  | zero => exact ⟨nofun, nofun⟩
  | succ count ih =>
      unfold producedPlans
      rw [history_succ]
      exact (config.step_follows (config.linkRun actions count) (actions count)).knownRequests
        (config.linkRun_ledger actions count) ih

def freshSnapshot (action : LinkAction) (link : PlannerLink) : Bool :=
  (called action link).all fun request => link.view.fresh request.snapshot

/-- The revisions increase along the computed plans exactly when every
computation starts from a fresh snapshot. -/
theorem producedPlans_increasing_iff (count : Nat) :
    Increasing (config.producedPlans actions count) ↔
      ∀ index < count, freshSnapshot (actions index) (config.linkRun actions index) := by
  induction count with
  | zero => simp [producedPlans, Increasing]
  | succ count ih =>
      have grown : config.producedPlans actions (count + 1) =
          config.producedPlans actions count ++
            config.produced (actions count) (config.linkRun actions count) :=
        history_succ _ _ _ _ _
      have step : Increasing (config.producedPlans actions count) →
          (Increasing (config.producedPlans actions (count + 1)) ↔
            freshSnapshot (actions count) (config.linkRun actions count)) := fun increasing => by
        rw [grown]
        exact (config.step_follows (config.linkRun actions count) (actions count)).increasing_iff
          (config.linkRun_ledger actions count) (config.linkRun_knownRequests actions count) increasing
      rw [Nat.forall_lt_succ_right, ← ih]
      constructor
      · intro increasing
        have before : Increasing (config.producedPlans actions count) := by
          rw [grown] at increasing
          exact (List.pairwise_append.mp increasing).1
        exact ⟨before, (step before).mp increasing⟩
      · rintro ⟨before, fresh⟩
        exact (step before).mpr fresh

/-- What the keys of the plans promise. A plan that is offered for arming and
has the key of the last armed plan is that plan. -/
structure PlansIdentified (count : Nat) : Prop where
  increasing : Increasing (config.adoptedPlans actions count)
  keys : (config.adoptedPlans actions count).Pairwise fun earlier later =>
    planKey earlier ≠ planKey later
  arming : ∀ plan, (config.linkRun actions count).planToArm config = some plan →
    (config.linkRun actions count).planCsAttribution.lastArmedPlan = some (planKey plan) →
      (config.armedPlans actions count).getLast? = some plan

/-- Fresh snapshots give every active plan its own key. -/
theorem linkRun_plansIdentified (count : Nat)
    (fresh : ∀ index < count, freshSnapshot (actions index) (config.linkRun actions index)) :
    config.PlansIdentified actions count := by
  have ledger := config.linkRun_ledger actions count
  have increasing : Increasing (config.adoptedPlans actions count) := by
    have produced := (config.producedPlans_increasing_iff actions count).mpr fresh
    rw [ledger.read] at produced
    exact (List.pairwise_append.mp produced).1
  have keys : (config.adoptedPlans actions count).Pairwise fun earlier later =>
      planKey earlier ≠ planKey later :=
    increasing.imp fun smaller same => absurd (congrArg Prod.snd same) smaller.ne
  refine ⟨increasing, keys, ?_⟩
  intro plan offered same
  have active : plan ∈ config.adoptedPlans actions count := by
    have last := PlannerLink.planToArm_active offered
    exact List.mem_of_getLast? (ledger.active.symm.trans last)
  obtain ⟨armed, last, key⟩ := Option.map_eq_some_iff.mp (ledger.lastArmed.symm.trans same)
  have adopted := ledger.armedAdopted armed (List.mem_of_getLast? last)
  have distinct : ((config.adoptedPlans actions count).map planKey).Nodup := List.pairwise_map.mpr keys
  rw [last, List.inj_on_of_nodup_map distinct adopted active key]

/-- Each request is sent after the plan of the one before was read. -/
def alternatingScript : List LinkAction :=
  [.sample (flipWorld 1000000000 (some 1) [strandedTask]), .tryRecv, .request, .recvFirst,
    .compute, .tryRecv, .tryRecv, .dispatch,
    .sample (flipWorld 1010000000 none []), .tryRecv, .request, .recvFirst, .compute, .tryRecv,
    .tryRecv, .dispatch]

theorem linkRun_plansIdentified_alternating :
    (sampleLink.adoptedPlans (scripted alternatingScript) 16).map planKey = [(1, 1), (1, 2)] ∧
      (sampleLink.armedPlans (scripted alternatingScript) 16).map planKey = [(1, 1), (1, 2)] ∧
      sampleLink.PlansIdentified (scripted alternatingScript) 16 :=
  ⟨by decide +kernel, by decide +kernel,
    sampleLink.linkRun_plansIdentified (scripted alternatingScript) 16 (by decide +kernel)⟩

/-- Two requests are on their way before the first plan is read. -/
def crossedScript : List LinkAction :=
  [.sample (flipWorld 1000000000 (some 1) [strandedTask]), .tryRecv, .request, .recvFirst,
    .tryRecv, .dispatch,
    .sample (flipWorld 1010000000 none []), .tryRecv, .request, .compute, .tryRecv, .recvFirst,
    .tryRecv, .dispatch,
    .sample (flipWorld 1020000000 none []), .compute, .tryRecv, .tryRecv, .request, .tryRecv]

/-- The second plan has the key of the first and is not armed. -/
theorem linkRun_reuses_key :
    (sampleLink.adoptedPlans (scripted crossedScript) 20).map planKey = [(1, 1), (1, 1)] ∧
      (sampleLink.adoptedPlans (scripted crossedScript) 20).map (·.plannedAtNs) =
        [1000000000, 1010000000] ∧
      ((sampleLink.linkRun (scripted crossedScript) 20).planToArm sampleLink).map
        (·.plannedAtNs) = some 1010000000 ∧
      (sampleLink.linkRun (scripted crossedScript) 20).planCsAttribution.lastArmedPlan =
        some (1, 1) ∧
      (sampleLink.armedPlans (scripted crossedScript) 20).map (·.plannedAtNs) = [1000000000] := by
  decide +kernel

end LinkConfig

end CSwitch.Dispatch
