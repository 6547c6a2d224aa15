import CSwitch.Nsdi.NoStarvation

/-! The NSDI controller grants CPUs from its free pool only: whoever could be a
donor has released a CPU before the first grant, so no one loses one to another. -/

set_option autoImplicit false

namespace CSwitch.Nsdi

open Std (TreeSet)
open Policy Library

namespace ControllerInput

/-- The service of a recipient without donors. -/
def serveFromPool (input : ControllerInput) (state : ScaleState) (recipient : Recipient) :
    ScaleState :=
  if state.changedApps.contains recipient.appId then state
  else
    match state.freePool.min? with
    | some cpu =>
        input.grant { state with freePool := state.freePool.erase cpu } recipient.appId cpu
    | none => state

/-- The controller without donors. -/
def scaleFromPool (input : ControllerInput) (appStates : List NsdiAppState)
    (eligibleCpus : TreeSet Nat) : ScaleState :=
  let released := input.releasePhase appStates eligibleCpus
  (input.recipients released.appStates).foldl input.serveFromPool released

end ControllerInput

section Call

variable {input : ControllerInput} {start : List NsdiAppState} {eligibleCpus : TreeSet Nat}
  {state : ScaleState}

/-- Applications that have not changed are as they were at the start of the call. -/
structure Unmoved (start : List NsdiAppState) (state : ScaleState) : Prop where
  indexed : Indexed state.appStates
  same : ∀ appId ∉ members state.changedApps, state.appStates[appId]? = start[appId]?

theorem Unmoved.change (unmoved : Unmoved start state) (appId : Nat)
    (change : NsdiAppState → NsdiAppState) (sameId : ∀ app, (change app).id = app.id)
    {freePool : TreeSet Nat} :
    Unmoved start
      ⟨state.appStates.modify appId change, freePool, state.changedApps.insert appId⟩ := by
  constructor
  · exact unmoved.indexed.modify appId sameId
  · intro other still
    rw [members_insert, Set.mem_insert_iff, not_or] at still
    exact (getElem?_modify_other still.1 change).trans (unmoved.same other still.2)

/-! ## Release -/

/-- The release loop under way: whoever was asked and has not changed would not
give up a CPU. -/
structure Asked (input : ControllerInput) (start : List NsdiAppState) (done : List Nat)
    (state : ScaleState) : Prop where
  unmoved : Unmoved start state
  unwilling : ∀ appId ∈ done, appId ∉ members state.changedApps →
    ∀ app, start[appId]? = some app → ¬Willing input app

theorem Asked.skip {done : List Nat} {appId : Nat} (asking : Asked input start done state)
    (refuses : ∀ app, state.appStates[appId]? = some app → ¬Willing input app) :
    Asked input start (done ++ [appId]) state := by
  constructor
  · exact asking.unmoved
  · intro other member still app found
    rcases List.mem_append.mp member with before | here
    · exact asking.unwilling other before still app found
    · obtain rfl := List.mem_singleton.mp here
      exact refuses app ((asking.unmoved.same other still).trans found)

theorem Asked.release {done : List Nat} {appId cpu : Nat} (asking : Asked input start done state) :
    Asked input start (done ++ [appId])
      { appStates := state.appStates.modify appId fun app => input.removeCpu app cpu
        freePool := state.freePool.insert cpu
        changedApps := state.changedApps.insert appId } := by
  constructor
  · exact asking.unmoved.change appId (fun app => input.removeCpu app cpu) fun _ => rfl
  · intro other member still
    rw [members_insert, Set.mem_insert_iff, not_or] at still
    cases List.mem_append.mp member with
    | inl before => exact asking.unwilling other before still.2
    | inr here => exact absurd (List.mem_singleton.mp here) still.1

theorem Asked.releaseFrom {done : List Nat} {appId : Nat} (asking : Asked input start done state) :
    Asked input start (done ++ [appId]) (input.releaseFrom state appId) := by
  have release := releaseFrom_release input state appId
  generalize input.releaseFrom state appId = after at release
  cases release with
  | released _ _ _ => exact asking.release
  | kept refuses =>
      apply asking.skip
      intro app found willing
      have chosen := willing.2
      rw [refuses app found willing.1] at chosen
      cases chosen

theorem releasePhase_asked (indexed : Indexed start) :
    Asked input start (List.range start.length) (input.releasePhase start eligibleCpus) := by
  refine foldl_prefix_invariant _ ?_ ?_
  · exact ⟨⟨indexed, fun _ _ => rfl⟩, by simp⟩
  · intro done appId rest state split asking
    exact asking.releaseFrom

/-! ## Service -/

/-- No application that has not changed would give up a CPU. -/
structure NoDonors (input : ControllerInput) (start : List NsdiAppState) (state : ScaleState) :
    Prop where
  unmoved : Unmoved start state
  unwilling : ∀ appId ∉ members state.changedApps, ∀ app, state.appStates[appId]? = some app →
    ¬Willing input app

theorem Asked.noDonors (asking : Asked input start (List.range start.length) state) :
    NoDonors input start state := by
  constructor
  · exact asking.unmoved
  · intro appId still app found
    rw [asking.unmoved.same appId still] at found
    have within := (List.getElem?_eq_some_iff.mp found).1
    exact asking.unwilling appId (List.mem_range.mpr within) still app found

theorem NoDonors.grant (none : NoDonors input start state) (appId cpu : Nat) :
    NoDonors input start
      (input.grant { state with freePool := state.freePool.erase cpu } appId cpu) := by
  have unmoved : Unmoved start
      (input.grant { state with freePool := state.freePool.erase cpu } appId cpu) :=
    none.unmoved.change appId (fun app => input.insertCpu app cpu) fun _ => rfl
  refine ⟨unmoved, ?_⟩
  intro other still app found
  have before : other ∉ members state.changedApps := by
    intro changed
    apply still
    simp only [ControllerInput.grant]
    rw [members_insert]
    exact Set.mem_insert_of_mem _ changed
  rw [unmoved.same other still, ← none.unmoved.same other before] at found
  exact none.unwilling other before app found

theorem NoDonors.serve_eq (none : NoDonors input start state) (recipient : Recipient) :
    input.serve state recipient = input.serveFromPool state recipient := by
  have donor := donor_eq_none none.unmoved.indexed none.unwilling recipient.appId
  unfold ControllerInput.serve ControllerInput.serveFromPool
  split
  · rfl
  · cases state.freePool.min? with
    | some cpu => rfl
    | none =>
        dsimp only
        rw [donor]

theorem NoDonors.serve (none : NoDonors input start state) (recipient : Recipient) :
    NoDonors input start (input.serve state recipient) := by
  have service := serve_service input state recipient
  generalize input.serve state recipient = after at service
  cases service with
  | skipped _ => exact none
  | pooled _ _ => exact none.grant recipient.appId _
  | waiting _ _ _ => exact none
  | moved _ _ donor =>
      rw [donor_eq_none none.unmoved.indexed none.unwilling] at donor
      cases donor

/-- The service from the pool takes no CPU from anyone, and what it gives was free. -/
theorem serveFromPool_ownedBy (state : ScaleState) (recipient : Recipient) (appId : Nat) :
    ownedBy state.appStates appId ⊆ ownedBy (input.serveFromPool state recipient).appStates appId ∧
      ∀ cpu ∈ ownedBy (input.serveFromPool state recipient).appStates appId,
        cpu ∈ ownedBy state.appStates appId ∨ cpu ∈ members state.freePool := by
  unfold ControllerInput.serveFromPool
  split
  · exact ⟨Set.Subset.rfl, fun _ held => .inl held⟩
  · split
    next cpu least =>
      simp only [ControllerInput.grant]
      cases found : state.appStates[recipient.appId]? with
      | none =>
          -- a recipient that is not in the table
          rw [List.modify_eq_self (List.getElem?_eq_none_iff.mp found)]
          exact ⟨Set.Subset.rfl, fun _ held => .inl held⟩
      | some app =>
          rw [ownedBy_insertCpu found]
          constructor
          · intro other held
            exact mem_update_insert.mpr (.inl held)
          · intro other held
            cases mem_update_insert.mp held with
            | inl before => exact .inl before
            | inr granted =>
                rw [granted.2]
                exact .inr (TreeSet.contains_min? least)
    · exact ⟨Set.Subset.rfl, fun _ held => .inl held⟩

/-! ## The whole loop -/

theorem NoDonors.foldl_serve (none : NoDonors input start state) (recipients : List Recipient) :
    NoDonors input start (recipients.foldl input.serve state) ∧
      recipients.foldl input.serve state = recipients.foldl input.serveFromPool state := by
  induction recipients generalizing state with
  | nil => exact ⟨none, rfl⟩
  | cons recipient rest ih =>
      obtain ⟨after, same⟩ := ih (none.serve recipient)
      refine ⟨after, same.trans ?_⟩
      rw [none.serve_eq, List.foldl_cons]

theorem foldl_serveFromPool_ownedBy (recipients : List Recipient) (state : ScaleState)
    (appId : Nat) :
    ownedBy state.appStates appId ⊆
      ownedBy (recipients.foldl input.serveFromPool state).appStates appId := by
  induction recipients generalizing state with
  | nil => exact Set.Subset.rfl
  | cons recipient rest ih =>
      exact (serveFromPool_ownedBy state recipient appId).1.trans (ih _)

/-- Whoever could give up a CPU has done so before the first grant, so the donors
never serve anyone: every grant takes a free CPU, and no grant takes one from an
application. -/
theorem maybeRunDelayRangeController_grants_free (input : ControllerInput)
    (appStates : List NsdiAppState) (eligibleCpus : TreeSet Nat) (indexed : Indexed appStates) :
    let released := input.releasePhase appStates eligibleCpus
    (∀ app ∈ appStates, Willing input app → app.id ∈ members released.changedApps) ∧
    (∀ done recipient rest, input.recipients released.appStates = done ++ recipient :: rest →
      let state := done.foldl input.serve released
      let served := input.serve state recipient
      (∀ app ∈ state.appStates, app.id ∉ members state.changedApps → ¬Willing input app) ∧
      input.donor state recipient.appId = none ∧
      served = input.serveFromPool state recipient ∧
      ∀ appId, ownedBy state.appStates appId ⊆ ownedBy served.appStates appId ∧
        ∀ cpu ∈ ownedBy served.appStates appId,
          cpu ∈ ownedBy state.appStates appId ∨ cpu ∈ members state.freePool) ∧
    (∀ appId, ownedBy released.appStates appId ⊆
      ownedBy (input.scale appStates eligibleCpus).appStates appId) ∧
    input.maybeRunDelayRangeController appStates eligibleCpus =
      if input.cfg.policy ≠ .delayRange then (appStates, false)
      else
        let state := input.scaleFromPool appStates eligibleCpus
        (state.appStates, !state.changedApps.isEmpty) := by
  have asked : Asked input appStates (List.range appStates.length)
      (input.releasePhase appStates eligibleCpus) := releasePhase_asked indexed
  have none := asked.noDonors
  have scaled : input.scale appStates eligibleCpus = input.scaleFromPool appStates eligibleCpus :=
    (none.foldl_serve _).2
  refine ⟨?released, ?served, ?kept, ?whole⟩
  case released =>
    intro app member willing
    by_contra still
    have found := indexed.getElem? member
    have within := (List.getElem?_eq_some_iff.mp found).1
    exact asked.unwilling app.id (List.mem_range.mpr within) still app found willing
  case served =>
    intro done recipient rest split state served
    have reached : NoDonors input appStates state := (none.foldl_serve done).1
    have pooled : served = input.serveFromPool state recipient := reached.serve_eq recipient
    refine ⟨?_, donor_eq_none reached.unmoved.indexed reached.unwilling _, pooled, ?_⟩
    · intro app member still
      exact reached.unwilling app.id still app (reached.unmoved.indexed.getElem? member)
    · rw [pooled]
      exact serveFromPool_ownedBy state recipient
  case kept =>
    intro appId
    rw [scaled]
    exact foldl_serveFromPool_ownedBy _ _ appId
  case whole =>
    unfold ControllerInput.maybeRunDelayRangeController
    rw [scaled]

end Call

/-! An idle application with two CPUs, and two that ask for one: the second finds
the pool empty. -/

def idleDonorApps : List NsdiAppState :=
  [{ id := 0, rootPid := 10, ownedCpus := .ofList [0, 1] },
   { id := 1, rootPid := 11, ownedCpus := ∅, pendingTasks := 2, pendingDelayEwmaUs := 9000 },
   { id := 2, rootPid := 12, ownedCpus := ∅, pendingTasks := 1, pendingDelayEwmaUs := 8000 }]

theorem idleDonorApps_indexed : Indexed idleDonorApps := by
  intro index app found
  match index with
  | 0 => obtain rfl := Option.some.inj found; rfl
  | 1 => obtain rfl := Option.some.inj found; rfl
  | 2 => obtain rfl := Option.some.inj found; rfl
  | _ + 3 => cases found

theorem maybeRunDelayRangeController_grants_free_idle :
    1 ∈ ownedBy (pairCall.scale idleDonorApps (.ofList [0, 1])).appStates 0 ∧
      pairCall.maybeRunDelayRangeController idleDonorApps (.ofList [0, 1]) =
        ((pairCall.scaleFromPool idleDonorApps (.ofList [0, 1])).appStates,
          !(pairCall.scaleFromPool idleDonorApps (.ofList [0, 1])).changedApps.isEmpty) := by
  obtain ⟨_, _, kept, whole⟩ := maybeRunDelayRangeController_grants_free
    pairCall.toControllerInput idleDonorApps (.ofList [0, 1]) idleDonorApps_indexed
  refine ⟨kept 0 ⟨_, rfl, ?_⟩, whole.trans (if_neg (by decide))⟩
  decide +kernel

end CSwitch.Nsdi
