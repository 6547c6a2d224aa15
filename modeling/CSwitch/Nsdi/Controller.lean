import CSwitch.Nsdi.Loop

/-! Core ownership of the NSDI scheduler. CPUs are either dealt out once, in
equal shares, or moved one at a time between the applications and a pool of free
CPUs, so that the queueing delay of every application stays in a range. -/

set_option autoImplicit false

namespace CSwitch.Nsdi

open Std (TreeMap TreeSet)
open Policy

inductive NsdiPolicyKind where
  | static
  | delayRange
  deriving DecidableEq

structure NsdiConfig where
  policy : NsdiPolicyKind
  delayLowUs : Nat
  delayHighUs : Nat

/-! ## Static partition -/

/-- The shares of the applications from `cursor` on. -/
def dealShares (sorted : List Nat) (base remainder : Nat) :
    List NsdiAppState → Nat → List NsdiAppState
  | [], _ => []
  | app :: rest, cursor =>
      let share := base + if app.id < remainder then 1 else 0
      { app with ownedCpus := .ofList ((sorted.drop cursor).take share) } ::
        dealShares sorted base remainder rest (cursor + share)

def initializeStaticCpuPartition (appStates : List NsdiAppState) (eligibleCpus : TreeSet Nat) :
    List NsdiAppState :=
  let sorted := eligibleCpus.toList
  let appCount := appStates.length
  if appCount = 0 then appStates
  else dealShares sorted (sorted.length / appCount) (sorted.length % appCount) appStates 0

/-! ## Delay range -/

def allOwnedCpus (appStates : List NsdiAppState) : TreeSet Nat :=
  appStates.foldl (fun owned app => app.ownedCpus.foldl .insert owned) ∅

def freeCpus (appStates : List NsdiAppState) (eligibleCpus : TreeSet Nat) : TreeSet Nat :=
  let owned := allOwnedCpus appStates
  eligibleCpus.filter fun cpu => !owned.contains cpu

def chooseRevocableCpu (view : OwnedView) (app : NsdiAppState) : Option Nat :=
  (app.ownedCpus.toList.filter fun cpu =>
    view.idle cpu || decide (plannedJobsLen view.plannedCpuStates cpu ≤ 1) ||
      (cpuStateAt view.cpuStates cpu).currentTid == 0).argmin fun cpu =>
    toLex (!view.idle cpu, toLex (plannedJobsLen view.plannedCpuStates cpu,
      toLex (cpuUtilAt view.cpuUtilsX100 cpu,
        toLex ((cpuStateAt view.cpuStates cpu).cpuDsqDepth, cpu))))

/-- One call of the controller: what it reads of the machine, and the time. -/
structure ControllerInput where
  view : OwnedView
  cfg : NsdiConfig
  nowNs : Nat

structure ScaleState where
  appStates : List NsdiAppState
  freePool : TreeSet Nat
  changedApps : TreeSet Nat := ∅

/-- The key by which recipients are served: those without a CPU first, then the
longest delay, then the smallest id. -/
structure Recipient where
  ownedEmpty : Bool
  delayUs : Nat
  appId : Nat

def Recipient.le (left right : Recipient) : Prop :=
  toLex (!left.ownedEmpty, toLex (OrderDual.toDual left.delayUs, left.appId)) ≤
    toLex (!right.ownedEmpty, toLex (OrderDual.toDual right.delayUs, right.appId))

instance : DecidableRel Recipient.le := fun _ _ => inferInstanceAs (Decidable (_ ≤ _))

namespace ControllerInput

variable (input : ControllerInput)

/-- An application below the range gives up a CPU, but with tasks pending not
its last one. -/
def mayRelease (app : NsdiAppState) : Bool :=
  decide (app.pendingDelayEwmaUs < input.cfg.delayLowUs) && !app.ownedCpus.isEmpty &&
    !(decide (app.pendingTasks > 0) && decide (app.ownedCpus.size ≤ 1))

def removeCpu (app : NsdiAppState) (cpu : Nat) : NsdiAppState :=
  { app with ownedCpus := app.ownedCpus.erase cpu, lastScaleAtNs := input.nowNs }

def insertCpu (app : NsdiAppState) (cpu : Nat) : NsdiAppState :=
  { app with ownedCpus := app.ownedCpus.insert cpu, lastScaleAtNs := input.nowNs }

def releaseFrom (state : ScaleState) (appId : Nat) : ScaleState :=
  match state.appStates[appId]? with
  | none => state
  | some app =>
      if !input.mayRelease app then state
      else
        match chooseRevocableCpu input.view app with
        | none => state
        | some cpu =>
            { appStates := state.appStates.modify appId fun app => input.removeCpu app cpu
              freePool := state.freePool.insert cpu
              changedApps := state.changedApps.insert appId }

def recipients (appStates : List NsdiAppState) : List Recipient :=
  ((appStates.filter fun app => decide (app.pendingTasks > 0) &&
      (app.ownedCpus.isEmpty || decide (app.pendingDelayEwmaUs > input.cfg.delayHighUs))).map
    fun app => ⟨app.ownedCpus.isEmpty, app.pendingDelayEwmaUs, app.id⟩).insertionSort Recipient.le

/-- The application that gives a CPU to `appId` when the pool is empty. -/
def donor (state : ScaleState) (appId : Nat) : Option (Nat × Nat) :=
  ((state.appStates.filter fun app =>
      app.id != appId && !state.changedApps.contains app.id && input.mayRelease app).filterMap
    fun app => (chooseRevocableCpu input.view app).map fun cpu => (app.id, cpu)).argmin
      fun (_, cpu) =>
        toLex (plannedJobsLen input.view.plannedCpuStates cpu,
          toLex (cpuUtilAt input.view.cpuUtilsX100 cpu,
            toLex ((cpuStateAt input.view.cpuStates cpu).cpuDsqDepth, cpu)))

def grant (state : ScaleState) (appId cpu : Nat) : ScaleState :=
  { state with
    appStates := state.appStates.modify appId fun app => input.insertCpu app cpu
    changedApps := state.changedApps.insert appId }

def revoke (state : ScaleState) (donorId cpu : Nat) : ScaleState :=
  { state with
    appStates := state.appStates.modify donorId fun app => input.removeCpu app cpu
    changedApps := state.changedApps.insert donorId }

def serve (state : ScaleState) (recipient : Recipient) : ScaleState :=
  if state.changedApps.contains recipient.appId then state
  else
    match state.freePool.min? with
    | some cpu =>
        input.grant { state with freePool := state.freePool.erase cpu } recipient.appId cpu
    | none =>
        match input.donor state recipient.appId with
        | none => state
        | some (donorId, cpu) => input.grant (input.revoke state donorId cpu) recipient.appId cpu

def releasePhase (appStates : List NsdiAppState) (eligibleCpus : TreeSet Nat) : ScaleState :=
  (List.range appStates.length).foldl input.releaseFrom
    { appStates, freePool := freeCpus appStates eligibleCpus }

def scale (appStates : List NsdiAppState) (eligibleCpus : TreeSet Nat) : ScaleState :=
  let released := input.releasePhase appStates eligibleCpus
  (input.recipients released.appStates).foldl input.serve released

/-- `maybe_run_delay_range_controller`: the applications after the call, and
whether any of them changed. -/
def maybeRunDelayRangeController (appStates : List NsdiAppState) (eligibleCpus : TreeSet Nat) :
    List NsdiAppState × Bool :=
  if input.cfg.policy ≠ .delayRange then (appStates, false)
  else
    let state := input.scale appStates eligibleCpus
    (state.appStates, !state.changedApps.isEmpty)

end ControllerInput

/-! ## Runs -/

/-- Between two calls the pending tasks of every application are counted anew. -/
structure PendingMetrics where
  pendingTasks : Nat
  pendingDelayEwmaUs : Nat

structure ControllerCall extends ControllerInput where
  metrics : Nat → PendingMetrics

def measure (metrics : Nat → PendingMetrics) (app : NsdiAppState) : NsdiAppState :=
  { app with
    pendingTasks := (metrics app.id).pendingTasks
    pendingDelayEwmaUs := (metrics app.id).pendingDelayEwmaUs }

def controllerStep (eligibleCpus : TreeSet Nat) (appStates : List NsdiAppState)
    (call : ControllerCall) : List NsdiAppState :=
  (call.maybeRunDelayRangeController (appStates.map (measure call.metrics)) eligibleCpus).1

def controllerRun (eligibleCpus : TreeSet Nat) (appStates : List NsdiAppState)
    (calls : List ControllerCall) : List NsdiAppState :=
  calls.foldl (controllerStep eligibleCpus) appStates

end CSwitch.Nsdi
