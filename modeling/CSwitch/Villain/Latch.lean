import CSwitch.Library.Sweep
import CSwitch.Villain.Election

/-! The villain latch: once a thread has been blamed for the overload of a link
it stays the villain of that link until the link has cleared, the settle window
has passed or the thread is gone. Every change is logged. -/

set_option autoImplicit false

namespace CSwitch.Villain

open Dispatch (LinkContender)
open Library

inductive CsVillainLatchAction where
  | acquire
  | hold
  | release
  | expire
  | invalid
  deriving DecidableEq

structure CsVillainLatchEvent where
  action : CsVillainLatchAction
  linkId : Nat
  tid : Nat
  score : Nat
  overloadX100 : Nat
  sampleTsNs : Nat
  holdUntilNs : Nat
  clearSamples : Nat
  pressureEpoch : Nat
  deriving DecidableEq

structure CsVillainLatchOutput where
  effectiveVillains : List (Option LinkContender)
  events : List CsVillainLatchEvent

structure LinkVillainLatch where
  contender : Option LinkContender := none
  holdUntilNs : Nat := 0
  clearSamples : Nat := 0
  lastClearSampleTsNs : Nat := 0
  lastHoldLogSampleTsNs : Nat := 0
  pressureEpoch : Nat := 0

structure CsVillainLatchController where
  links : List LinkVillainLatch := []
  nextPressureEpoch : Nat := 0

/-- The arguments of one call of `effective_villains`. -/
structure LatchCall where
  mapping : MappingInfo
  freshVillains : List (Option LinkContender)
  dfLinkStates : List (Option CcmDfStateValue)
  threads : ThreadMap
  activeCutoffNs : Nat
  nowNs : Nat
  policy : PolicyConfig

namespace LatchCall

variable (call : LatchCall) (link : Nat)

def linkCount : Nat := min call.dfLinkStates.length maxDomains

def sample : Option CcmDfStateValue :=
  liveDfState call.dfLinkStates link call.nowNs call.policy

def sampleTsNs : Nat := ((call.sample link).map CcmDfStateValue.sampleTsNs).getD 0

def overloadX100 : Nat :=
  ((call.sample link).map fun state =>
    state.bwX100 - call.mapping.csCapacityMibSX100 link).getD 0

def fresh : Option LinkContender := getFlat call.freshVillains link

def live (tid : Nat) : Bool :=
  (call.threads[tid]?.map fun thread =>
    decide (thread.lastSeenNs ≥ call.activeCutoffNs)).getD false

def releaseSamples : Nat := max call.policy.csVillainReleaseSamples 1

/-- A fresh sample that shows no overload. -/
def clear : Bool := (call.sample link).isSome && call.overloadX100 link == 0

/-- A fresh sample that shows overload. -/
def overloaded : Bool := (call.sample link).isSome && decide (call.overloadX100 link > 0)

def event (action : CsVillainLatchAction) (contender : LinkContender)
    (latch : LinkVillainLatch) : CsVillainLatchEvent where
  action := action
  linkId := link
  tid := contender.tid
  score := contender.score
  overloadX100 := call.overloadX100 link
  sampleTsNs := call.sampleTsNs link
  holdUntilNs := latch.holdUntilNs
  clearSamples := latch.clearSamples
  pressureEpoch := latch.pressureEpoch

end LatchCall

/-- What a call reports for one link. -/
structure LinkReport where
  effective : Option LinkContender
  events : List CsVillainLatchEvent

/-- What becomes of a latched villain: it is kept, or the latch is cleared and
the fresh villain of the call may take it. -/
inductive HeldOutcome where
  | kept (latch : LinkVillainLatch) (events : List CsVillainLatchEvent)
  | cleared (event : CsVillainLatchEvent) (acquireFresh : Option LinkContender)

section Link

variable (call : LatchCall) (link : Nat)

/-- A hold is logged once for every sample. -/
def holdLatch (latched : LinkContender) (latch : LinkVillainLatch) : HeldOutcome :=
  let sampleTsNs := call.sampleTsNs link
  if sampleTsNs ≠ 0 ∧ sampleTsNs ≠ latch.lastHoldLogSampleTsNs then
    let latch := { latch with lastHoldLogSampleTsNs := sampleTsNs }
    .kept latch [call.event link .hold latched latch]
  else .kept latch []

def settleHeld (latched : LinkContender) (latch : LinkVillainLatch) : HeldOutcome :=
  let sampleTsNs := call.sampleTsNs link
  if !call.live latched.tid then
    .cleared (call.event link .invalid latched latch) (call.fresh link)
  else if call.clear link then
    let latch :=
      if sampleTsNs ≠ 0 ∧ sampleTsNs ≠ latch.lastClearSampleTsNs then
        { latch with
          clearSamples := satAdd32 latch.clearSamples 1
          lastClearSampleTsNs := sampleTsNs }
      else latch
    if latch.clearSamples ≥ call.releaseSamples then
      .cleared (call.event link .release latched latch) none
    else if call.nowNs ≥ latch.holdUntilNs then
      .cleared (call.event link .expire latched latch) (call.fresh link)
    else holdLatch call link latched latch
  else if call.nowNs ≥ latch.holdUntilNs then
    .cleared (call.event link .expire latched latch) (call.fresh link)
  else
    let latch :=
      if call.overloaded link then { latch with clearSamples := 0, lastClearSampleTsNs := 0 }
      else latch
    holdLatch call link latched latch

def acquireLatch (contender : LinkContender) (pressureEpoch : Nat) : LinkVillainLatch where
  contender := some contender
  holdUntilNs := satAdd64 call.nowNs (max call.policy.csVillainSettleNs 1)
  clearSamples := 0
  lastClearSampleTsNs := 0
  lastHoldLogSampleTsNs := call.sampleTsNs link
  pressureEpoch := pressureEpoch

/-- The end of a link's turn: its latch is empty and takes the villain offered to it. -/
def offerFresh (latch : LinkVillainLatch) (events : List CsVillainLatchEvent)
    (acquireFresh : Option LinkContender) (nextPressureEpoch : Nat) :
    Visit LinkVillainLatch Nat LinkReport :=
  match acquireFresh with
  | none => { slot := latch, carry := nextPressureEpoch, output := { effective := none, events } }
  | some contender =>
      let pressureEpoch := satAdd64 nextPressureEpoch 1
      let latch := acquireLatch call link contender pressureEpoch
      { slot := latch
        carry := pressureEpoch
        output :=
          { effective := some contender
            events := events ++ [call.event link .acquire contender latch] } }

def finishHeld (latched : LinkContender) (nextPressureEpoch : Nat) :
    HeldOutcome → Visit LinkVillainLatch Nat LinkReport
  | .kept latch events =>
      { slot := latch
        carry := nextPressureEpoch
        output := { effective := some latched, events } }
  | .cleared event acquireFresh =>
      offerFresh call link {} [event] acquireFresh nextPressureEpoch

def visitLink (latch : LinkVillainLatch) (nextPressureEpoch : Nat) :
    Visit LinkVillainLatch Nat LinkReport :=
  match latch.contender with
  | none => offerFresh call link latch [] (call.fresh link) nextPressureEpoch
  | some latched =>
      finishHeld call link latched nextPressureEpoch (settleHeld call link latched latch)

end Link

namespace CsVillainLatchController

variable (controller : CsVillainLatchController)

def ensureLinkCount (count : Nat) : CsVillainLatchController :=
  { controller with
    links := controller.links ++ List.replicate (count - controller.links.length) {} }

/-- The pass over the links of a call with throttling enabled. -/
def sweepLinks (call : LatchCall) (count : Nat) : Sweep LinkVillainLatch Nat LinkReport :=
  sweep (visitLink call) (controller.ensureLinkCount call.linkCount).links
    controller.nextPressureEpoch count

def effectiveVillains (call : LatchCall) : CsVillainLatchController × CsVillainLatchOutput :=
  if !call.policy.csVillainThrottle then
    let untouched := List.replicate (call.linkCount - call.freshVillains.length) none
    ({ controller with links := controller.links.map fun _ => {} },
      { effectiveVillains := call.freshVillains.take call.linkCount ++ untouched
        events := [] })
  else
    let result := controller.sweepLinks call call.linkCount
    ({ links := result.slots, nextPressureEpoch := result.carry },
      { effectiveVillains := result.outputs.map LinkReport.effective
        events := result.outputs.flatMap LinkReport.events })

end CsVillainLatchController

end CSwitch.Villain
