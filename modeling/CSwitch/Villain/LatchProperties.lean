import CSwitch.Library.History
import CSwitch.Planner.PlanProperties
import CSwitch.Villain.Latch

/-! What a link's turn in a call can do, and what the log of a run says about
the latches. -/

set_option autoImplicit false

namespace CSwitch.Villain

open Dispatch (LinkContender)
open Library

/-! ## One turn of a link -/

section Turn

variable (call : LatchCall) (link : Nat)

/-- The count of clear samples after the sample of a call. -/
def countSample (latch : LinkVillainLatch) : LinkVillainLatch :=
  if call.clear link then
    if call.sampleTsNs link ≠ 0 ∧ call.sampleTsNs link ≠ latch.lastClearSampleTsNs then
      { latch with
        clearSamples := satAdd32 latch.clearSamples 1
        lastClearSampleTsNs := call.sampleTsNs link }
    else latch
  else if call.overloaded link then { latch with clearSamples := 0, lastClearSampleTsNs := 0 }
  else latch

/-- How a latch comes to be empty in a call: it was, or it is cleared for one of
three reasons. Only a release withholds the fresh villain. -/
inductive Emptied (latch : LinkVillainLatch) :
    LinkVillainLatch → List CsVillainLatchEvent → Option LinkContender → Prop where
  | empty (vacant : latch.contender = none) : Emptied latch latch [] (call.fresh link)
  | invalid {latched : LinkContender} (held : latch.contender = some latched)
      (dead : call.live latched.tid = false) :
      Emptied latch {} [call.event link .invalid latched latch] (call.fresh link)
  | release {latched : LinkContender} (held : latch.contender = some latched)
      (alive : call.live latched.tid = true) (clear : call.clear link = true)
      (enough : call.releaseSamples ≤ (countSample call link latch).clearSamples) :
      Emptied latch {} [call.event link .release latched (countSample call link latch)] none
  | expire {latched : LinkContender} (counted : LinkVillainLatch)
      (held : latch.contender = some latched) (alive : call.live latched.tid = true)
      (late : latch.holdUntilNs ≤ call.nowNs)
      (pending : call.clear link = true →
        (countSample call link latch).clearSamples < call.releaseSamples) :
      Emptied latch {} [call.event link .expire latched counted] (call.fresh link)

/-- Everything that can happen to a link in one call. -/
inductive LinkTurn (latch : LinkVillainLatch) (epoch : Nat) :
    Visit LinkVillainLatch Nat LinkReport → Prop where
  | kept {latched : LinkContender} (held : latch.contender = some latched)
      (alive : call.live latched.tid = true) (early : call.nowNs < latch.holdUntilNs)
      (pending : call.clear link = true →
        (countSample call link latch).clearSamples < call.releaseSamples)
      (logTsNs : Nat) {events : List CsVillainLatchEvent}
      (logged : events = [] ∨
        events = [call.event link .hold latched (countSample call link latch)]) :
      LinkTurn latch epoch
        { slot := { countSample call link latch with lastHoldLogSampleTsNs := logTsNs }
          carry := epoch
          output := { effective := some latched, events } }
  | offered {start : LinkVillainLatch} {events : List CsVillainLatchEvent}
      {acquireFresh : Option LinkContender}
      (emptied : Emptied call link latch start events acquireFresh) :
      LinkTurn latch epoch (offerFresh call link start events acquireFresh epoch)

variable {call link}

theorem countSample_of_clear {latch : LinkVillainLatch} (clear : call.clear link = true) :
    countSample call link latch =
      if call.sampleTsNs link ≠ 0 ∧ call.sampleTsNs link ≠ latch.lastClearSampleTsNs then
        { latch with
          clearSamples := satAdd32 latch.clearSamples 1
          lastClearSampleTsNs := call.sampleTsNs link }
      else latch :=
  if_pos clear

theorem countSample_of_not_clear {latch : LinkVillainLatch} (clear : call.clear link = false) :
    countSample call link latch =
      if call.overloaded link then { latch with clearSamples := 0, lastClearSampleTsNs := 0 }
      else latch := by
  rw [countSample, if_neg (by simp [clear])]

@[simp] theorem countSample_contender (latch : LinkVillainLatch) :
    (countSample call link latch).contender = latch.contender := by
  unfold countSample
  split
  · split <;> rfl
  · split <;> rfl

@[simp] theorem countSample_holdUntilNs (latch : LinkVillainLatch) :
    (countSample call link latch).holdUntilNs = latch.holdUntilNs := by
  unfold countSample
  split
  · split <;> rfl
  · split <;> rfl

/-- Counting keeps a missing or stale sample out. -/
theorem countSample_of_no_sample {latch : LinkVillainLatch} (missing : call.sample link = none) :
    countSample call link latch = latch := by
  have unclear : call.clear link = false := by simp [LatchCall.clear, missing]
  have calm : call.overloaded link = false := by simp [LatchCall.overloaded, missing]
  rw [countSample_of_not_clear unclear, calm]
  rfl

private theorem holdLatch_kept (latched : LinkContender) (latch : LinkVillainLatch) :
    ∃ logTsNs events, holdLatch call link latched latch =
        .kept { latch with lastHoldLogSampleTsNs := logTsNs } events ∧
      (events = [] ∨ events = [call.event link .hold latched latch]) := by
  unfold holdLatch
  dsimp only
  split
  · exact ⟨_, _, rfl, .inr rfl⟩
  · exact ⟨latch.lastHoldLogSampleTsNs, _, rfl, .inl rfl⟩

private theorem finishHeld_hold {latched : LinkContender} {latch : LinkVillainLatch} {epoch : Nat}
    (held : latch.contender = some latched) (alive : call.live latched.tid = true)
    (early : call.nowNs < latch.holdUntilNs)
    (pending : call.clear link = true →
      (countSample call link latch).clearSamples < call.releaseSamples) :
    LinkTurn call link latch epoch (finishHeld call link latched epoch
      (holdLatch call link latched (countSample call link latch))) := by
  obtain ⟨logTsNs, events, result, logged⟩ :=
    holdLatch_kept latched (countSample call link latch)
  rw [result]
  exact .kept held alive early pending logTsNs logged

theorem visitLink_turn (latch : LinkVillainLatch) (epoch : Nat) :
    LinkTurn call link latch epoch (visitLink call link latch epoch) := by
  unfold visitLink
  split
  next vacant => exact .offered (.empty vacant)
  next latched held =>
    unfold settleHeld
    dsimp only
    cases alive : call.live latched.tid with
    | false => exact .offered (.invalid held alive)
    | true =>
        rw [Bool.not_true, if_neg (by simp)]
        cases clear : call.clear link with
        | true =>
            rw [if_pos rfl, ← countSample_of_clear clear]
            split
            next enough => exact .offered (.release held alive clear enough)
            next few =>
              rw [countSample_holdUntilNs]
              have pending : call.clear link = true →
                  (countSample call link latch).clearSamples < call.releaseSamples :=
                fun _ => Nat.lt_of_not_le few
              split
              next late => exact .offered (.expire _ held alive late pending)
              next early => exact finishHeld_hold held alive (Nat.lt_of_not_le early) pending
        | false =>
            rw [if_neg (by simp), ← countSample_of_not_clear clear]
            have pending : call.clear link = true →
                (countSample call link latch).clearSamples < call.releaseSamples :=
              fun shown => absurd (clear.symm.trans shown) (by simp)
            split
            next late => exact .offered (.expire _ held alive late pending)
            next early => exact finishHeld_hold held alive (Nat.lt_of_not_le early) pending

end Turn

/-! ## The log of a link -/

def CsVillainLatchAction.clears : CsVillainLatchAction → Bool
  | .release | .expire | .invalid => true
  | .acquire | .hold => false

/-- What an event says about its contender. -/
def loggedContender (contender : LinkContender) : Nat × Nat :=
  (contender.tid, contender.score)

/-- An acquisition finds the latch empty; every other event names the contender
that is held. -/
def replayEvent (held : Option (Nat × Nat)) (event : CsVillainLatchEvent) :
    Option (Option (Nat × Nat)) :=
  match event.action with
  | .acquire => if held = none then some (some (event.tid, event.score)) else none
  | .hold => if held = some (event.tid, event.score) then some held else none
  | .release | .expire | .invalid =>
      if held = some (event.tid, event.score) then some none else none

def replay (held : Option (Nat × Nat)) (events : List CsVillainLatchEvent) :
    Option (Option (Nat × Nat)) :=
  events.foldlM replayEvent held

def linkEvents (link : Nat) (events : List CsVillainLatchEvent) : List CsVillainLatchEvent :=
  events.filter (CsVillainLatchEvent.linkId · = link)

def acquireEpochs (events : List CsVillainLatchEvent) : List Nat :=
  (events.filter (CsVillainLatchEvent.action · = .acquire)).map CsVillainLatchEvent.pressureEpoch

theorem replay_append (held : Option (Nat × Nat)) (left right : List CsVillainLatchEvent) :
    replay held (left ++ right) = (replay held left).bind fun held => replay held right :=
  List.foldlM_append

section Turn

variable {call : LatchCall} {link epoch : Nat} {latch : LinkVillainLatch}
  {visit : Visit LinkVillainLatch Nat LinkReport}

/-- An emptied latch holds nobody, and its log says why. -/
theorem Emptied.spec {start : LinkVillainLatch} {events : List CsVillainLatchEvent}
    {acquireFresh : Option LinkContender}
    (emptied : Emptied call link latch start events acquireFresh) :
    start.contender = none ∧ (∀ event ∈ events, event.linkId = link) ∧
      acquireEpochs events = [] ∧
      replay (latch.contender.map loggedContender) events = some none ∧
      (latch.contender ≠ none → ∃ event ∈ events, event.action.clears = true) := by
  cases emptied with
  | empty vacant => simp [vacant, acquireEpochs, replay]
  | invalid held dead | release held alive clear enough | expire counted held alive late pending =>
      simp [held, acquireEpochs, replay, replayEvent, LatchCall.event, loggedContender,
        CsVillainLatchAction.clears]

theorem LinkTurn.linkId (turn : LinkTurn call link latch epoch visit) :
    ∀ event ∈ visit.output.events, event.linkId = link := by
  cases turn with
  | kept held alive early pending logTsNs logged =>
      intro event member
      rcases logged with rfl | rfl
      · cases member
      · rw [List.mem_singleton.mp member]
        rfl
  | @offered start events acquireFresh emptied =>
      obtain ⟨_, tagged, _⟩ := emptied.spec
      cases acquireFresh with
      | none => exact tagged
      | some contender =>
          intro event member
          rcases List.mem_append.mp member with member | member
          · exact tagged event member
          · rw [List.mem_singleton.mp member]
            rfl

/-- A turn reports the villain it leaves in the latch. -/
theorem LinkTurn.effective (turn : LinkTurn call link latch epoch visit) :
    visit.output.effective = visit.slot.contender := by
  cases turn with
  | kept held alive early pending logTsNs logged => simpa using held.symm
  | @offered start events acquireFresh emptied =>
      cases acquireFresh with
      | none => exact emptied.spec.1.symm
      | some contender => rfl

theorem LinkTurn.replay (turn : LinkTurn call link latch epoch visit) :
    replay (latch.contender.map loggedContender) visit.output.events =
      some (visit.slot.contender.map loggedContender) := by
  cases turn with
  | kept held alive early pending logTsNs logged =>
      rcases logged with rfl | rfl
      · simp [Villain.replay]
      · simp [Villain.replay, replayEvent, held, LatchCall.event, loggedContender]
  | @offered start events acquireFresh emptied =>
      obtain ⟨vacant, _, _, replayed, _⟩ := emptied.spec
      cases acquireFresh with
      | none => simpa [offerFresh, vacant] using replayed
      | some contender =>
          rw [offerFresh, replay_append, replayed, Option.bind_some]
          rfl

/-- A villain that is not cleared stays; only the samples are counted. -/
theorem LinkTurn.uncleared (turn : LinkTurn call link latch epoch visit)
    (held : latch.contender ≠ none)
    (uncleared : ∀ event ∈ visit.output.events, event.action.clears = false) :
    ∃ logTsNs,
      visit.slot = { countSample call link latch with lastHoldLogSampleTsNs := logTsNs } := by
  cases turn with
  | kept held alive early pending logTsNs logged => exact ⟨logTsNs, rfl⟩
  | @offered start events acquireFresh emptied =>
      obtain ⟨_, _, _, _, cleared⟩ := emptied.spec
      obtain ⟨event, member, clears⟩ := cleared held
      have shown : event ∈ (offerFresh call link start events acquireFresh epoch).output.events := by
        cases acquireFresh with
        | none => exact member
        | some contender => exact List.mem_append_left _ member
      exact absurd (clears.symm.trans (uncleared event shown)) (by simp)

/-- A villain that the turn did not acquire is reported within its window only. -/
theorem LinkTurn.early (turn : LinkTurn call link latch epoch visit)
    (reported : visit.output.effective ≠ none)
    (unacquired : ∀ event ∈ visit.output.events, event.action ≠ .acquire) :
    call.nowNs < visit.slot.holdUntilNs := by
  cases turn with
  | kept held alive early pending logTsNs logged => simpa using early
  | @offered start events acquireFresh emptied =>
      cases acquireFresh with
      | none => exact absurd rfl reported
      | some contender =>
          exact absurd rfl (unacquired _ (List.mem_append_right _ (List.mem_singleton.mpr rfl)))

theorem LinkTurn.acquired (turn : LinkTurn call link latch epoch visit)
    {event : CsVillainLatchEvent} (member : event ∈ visit.output.events)
    (acquires : event.action = .acquire) :
    ∃ contender, visit.slot = acquireLatch call link contender (satAdd64 epoch 1) := by
  cases turn with
  | kept held alive early pending logTsNs logged =>
      rcases logged with rfl | rfl
      · cases member
      · rw [List.mem_singleton.mp member] at acquires
        cases acquires
  | @offered start events acquireFresh emptied =>
      cases acquireFresh with
      | none =>
          obtain ⟨_, _, noEpoch, _⟩ := emptied.spec
          have listed : event ∈ events.filter (CsVillainLatchEvent.action · = .acquire) :=
            List.mem_filter.mpr ⟨member, decide_eq_true acquires⟩
          rw [List.map_eq_nil_iff.mp noEpoch] at listed
          cases listed
      | some contender => exact ⟨contender, rfl⟩

/-- The epochs of a turn: none, or the next one. -/
theorem LinkTurn.epochs (turn : LinkTurn call link latch epoch visit) :
    (acquireEpochs visit.output.events = [] ∧ visit.carry = epoch) ∨
      (acquireEpochs visit.output.events = [satAdd64 epoch 1] ∧
        visit.carry = satAdd64 epoch 1) := by
  cases turn with
  | kept held alive early pending logTsNs logged =>
      refine .inl ⟨?_, rfl⟩
      rcases logged with rfl | rfl
      · rfl
      · rfl
  | @offered start events acquireFresh emptied =>
      obtain ⟨_, _, none, _⟩ := emptied.spec
      cases acquireFresh with
      | none => exact .inl ⟨none, rfl⟩
      | some contender =>
          refine .inr ⟨?_, rfl⟩
          unfold acquireEpochs at none ⊢
          rw [offerFresh, List.filter_append, List.map_append, none]
          rfl

end Turn

/-! ## One call -/

namespace CsVillainLatchController

def latch (controller : CsVillainLatchController) (link : Nat) : LinkVillainLatch :=
  (controller.links[link]?).getD {}

variable {controller : CsVillainLatchController} {call : LatchCall} {link : Nat}

private theorem ensureLinkCount_getElem? (controller : CsVillainLatchController)
    (within : link < call.linkCount) :
    (controller.ensureLinkCount call.linkCount).links[link]? = some (controller.latch link) := by
  unfold ensureLinkCount latch
  dsimp only
  by_cases old : link < controller.links.length
  · rw [List.getElem?_append_left old, List.getElem?_eq_getElem old, Option.getD_some]
  · rw [List.getElem?_append_right (by omega), List.getElem?_replicate_of_lt (by omega),
      List.getElem?_eq_none (by omega), Option.getD_none]

theorem linkCount_le_length (controller : CsVillainLatchController) (call : LatchCall) :
    call.linkCount ≤ (controller.ensureLinkCount call.linkCount).links.length := by
  simp only [ensureLinkCount, List.length_append, List.length_replicate]
  omega

private theorem visitLink_tagged (call : LatchCall) (index : Nat) (slot : LinkVillainLatch)
    (carry : Nat) : ∀ event ∈ (visitLink call index slot carry).output.events,
      event.linkId = index :=
  (visitLink_turn slot carry).linkId

/-- In a call with throttling every link of the call takes one turn. -/
theorem effectiveVillains_turn (controller : CsVillainLatchController) (enabled : call.policy.csVillainThrottle = true)
    (within : link < call.linkCount) :
    ∃ epoch visit, LinkTurn call link (controller.latch link) epoch visit ∧
      (controller.effectiveVillains call).1.latch link = visit.slot ∧
      (controller.effectiveVillains call).2.effectiveVillains[link]? =
        some visit.output.effective ∧
      linkEvents link (controller.effectiveVillains call).2.events = visit.output.events := by
  have found := ensureLinkCount_getElem? controller within
  obtain ⟨kept, reported⟩ := sweep_visited (visitLink call) controller.nextPressureEpoch
    (controller.linkCount_le_length call) within found
  refine ⟨_, _, visitLink_turn _ (controller.sweepLinks call link).carry, ?_⟩
  rw [effectiveVillains, enabled, Bool.not_true, if_neg (by simp)]
  refine ⟨?_, ?_, ?_⟩
  · rw [latch]
    exact (congrArg (Option.getD · {}) kept).trans (Option.getD_some ..)
  · rw [List.getElem?_map]
    exact congrArg (Option.map LinkReport.effective) reported
  · refine (sweep_events_filter (visitLink call) LinkReport.events CsVillainLatchEvent.linkId
      (visitLink_tagged call) (controller.linkCount_le_length call) found).trans ?_
    exact if_pos within

/-- The other links are left alone. -/
theorem effectiveVillains_untouched (controller : CsVillainLatchController) (enabled : call.policy.csVillainThrottle = true)
    (beyond : call.linkCount ≤ link) :
    (controller.effectiveVillains call).1.latch link = controller.latch link ∧
      (controller.effectiveVillains call).2.effectiveVillains[link]? = none ∧
      linkEvents link (controller.effectiveVillains call).2.events = [] := by
  rw [effectiveVillains, enabled, Bool.not_true, if_neg (by simp)]
  refine ⟨?_, ?_, ?_⟩
  · rw [latch, sweepLinks, sweep_slots_of_le _ beyond, latch, ensureLinkCount]
    by_cases old : link < controller.links.length
    · rw [List.getElem?_append_left old]
    · rw [List.getElem?_eq_none (by simp; omega), List.getElem?_eq_none (by omega)]
  · refine List.getElem?_eq_none ?_
    rw [List.length_map, sweepLinks, sweep_outputs_length _ _ (controller.linkCount_le_length call)]
    exact beyond
  · exact sweep_events_filter_of_le (visitLink call) LinkReport.events CsVillainLatchEvent.linkId
      (visitLink_tagged call) (controller.linkCount_le_length call) beyond

end CsVillainLatchController

/-! ## The epochs of the acquisitions -/

/-- The acquisitions so far are numbered from one, up to the largest epoch. -/
structure Numbered (epochs : List Nat) (nextEpoch : Nat) : Prop where
  next : nextEpoch = min epochs.length u64Max
  epochs : epochs = (List.range epochs.length).map fun index => min (index + 1) u64Max

theorem Numbered.append {epochs : List Nat} {nextEpoch : Nat} (numbered : Numbered epochs nextEpoch) :
    Numbered (epochs ++ [satAdd64 nextEpoch 1]) (satAdd64 nextEpoch 1) := by
  have epoch : satAdd64 nextEpoch 1 = min (epochs.length + 1) u64Max := by
    rw [numbered.next]
    unfold satAdd64
    omega
  constructor
  · rw [epoch, List.length_append, List.length_singleton]
  · rw [List.length_append, List.length_singleton, List.range_succ, List.map_append,
      ← numbered.epochs, epoch]
    rfl

theorem Numbered.getElem? {epochs : List Nat} {nextEpoch index epoch : Nat}
    (numbered : Numbered epochs nextEpoch) (found : epochs[index]? = some epoch) :
    epoch = min (index + 1) u64Max := by
  obtain ⟨within, _⟩ := List.getElem?_eq_some_iff.mp found
  rw [numbered.epochs, List.getElem?_map, List.getElem?_range within] at found
  exact (Option.some.inj found).symm

theorem Numbered.pairwise {epochs : List Nat} {nextEpoch : Nat}
    (numbered : Numbered epochs nextEpoch) :
    epochs.Pairwise fun earlier later => earlier < later ∨ earlier = u64Max ∧ later = u64Max := by
  rw [List.pairwise_iff_getElem]
  intro first last firstWithin lastWithin before
  have earlier := numbered.getElem? (List.getElem?_eq_getElem firstWithin)
  have later := numbered.getElem? (List.getElem?_eq_getElem lastWithin)
  omega

theorem acquireEpochs_append (left right : List CsVillainLatchEvent) :
    acquireEpochs (left ++ right) = acquireEpochs left ++ acquireEpochs right := by
  rw [acquireEpochs, List.filter_append, List.map_append]
  rfl

namespace CsVillainLatchController

/-- A call goes on with the numbering of the calls before it. -/
theorem effectiveVillains_numbered {controller : CsVillainLatchController} {call : LatchCall}
    {log : List CsVillainLatchEvent} (enabled : call.policy.csVillainThrottle = true)
    (numbered : Numbered (acquireEpochs log) controller.nextPressureEpoch) :
    Numbered (acquireEpochs (log ++ (controller.effectiveVillains call).2.events))
      (controller.effectiveVillains call).1.nextPressureEpoch := by
  have visited : ∀ count ≤ call.linkCount, Numbered
      (acquireEpochs (log ++ (controller.sweepLinks call count).outputs.flatMap LinkReport.events))
      (controller.sweepLinks call count).carry := by
    intro count within
    induction count with
    | zero => simpa [sweepLinks, sweep] using numbered
    | succ count ih =>
        have before := ih (by omega)
        unfold sweepLinks at before ⊢
        rw [sweep_succ_of_some _ (ensureLinkCount_getElem? controller within),
          List.flatMap_append, List.flatMap_singleton, ← List.append_assoc, acquireEpochs_append]
        rcases (visitLink_turn (controller.latch count) _).epochs with
          ⟨none, carried⟩ | ⟨one, carried⟩
        · rw [none, List.append_nil, carried]
          exact before
        · rw [one, carried]
          exact before.append
  rw [effectiveVillains, enabled, Bool.not_true, if_neg (by simp)]
  exact visited _ (Nat.le_refl _)

end CsVillainLatchController

/-! ## Runs -/

section Run

variable (calls : Nat → LatchCall)

def latchStep (call : LatchCall) (controller : CsVillainLatchController) :
    CsVillainLatchController :=
  (controller.effectiveVillains call).1

def latchEvents (call : LatchCall) (controller : CsVillainLatchController) :
    List CsVillainLatchEvent :=
  (controller.effectiveVillains call).2.events

/-- The controller before the call of that number. -/
def latchRun (count : Nat) : CsVillainLatchController := iterate latchStep calls {} count

def latchOutput (index : Nat) : CsVillainLatchOutput :=
  ((latchRun calls index).effectiveVillains (calls index)).2

/-- The events of the first calls. -/
def latchLog (count : Nat) : List CsVillainLatchEvent :=
  history latchEvents latchStep calls {} count

/-- The events of a call about a link. -/
def linkLog (index link : Nat) : List CsVillainLatchEvent :=
  linkEvents link (latchOutput calls index).events

/-- A call logs that action for a link. -/
def LogsAt (index link : Nat) (action : CsVillainLatchAction) : Prop :=
  ∃ event ∈ linkLog calls index link, event.action = action

instance (index link : Nat) (action : CsVillainLatchAction) :
    Decidable (LogsAt calls index link action) :=
  inferInstanceAs (Decidable (∃ event ∈ _, _))

variable {calls}

theorem latchLog_succ (count : Nat) :
    latchLog calls (count + 1) = latchLog calls count ++ (latchOutput calls count).events :=
  history_succ ..

/-- In every call of a run a link takes its turn or is left alone. -/
theorem latchRun_turn (enabled : ∀ index, (calls index).policy.csVillainThrottle = true)
    (index link : Nat) :
    (link < (calls index).linkCount ∧ ∃ epoch visit,
      LinkTurn (calls index) link ((latchRun calls index).latch link) epoch visit ∧
      (latchRun calls (index + 1)).latch link = visit.slot ∧
      (latchOutput calls index).effectiveVillains[link]? = some visit.output.effective ∧
      linkLog calls index link = visit.output.events) ∨
    ((calls index).linkCount ≤ link ∧
      (latchRun calls (index + 1)).latch link = (latchRun calls index).latch link ∧
      (latchOutput calls index).effectiveVillains[link]? = none ∧
      linkLog calls index link = []) := by
  rcases Nat.lt_or_ge link (calls index).linkCount with within | beyond
  · exact .inl ⟨within,
      CsVillainLatchController.effectiveVillains_turn _ (enabled index) within⟩
  · exact .inr ⟨beyond,
      CsVillainLatchController.effectiveVillains_untouched _ (enabled index) beyond⟩

theorem latchRun_numbered (enabled : ∀ index, (calls index).policy.csVillainThrottle = true)
    (count : Nat) :
    Numbered (acquireEpochs (latchLog calls count)) (latchRun calls count).nextPressureEpoch := by
  induction count with
  | zero => exact ⟨rfl, rfl⟩
  | succ count ih =>
      rw [latchLog_succ]
      exact CsVillainLatchController.effectiveVillains_numbered (enabled count) ih

theorem latchRun_replay (enabled : ∀ index, (calls index).policy.csVillainThrottle = true)
    (link count : Nat) :
    replay none (linkEvents link (latchLog calls count)) =
      some (((latchRun calls count).latch link).contender.map loggedContender) := by
  induction count with
  | zero => rfl
  | succ count ih =>
      have split : linkEvents link (latchLog calls (count + 1)) =
          linkEvents link (latchLog calls count) ++ linkLog calls count link := by
        rw [latchLog_succ, linkEvents, List.filter_append]
        rfl
      rw [split, replay_append, ih, Option.bind_some]
      rcases latchRun_turn enabled count link with
        ⟨_, epoch, visit, turn, after, _, events⟩ | ⟨_, same, _, events⟩
      · rw [events, after]
        exact turn.replay
      · rw [events, same]
        rfl

/-- Between its acquisition and the event that clears it, a villain keeps its
latch and its window. -/
theorem latchRun_unchanged (enabled : ∀ index, (calls index).policy.csVillainThrottle = true)
    {first last link : Nat} (later : first ≤ last)
    (held : ((latchRun calls (first + 1)).latch link).contender ≠ none)
    (uncleared : ∀ index, first < index → index ≤ last →
      ∀ event ∈ linkLog calls index link, event.action.clears = false) :
    ((latchRun calls (last + 1)).latch link).contender =
        ((latchRun calls (first + 1)).latch link).contender ∧
      ((latchRun calls (last + 1)).latch link).holdUntilNs =
        ((latchRun calls (first + 1)).latch link).holdUntilNs := by
  induction last, later using Nat.le_induction with
  | base => exact ⟨rfl, rfl⟩
  | succ last later ih =>
      obtain ⟨contender, window⟩ := ih fun index lower upper => uncleared index lower (by omega)
      rcases latchRun_turn enabled (last + 1) link with
        ⟨_, epoch, visit, turn, after, _, events⟩ | ⟨_, same, _⟩
      · obtain ⟨logTsNs, slot⟩ := turn.uncleared (by rw [contender]; exact held)
          (by rw [← events]; exact uncleared (last + 1) (by omega) (Nat.le_refl _))
        rw [after, slot]
        exact ⟨(countSample_contender _).trans contender, (countSample_holdUntilNs _).trans window⟩
      · rw [same]
        exact ⟨contender, window⟩

theorem latchRun_acquired (enabled : ∀ index, (calls index).policy.csVillainThrottle = true)
    {index link : Nat} (acquired : LogsAt calls index link .acquire) :
    ∃ contender epoch, (latchRun calls (index + 1)).latch link =
      acquireLatch (calls index) link contender epoch := by
  obtain ⟨event, member, acquires⟩ := acquired
  rcases latchRun_turn enabled index link with
    ⟨_, epoch, visit, turn, after, _, events⟩ | ⟨_, _, _, events⟩
  · rw [events] at member
    obtain ⟨contender, taken⟩ := turn.acquired member acquires
    exact ⟨contender, _, after.trans taken⟩
  · rw [events] at member
    cases member

end Run

/-- The log of a run is faithful. Replayed, it gives the villain that every link
holds after every call, which is the villain that the call reported; a villain
keeps its window until it is cleared, and is reported after its acquisition
within that window only; and the acquisitions are numbered in order, until the
counter is full. -/
theorem latchRun_log_faithful (calls : Nat → LatchCall)
    (enabled : ∀ index, (calls index).policy.csVillainThrottle = true) :
    (∀ count link, replay none (linkEvents link (latchLog calls count)) =
      some (((latchRun calls count).latch link).contender.map loggedContender)) ∧
    (∀ index link, link < (calls index).linkCount →
      (latchOutput calls index).effectiveVillains[link]? =
        some ((latchRun calls (index + 1)).latch link).contender) ∧
    (∀ first last link, first ≤ last → LogsAt calls first link .acquire →
      (∀ index action, first < index → index ≤ last → action.clears = true →
        ¬ LogsAt calls index link action) →
      ((latchRun calls (last + 1)).latch link).contender =
          ((latchRun calls (first + 1)).latch link).contender ∧
        ((latchRun calls (last + 1)).latch link).holdUntilNs =
          ((latchRun calls (first + 1)).latch link).holdUntilNs) ∧
    (∀ index link contender,
      (latchOutput calls index).effectiveVillains[link]? = some (some contender) →
      ¬ LogsAt calls index link .acquire →
      (calls index).nowNs < ((latchRun calls (index + 1)).latch link).holdUntilNs) ∧
    (∀ count, (acquireEpochs (latchLog calls count)).Pairwise fun earlier later =>
      earlier < later ∨ earlier = u64Max ∧ later = u64Max) := by
  refine ⟨fun count link => latchRun_replay enabled link count, ?_, ?_, ?_, ?_⟩
  · intro index link within
    rcases latchRun_turn enabled index link with
      ⟨_, epoch, visit, turn, after, reported, _⟩ | ⟨beyond, _⟩
    · rw [reported, after, turn.effective]
    · omega
  · intro first last link later acquired uncleared
    have held : ((latchRun calls (first + 1)).latch link).contender ≠ none := by
      obtain ⟨contender, epoch, taken⟩ := latchRun_acquired enabled acquired
      rw [taken]
      exact Option.some_ne_none contender
    refine latchRun_unchanged enabled later held ?_
    intro index lower upper event member
    refine Bool.eq_false_iff.mpr fun clears => ?_
    exact uncleared index event.action lower upper clears ⟨event, member, rfl⟩
  · intro index link contender shown unacquired
    rcases latchRun_turn enabled index link with
      ⟨_, epoch, visit, turn, after, reported, events⟩ | ⟨_, _, missing, _⟩
    · rw [after]
      refine turn.early ?_ ?_
      · rw [Option.some.inj (reported.symm.trans shown)]
        exact Option.some_ne_none contender
      · intro event member acquires
        exact unacquired ⟨event, by rw [events]; exact member, acquires⟩
    · exact absurd (missing.symm.trans shown) (by simp)
  · intro count
    exact (latchRun_numbered enabled count).pairwise

/-- A call in which a villain is offered to a link and no thread is alive. -/
def restlessCall : LatchCall where
  mapping := Planner.sampleMapping
  freshVillains := [some { tid := 7, score := 100, contenderCount := 2 }]
  dfLinkStates := [none]
  threads := ∅
  activeCutoffNs := 1
  nowNs := 1
  policy := Planner.samplePolicy

def restlessCalls (_ : Nat) : LatchCall := restlessCall

theorem latchRun_log_faithful_restless :
    (∀ index, (restlessCalls index).policy.csVillainThrottle = true) ∧
    replay none (linkEvents 0 (latchLog restlessCalls 3)) =
      some (((latchRun restlessCalls 3).latch 0).contender.map loggedContender) ∧
    ((latchRun restlessCalls 3).latch 0).contender.map loggedContender = some (7, 100) :=
  ⟨fun _ => rfl, (latchRun_log_faithful restlessCalls fun _ => rfl).1 3 0, by decide +kernel⟩

private theorem restless_acquires (controller : CsVillainLatchController) :
    (acquireEpochs (latchEvents restlessCall controller)).length = 1 := by
  have visited : ∀ (latch : LinkVillainLatch) (epoch : Nat),
      (acquireEpochs (visitLink restlessCall 0 latch epoch).output.events).length = 1 := by
    intro latch epoch
    have dead : ∀ tid, restlessCall.live tid = false := by
      intro tid
      simp [LatchCall.live, restlessCall]
    unfold visitLink
    split
    · rfl
    next latched held =>
      rw [settleHeld, dead latched.tid]
      rfl
  have present : 0 < (controller.ensureLinkCount restlessCall.linkCount).links.length :=
    controller.linkCount_le_length restlessCall
  have found := List.getElem?_eq_getElem present
  show (acquireEpochs ((controller.sweepLinks restlessCall 1).outputs.flatMap
    LinkReport.events)).length = 1
  rw [CsVillainLatchController.sweepLinks, sweep_succ_of_some _ found]
  simpa [sweep] using visited _ _

/-- Over a run of that many calls the counter fills up, and two acquisitions
share the last epoch. -/
theorem restlessRun_epochs_repeat :
    (∀ index, (restlessCalls index).policy = Planner.samplePolicy ∧
      (restlessCalls index).linkCount = 1 ∧
      (restlessCalls index).nowNs ≤ (restlessCalls (index + 1)).nowNs) ∧
    Planner.samplePolicy.csVillainThrottle = true ∧
    ¬ (acquireEpochs (latchLog restlessCalls (u64Max + 1))).Pairwise (· < ·) := by
  refine ⟨fun index => ⟨rfl, rfl, Nat.le_refl _⟩, rfl, ?_⟩
  have length : ∀ count, (acquireEpochs (latchLog restlessCalls count)).length = count := by
    intro count
    induction count with
    | zero => rfl
    | succ count ih =>
        rw [latchLog_succ, acquireEpochs_append, List.length_append, ih]
        exact congrArg (count + ·) (restless_acquires _)
  intro increasing
  rw [List.pairwise_iff_getElem] at increasing
  have numbered := latchRun_numbered (fun _ => rfl : ∀ index,
    (restlessCalls index).policy.csVillainThrottle = true) (u64Max + 1)
  have size := length (u64Max + 1)
  have positive : 0 < u64Max := by decide
  have before : u64Max - 1 < (acquireEpochs (latchLog restlessCalls (u64Max + 1))).length := by
    omega
  have last : u64Max < (acquireEpochs (latchLog restlessCalls (u64Max + 1))).length := by omega
  have strict := increasing (u64Max - 1) u64Max before last (by omega)
  rw [numbered.getElem? (List.getElem?_eq_getElem before),
    numbered.getElem? (List.getElem?_eq_getElem last)] at strict
  omega

end CSwitch.Villain
