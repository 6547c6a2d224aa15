import CSwitch.Villain.LatchProperties

/-! When a latch lets its villain go, and whom it may throttle. A release takes
enough different samples without overload since the last sample with one; a
villain that is only held is alive. -/

set_option autoImplicit false

namespace CSwitch.Villain

open Dispatch (LinkContender)
open Library
open Std (TreeMap TreeSet)

/-! ## What a turn does to the count -/

section Turn

variable {call : LatchCall} {link epoch : Nat} {latch : LinkVillainLatch}
  {visit : Visit LinkVillainLatch Nat LinkReport}

/-- A release needs a clear sample and the full count, and leaves the latch empty. -/
theorem LinkTurn.released (turn : LinkTurn call link latch epoch visit)
    {event : CsVillainLatchEvent} (member : event ∈ visit.output.events)
    (releases : event.action = .release) :
    latch.contender ≠ none ∧ call.clear link = true ∧
      call.releaseSamples ≤ (countSample call link latch).clearSamples ∧
      visit.slot.contender = none ∧ visit.output.effective = none ∧
      ∀ other ∈ visit.output.events, other.action ≠ .acquire := by
  cases turn with
  | kept held alive early pending logTsNs logged =>
      rcases logged with rfl | rfl
      · cases member
      · rw [List.mem_singleton.mp member] at releases
        cases releases
  | @offered start events acquireFresh emptied =>
      have listed : event ∈ events := by
        cases acquireFresh with
        | none => exact member
        | some contender =>
            rcases List.mem_append.mp member with member | member
            · exact member
            · rw [List.mem_singleton.mp member] at releases
              cases releases
      cases emptied with
      | empty vacant => cases listed
      | invalid held dead | expire counted held alive late pending =>
          rw [List.mem_singleton.mp listed] at releases
          cases releases
      | release held alive clear enough =>
          refine ⟨?_, clear, enough, rfl, rfl, ?_⟩
          · rw [held]
            exact Option.some_ne_none _
          · intro other shown
            rw [List.mem_singleton.mp shown]
            simp [LatchCall.event]

/-- After a turn the latch is empty, newly taken, or held on with its count. -/
theorem LinkTurn.after (turn : LinkTurn call link latch epoch visit) :
    visit.slot.contender = none ∨
    (visit.slot.clearSamples = 0 ∧ visit.slot.lastClearSampleTsNs = 0 ∧
      ∃ event ∈ visit.output.events, event.action = .acquire) ∨
    (latch.contender ≠ none ∧ (∀ event ∈ visit.output.events, event.action = .hold) ∧
      visit.slot.clearSamples = (countSample call link latch).clearSamples ∧
      visit.slot.lastClearSampleTsNs = (countSample call link latch).lastClearSampleTsNs) := by
  cases turn with
  | kept held alive early pending logTsNs logged =>
      refine .inr (.inr ⟨?_, ?_, rfl, rfl⟩)
      · rw [held]
        exact Option.some_ne_none _
      · rcases logged with rfl | rfl
        · simp
        · simp [LatchCall.event]
  | @offered start events acquireFresh emptied =>
      cases acquireFresh with
      | none => exact .inl emptied.spec.1
      | some contender =>
          exact .inr (.inl ⟨rfl, rfl, _,
            List.mem_append_right _ (List.mem_singleton.mpr rfl), rfl⟩)

end Turn

/-! ## Release -/

/-- The fresh samples of a link come in the order of their timestamps. -/
def SamplesOrdered (calls : Nat → LatchCall) (link : Nat) : Prop :=
  ∀ first last, first ≤ last → ((calls first).sample link).isSome = true →
    ((calls last).sample link).isSome = true →
    (calls first).sampleTsNs link ≤ (calls last).sampleTsNs link

/-- Between two points of a run enough calls show a link clear, each with a
sample of its own. -/
def ClearCalls (calls : Nat → LatchCall) (link after count enough lastTsNs : Nat) : Prop :=
  ∃ indices : Finset Nat,
    (∀ index ∈ indices, after < index ∧ index < count ∧ (calls index).clear link = true ∧
      (calls index).sampleTsNs link ≤ lastTsNs) ∧
    Set.InjOn (fun index => (calls index).sampleTsNs link) indices ∧ enough ≤ indices.card

section Count

variable {calls : Nat → LatchCall} {link after count : Nat} {latch : LinkVillainLatch}

theorem ClearCalls.none (calls : Nat → LatchCall) (link after count lastTsNs : Nat) :
    ClearCalls calls link after count 0 lastTsNs :=
  ⟨∅, by simp, by simp, Nat.zero_le _⟩

theorem sample_of_clear {call : LatchCall} (clear : call.clear link = true) :
    (call.sample link).isSome = true :=
  (Bool.and_eq_true_iff.mp clear).1

/-- The count of a latch stays covered by different clear samples. -/
theorem ClearCalls.countSample (within : after < count)
    (past : (calls count).clear link = true →
      latch.lastClearSampleTsNs ≤ (calls count).sampleTsNs link)
    (counted : ClearCalls calls link after count latch.clearSamples latch.lastClearSampleTsNs) :
    ClearCalls calls link after (count + 1)
      (countSample (calls count) link latch).clearSamples
      (countSample (calls count) link latch).lastClearSampleTsNs := by
  obtain ⟨indices, shown, different, enough⟩ := counted
  have same : ClearCalls calls link after (count + 1) latch.clearSamples
      latch.lastClearSampleTsNs := by
    refine ⟨indices, fun index member => ?_, different, enough⟩
    obtain ⟨lower, upper, clear, dated⟩ := shown index member
    exact ⟨lower, by omega, clear, dated⟩
  cases clear : (calls count).clear link with
  | false =>
      rw [countSample_of_not_clear clear]
      split
      · exact ClearCalls.none ..
      · exact same
  | true =>
      rw [countSample_of_clear clear]
      split
      next new =>
        -- a sample with another timestamp is later than every counted one
        have later : latch.lastClearSampleTsNs < (calls count).sampleTsNs link := by
          have := past clear
          omega
        have absent : count ∉ indices := by
          intro member
          obtain ⟨_, upper, _⟩ := shown count member
          omega
        refine ⟨insert count indices, ?_, ?_, ?_⟩
        · intro index member
          rcases Finset.mem_insert.mp member with rfl | member
          · exact ⟨within, Nat.lt_succ_self _, clear, Nat.le_refl _⟩
          · obtain ⟨lower, upper, clear, dated⟩ := shown index member
            exact ⟨lower, by omega, clear, dated.trans later.le⟩
        · rw [Finset.coe_insert, Set.injOn_insert (by simpa using absent)]
          refine ⟨different, ?_⟩
          rintro ⟨index, member, equal⟩
          obtain ⟨_, _, _, dated⟩ := shown index (by simpa using member)
          dsimp only at equal
          omega
        · rw [Finset.card_insert_of_notMem absent]
          exact (Nat.min_le_left _ _).trans (Nat.succ_le_succ enough)
      · exact same

end Count

/-- A held villain was acquired at some call and has not been cleared since; the
count of its latch dates from there and from every overloaded sample since. -/
structure HeldSince (calls : Nat → LatchCall) (link acquired count : Nat)
    (clearSamples lastTsNs : Nat) : Prop where
  past : acquired < count
  acquires : LogsAt calls acquired link .acquire
  uncleared : ∀ index action, acquired < index → index < count → action.clears = true →
    ¬ LogsAt calls index link action
  dated : lastTsNs = 0 ∨ ∃ index < count, (calls index).clear link = true ∧
    (calls index).sampleTsNs link = lastTsNs
  counted : ∀ reset, acquired ≤ reset → reset < count →
    (reset = acquired ∨ (calls reset).overloaded link = true) →
    ClearCalls calls link reset count clearSamples lastTsNs

section Release

variable {calls : Nat → LatchCall} {link acquired count : Nat} {latch : LinkVillainLatch}

theorem HeldSince.lastTsNs_le (ordered : SamplesOrdered calls link)
    (held : HeldSince calls link acquired count latch.clearSamples latch.lastClearSampleTsNs)
    (clear : (calls count).clear link = true) :
    latch.lastClearSampleTsNs ≤ (calls count).sampleTsNs link := by
  rcases held.dated with zero | ⟨index, before, shown, dated⟩
  · omega
  · rw [← dated]
    exact ordered index count before.le (sample_of_clear shown) (sample_of_clear clear)

theorem overloaded_not_clear {call : LatchCall} (overloaded : call.overloaded link = true) :
    call.clear link = false := by
  have excess := of_decide_eq_true (Bool.and_eq_true_iff.mp overloaded).2
  unfold LatchCall.clear
  rw [Bool.and_eq_false_iff, beq_eq_false_iff_ne]
  exact .inr (by omega)

/-- Holding on for one more call. -/
theorem HeldSince.next (ordered : SamplesOrdered calls link)
    (held : HeldSince calls link acquired count latch.clearSamples latch.lastClearSampleTsNs)
    (uncleared : ∀ event ∈ linkLog calls count link, event.action.clears = false) :
    HeldSince calls link acquired (count + 1) (countSample (calls count) link latch).clearSamples
      (countSample (calls count) link latch).lastClearSampleTsNs where
  past := held.past.trans (Nat.lt_succ_self _)
  acquires := held.acquires
  uncleared := by
    intro index action lower upper clears logs
    rcases Nat.lt_succ_iff_lt_or_eq.mp upper with earlier | rfl
    · exact held.uncleared index action lower earlier clears logs
    · obtain ⟨event, member, rfl⟩ := logs
      exact absurd (clears.symm.trans (uncleared event member)) (by simp)
  dated := by
    have same : latch.lastClearSampleTsNs = 0 ∨ ∃ index < count + 1,
        (calls index).clear link = true ∧
        (calls index).sampleTsNs link = latch.lastClearSampleTsNs :=
      held.dated.imp_right fun ⟨index, before, shown⟩ => ⟨index, by omega, shown⟩
    cases clear : (calls count).clear link with
    | false =>
        rw [countSample_of_not_clear clear]
        split
        · exact .inl rfl
        · exact same
    | true =>
        rw [countSample_of_clear clear]
        split
        · exact .inr ⟨count, Nat.lt_succ_self _, clear, rfl⟩
        · exact same
  counted := by
    intro reset lower upper resets
    rcases Nat.lt_succ_iff_lt_or_eq.mp upper with earlier | rfl
    · exact (held.counted reset lower earlier resets).countSample earlier
        (held.lastTsNs_le ordered)
    · rcases resets with rfl | overloaded
      · exact absurd held.past (Nat.lt_irrefl _)
      · rw [countSample_of_not_clear (overloaded_not_clear overloaded), if_pos overloaded]
        exact ClearCalls.none ..

theorem latchRun_heldSince (enabled : ∀ index, (calls index).policy.csVillainThrottle = true)
    (ordered : SamplesOrdered calls link) (count : Nat)
    (held : ((latchRun calls count).latch link).contender ≠ none) :
    ∃ acquired, HeldSince calls link acquired count
      ((latchRun calls count).latch link).clearSamples
      ((latchRun calls count).latch link).lastClearSampleTsNs := by
  induction count with
  | zero => exact absurd rfl held
  | succ count ih =>
      rcases latchRun_turn enabled count link with
        ⟨_, epoch, visit, turn, after, _, events⟩ | ⟨beyond, same, _, events⟩
      · rw [after] at held ⊢
        rcases turn.after with vacant | ⟨zero, undated, acquires⟩ |
          ⟨latched, holds, samples, lastTs⟩
        · exact absurd vacant held
        · rw [← events] at acquires
          refine ⟨count, Nat.lt_succ_self _, acquires, ?_, .inl undated, ?_⟩
          · intro index action lower upper
            omega
          · intro reset lower upper _
            rw [zero]
            exact ClearCalls.none ..
        · obtain ⟨acquired, before⟩ := ih latched
          rw [samples, lastTs]
          refine ⟨acquired, before.next ordered fun event member => ?_⟩
          rw [events] at member
          rw [holds event member]
          rfl
      · rw [same] at held ⊢
        obtain ⟨acquired, before⟩ := ih held
        -- a link that was acquired is one of the links of the machine
        have known : link < maxDomains := by
          obtain ⟨event, member, _⟩ := before.acquires
          rcases latchRun_turn enabled acquired link with ⟨within, _⟩ | ⟨_, _, _, empty⟩
          · exact within.trans_le (Nat.min_le_right _ _)
          · rw [empty] at member
            cases member
        have missing : (calls count).sample link = none := by
          unfold LatchCall.linkCount at beyond
          unfold LatchCall.sample liveDfState getFlat
          rw [List.getElem?_eq_none (by omega)]
          rfl
        have next := before.next ordered (by rw [events]; simp)
        rw [countSample_of_no_sample missing] at next
        exact ⟨acquired, next⟩

/-- What a call that logs a release found and left. -/
theorem latchRun_released (enabled : ∀ index, (calls index).policy.csVillainThrottle = true)
    {released : Nat} (releases : LogsAt calls released link .release) :
    ((latchRun calls released).latch link).contender ≠ none ∧
      (calls released).clear link = true ∧
      (calls released).releaseSamples ≤
        (countSample (calls released) link ((latchRun calls released).latch link)).clearSamples ∧
      ((latchRun calls (released + 1)).latch link).contender = none ∧
      (latchOutput calls released).effectiveVillains[link]? = some none ∧
      ¬ LogsAt calls released link .acquire := by
  obtain ⟨event, member, action⟩ := releases
  rcases latchRun_turn enabled released link with
    ⟨_, epoch, visit, turn, after, reported, events⟩ | ⟨_, _, _, events⟩
  · rw [events] at member
    obtain ⟨held, clear, enough, vacant, silent, unacquired⟩ := turn.released member action
    refine ⟨held, clear, enough, ?_, ?_, ?_⟩
    · rw [after]
      exact vacant
    · rw [reported, silent]
    · rintro ⟨other, shown, acquires⟩
      rw [events] at shown
      exact unacquired other shown acquires
  · rw [events] at member
    cases member

end Release

/-- The discipline of a release. It takes as many calls that show the link clear,
with samples of different timestamps, as the policy asks for, since the villain
was acquired and since the last overloaded sample; a stale or missing sample
neither releases nor touches the count; and a released link takes no villain in
the same call. -/
theorem latchRun_release_discipline (calls : Nat → LatchCall)
    (enabled : ∀ index, (calls index).policy.csVillainThrottle = true) (link : Nat)
    (ordered : SamplesOrdered calls link) :
    (∀ released, LogsAt calls released link .release →
      ∃ acquired < released, LogsAt calls acquired link .acquire ∧
        (∀ index action, acquired < index → index < released → action.clears = true →
          ¬ LogsAt calls index link action) ∧
        ∀ reset, acquired ≤ reset → reset < released →
          (reset = acquired ∨ (calls reset).overloaded link = true) →
          ∃ indices : Finset Nat,
            (∀ index ∈ indices, reset < index ∧ index ≤ released ∧
              (calls index).clear link = true) ∧
            Set.InjOn (fun index => (calls index).sampleTsNs link) indices ∧
            (calls released).releaseSamples ≤ indices.card) ∧
    (∀ index, (calls index).sample link = none →
      ¬ LogsAt calls index link .release ∧
      (((latchRun calls index).latch link).contender ≠ none →
        (∀ action, action.clears = true → ¬ LogsAt calls index link action) →
        ((latchRun calls (index + 1)).latch link).clearSamples =
            ((latchRun calls index).latch link).clearSamples ∧
          ((latchRun calls (index + 1)).latch link).lastClearSampleTsNs =
            ((latchRun calls index).latch link).lastClearSampleTsNs)) ∧
    (∀ released, LogsAt calls released link .release →
      ¬ LogsAt calls released link .acquire ∧
        (latchOutput calls released).effectiveVillains[link]? = some none ∧
        ((latchRun calls (released + 1)).latch link).contender = none) := by
  refine ⟨?_, ?_, ?_⟩
  · intro released releases
    obtain ⟨held, _, enough, _⟩ := latchRun_released enabled releases
    obtain ⟨acquired, since⟩ := latchRun_heldSince enabled ordered released held
    refine ⟨acquired, since.past, since.acquires, since.uncleared, ?_⟩
    intro reset lower upper resets
    -- the releasing sample itself is counted before it is compared
    obtain ⟨indices, shown, different, counted⟩ :=
      (since.counted reset lower upper resets).countSample upper (since.lastTsNs_le ordered)
    refine ⟨indices, fun index member => ?_, different, enough.trans counted⟩
    obtain ⟨above, below, clear, _⟩ := shown index member
    exact ⟨above, Nat.lt_succ_iff.mp below, clear⟩
  · intro index missing
    constructor
    · intro releases
      obtain ⟨_, clear, _⟩ := latchRun_released enabled releases
      have shown := sample_of_clear clear
      rw [missing] at shown
      cases shown
    · intro held uncleared
      rcases latchRun_turn enabled index link with
        ⟨_, epoch, visit, turn, after, _, events⟩ | ⟨_, same, _⟩
      · obtain ⟨logTsNs, slot⟩ := turn.uncleared held fun event member =>
          Bool.eq_false_iff.mpr fun clears =>
            uncleared event.action clears ⟨event, by rw [events]; exact member, rfl⟩
        rw [after, slot, countSample_of_no_sample missing]
        exact ⟨rfl, rfl⟩
      · rw [same]
        exact ⟨rfl, rfl⟩
  · intro released releases
    obtain ⟨_, _, _, vacant, silent, unacquired⟩ := latchRun_released enabled releases
    exact ⟨unacquired, silent, vacant⟩

def seenThread : ManagedThreadState := { tid := 7, lastSeenNs := 1 }

def clearingSample (index : Nat) : CcmDfStateValue where
  sampleTsNs := index + 1
  rawReadBwMibSX100 := if index = 0 then 3000000 else 0
  valid := 1

/-- A villain is acquired under overload; two clear samples later it is released. -/
def clearingCalls (index : Nat) : LatchCall where
  mapping := Planner.sampleMapping
  freshVillains := [some { tid := 7, score := 900, contenderCount := 2 }]
  dfLinkStates := [some (clearingSample index)]
  threads := .ofList [(7, seenThread)]
  activeCutoffNs := 0
  nowNs := index + 1
  policy := Planner.samplePolicy

theorem clearingCalls_sampleTsNs (index : Nat) : (clearingCalls index).sampleTsNs 0 = index + 1 := by
  have fresh : isStale (clearingSample index).sampleTsNs (index + 1)
      Planner.samplePolicy.dfStaleMs = false := by
    simp [isStale, clearingSample]
  have found : getFlat (clearingCalls index).dfLinkStates 0 = some (clearingSample index) := rfl
  have shown : (clearingCalls index).sample 0 = some (clearingSample index) := by
    rw [LatchCall.sample, liveDfState, found]
    refine Option.filter_some_pos ?_
    show (1 != 0 && !isStale (clearingSample index).sampleTsNs (index + 1)
      Planner.samplePolicy.dfStaleMs) = true
    rw [fresh]
    rfl
  rw [LatchCall.sampleTsNs, shown]
  rfl

theorem latchRun_release_discipline_clearing :
    LogsAt clearingCalls 2 0 .release ∧
    ∃ acquired < 2, LogsAt clearingCalls acquired 0 .acquire ∧
      ∃ indices : Finset Nat, (∀ index ∈ indices, acquired < index ∧ index ≤ 2 ∧
          (clearingCalls index).clear 0 = true) ∧
        Set.InjOn (fun index => (clearingCalls index).sampleTsNs 0) indices ∧
        2 ≤ indices.card := by
  have released : LogsAt clearingCalls 2 0 .release := by decide +kernel
  have ordered : SamplesOrdered clearingCalls 0 := by
    intro first last later _ _
    rw [clearingCalls_sampleTsNs, clearingCalls_sampleTsNs]
    omega
  obtain ⟨acquired, before, acquires, _, counted⟩ :=
    (latchRun_release_discipline clearingCalls (fun _ => rfl) 0 ordered).1 2 released
  exact ⟨released, acquired, before, acquires,
    counted acquired (Nat.le_refl _) before (.inl rfl)⟩

/-! ## Whom the latch throttles -/

/-- The thread is known and was seen at or after the cut-off. -/
def SeenSince (threads : ThreadMap) (cutoffNs tid : Nat) : Prop :=
  ∃ thread, threads[tid]? = some thread ∧ cutoffNs ≤ thread.lastSeenNs

theorem live_iff {call : LatchCall} {tid : Nat} :
    call.live tid = true ↔ SeenSince call.threads call.activeCutoffNs tid := by
  unfold LatchCall.live SeenSince
  cases call.threads[tid]? with
  | none => simp
  | some thread => simp

section Liveness

variable {call : LatchCall} {link epoch : Nat} {latch : LinkVillainLatch}
  {visit : Visit LinkVillainLatch Nat LinkReport}

/-- The latch has a living villain that the call will not replace. -/
def Guards (call : LatchCall) (link : Nat) (latch : LinkVillainLatch) : Prop :=
  ∃ latched, latch.contender = some latched ∧ call.live latched.tid = true ∧
    (call.nowNs < latch.holdUntilNs ∨
      call.clear link = true ∧
        call.releaseSamples ≤ (countSample call link latch).clearSamples)

/-- A turn reports a dead villain exactly when it takes one that was offered. -/
theorem LinkTurn.effective_live_iff (turn : LinkTurn call link latch epoch visit) :
    (∀ contender, visit.output.effective = some contender → call.live contender.tid = true) ↔
      ∀ contender, call.fresh link = some contender →
        call.live contender.tid = true ∨ Guards call link latch := by
  cases turn with
  | kept held alive early pending logTsNs logged =>
      refine iff_of_true ?_ ?_
      · intro contender reported
        obtain rfl := Option.some.inj reported
        exact alive
      · exact fun _ _ => .inr ⟨_, held, alive, .inl early⟩
  | offered emptied =>
      have taken : ∀ (start : LinkVillainLatch) (events : List CsVillainLatchEvent),
          ¬ Guards call link latch →
          ((∀ contender, (offerFresh call link start events (call.fresh link)
              epoch).output.effective = some contender → call.live contender.tid = true) ↔
            ∀ contender, call.fresh link = some contender →
              call.live contender.tid = true ∨ Guards call link latch) := by
        intro start events unguarded
        have effective : (offerFresh call link start events (call.fresh link)
            epoch).output.effective = call.fresh link := by
          unfold offerFresh
          cases call.fresh link with
          | none => rfl
          | some contender => rfl
        simp only [effective, unguarded, or_false]
      cases emptied with
      | empty vacant =>
          refine taken _ _ ?_
          rintro ⟨latched, held, _⟩
          exact absurd (vacant.symm.trans held) (by simp)
      | invalid held dead =>
          refine taken _ _ ?_
          rintro ⟨latched, held', alive, _⟩
          obtain rfl := Option.some.inj (held.symm.trans held')
          exact absurd (dead.symm.trans alive) (by simp)
      | expire counted held alive late pending =>
          refine taken _ _ ?_
          rintro ⟨latched, held', _, early | ⟨clear, enough⟩⟩
          · omega
          · exact absurd (pending clear) (Nat.not_lt_of_le enough)
      | release held alive clear enough =>
          refine iff_of_true ?_ ?_
          · intro contender reported
            cases reported
          · exact fun _ _ => .inr ⟨_, held, alive, .inr ⟨clear, enough⟩⟩

end Liveness

/-- The call of the main loop: the fresh villains are elected on the same threads. -/
def electedCall (mapping : MappingInfo) (threads : ThreadMap) (victimLinks : TreeSet Nat)
    (dfLinkStates : List (Option CcmDfStateValue)) (victimFallbacks : TreeMap Nat LinkContender)
    (activeCutoffNs nowNs : Nat) (policy : PolicyConfig) : LatchCall where
  mapping := mapping
  freshVillains := chooseLinkVillainsWithFallbacks mapping threads victimLinks dfLinkStates
    victimFallbacks nowNs policy
  dfLinkStates := dfLinkStates
  threads := threads
  activeCutoffNs := activeCutoffNs
  nowNs := nowNs
  policy := policy

section Elected

variable (controller : CsVillainLatchController) (mapping : MappingInfo) (threads : ThreadMap)
  (victimLinks : TreeSet Nat) (dfLinkStates : List (Option CcmDfStateValue))
  (victimFallbacks : TreeMap Nat LinkContender) (activeCutoffNs nowNs : Nat)
  (policy : PolicyConfig)

/-- A link with an elected villain is overloaded, so it is not clear. -/
theorem electedCall_not_clear {link : Nat} {contender : LinkContender}
    (elected : electLinkVillain mapping threads dfLinkStates victimFallbacks nowNs policy link =
      some contender) :
    (electedCall mapping threads victimLinks dfLinkStates victimFallbacks activeCutoffNs nowNs
      policy).clear link = false := by
  unfold electLinkVillain at elected
  split at elected
  · cases elected
  next overload =>
    unfold LatchCall.clear LatchCall.overloadX100 LatchCall.sample electedCall
    unfold liveDfOverloadX100WithCapacity liveDfBwX100 at overload
    cases sample : liveDfState dfLinkStates link nowNs policy with
    | none => rfl
    | some state => simpa [sample] using overload

/-- Every reported villain is alive exactly when every villain elected for a
victim link is, save where a living villain is within its window. -/
theorem effectiveVillains_live_iff (enabled : policy.csVillainThrottle = true) :
    (∀ (link : Nat) (contender : LinkContender),
      (controller.effectiveVillains (electedCall mapping threads victimLinks dfLinkStates
        victimFallbacks activeCutoffNs nowNs policy)).2.effectiveVillains[link]? =
          some (some contender) →
      SeenSince threads activeCutoffNs contender.tid) ↔
    ∀ link < min dfLinkStates.length maxDomains, link ∈ victimLinks →
      ∀ contender,
        electLinkVillain mapping threads dfLinkStates victimFallbacks nowNs policy link =
          some contender →
        SeenSince threads activeCutoffNs contender.tid ∨
          ∃ latched, (controller.latch link).contender = some latched ∧
            SeenSince threads activeCutoffNs latched.tid ∧
            nowNs < (controller.latch link).holdUntilNs := by
  let call := electedCall mapping threads victimLinks dfLinkStates victimFallbacks activeCutoffNs
    nowNs policy
  have fresh : ∀ link < call.linkCount, call.fresh link = if link ∈ victimLinks then
      electLinkVillain mapping threads dfLinkStates victimFallbacks nowNs policy link else none :=
    fun link within => chooseLinkVillainsWithFallbacks_getFlat _ _ _ _ _ _ _ within
  have turn : ∀ link < call.linkCount, (∀ contender,
      (controller.effectiveVillains call).2.effectiveVillains[link]? = some (some contender) →
        call.live contender.tid = true) ↔
      ∀ contender, call.fresh link = some contender →
        call.live contender.tid = true ∨ Guards call link (controller.latch link) := by
    intro link within
    obtain ⟨epoch, visit, turn, _, reported, _⟩ :=
      CsVillainLatchController.effectiveVillains_turn controller enabled within
    rw [reported]
    simp only [Option.some.injEq]
    exact turn.effective_live_iff
  constructor
  · intro alive link within victim contender elected
    have offered : call.fresh link = some contender := by
      rw [fresh link within, if_pos victim, elected]
    rcases (turn link within).mp (fun contender reported => live_iff.mpr (alive link contender
      reported)) contender offered with seen | ⟨latched, held, seen, early | ⟨clear, _⟩⟩
    · exact .inl (live_iff.mp seen)
    · exact .inr ⟨latched, held, live_iff.mp seen, early⟩
    · exact absurd (clear.symm.trans (electedCall_not_clear mapping threads victimLinks
        dfLinkStates victimFallbacks activeCutoffNs nowNs policy elected)) (by simp)
  · intro elected link contender reported
    rcases Nat.lt_or_ge link call.linkCount with within | beyond
    · refine live_iff.mp ((turn link within).mpr ?_ contender reported)
      intro contender offered
      rw [fresh link within] at offered
      split at offered
      next victim =>
        rcases elected link within victim contender offered with seen | ⟨latched, held, seen, early⟩
        · exact .inl (live_iff.mpr seen)
        · exact .inr ⟨latched, held, live_iff.mpr seen, .inl early⟩
      · cases offered
    · have missing := (CsVillainLatchController.effectiveVillains_untouched
        controller enabled beyond).2.1
      exact absurd (missing.symm.trans reported) (by simp)

end Elected

/-- A thread of a signature that blames it for a part of a link's load, last seen
at the first millisecond. -/
def blamedThread (tid score : Nat) : ManagedThreadState where
  tid := tid
  lastSeenNs := 1000000
  ioCsSignature := { valid := true, dfDomainDeltaX100 := Vector.replicate maxDomains score }

def blamedThreads : ThreadMap := .ofList [(7, blamedThread 7 900), (8, blamedThread 8 100)]

def overloadedSample (sampleTsNs : Nat) : CcmDfStateValue where
  sampleTsNs := sampleTsNs
  rawReadBwMibSX100 := 3000000
  valid := 1

/-- An overloaded link whose victims blame it on the same two threads. -/
def blamedCall (activeCutoffNs nowNs : Nat) : LatchCall :=
  electedCall Planner.sampleMapping blamedThreads (.ofList [0]) [some (overloadedSample nowNs)] ∅
    activeCutoffNs nowNs Planner.samplePolicy

/-- The latch that acquired the thread while it was alive. -/
def blamedController : CsVillainLatchController :=
  (CsVillainLatchController.effectiveVillains {} (blamedCall 0 1000000)).1

/-- Half a second later the thread is gone: it is cleared as invalid and
acquired again in the same call. -/
theorem blamedController_reacquires_dead :
    ¬ SeenSince blamedThreads 400000000 7 ∧
    (blamedController.effectiveVillains (blamedCall 400000000 500000000)).2.effectiveVillains =
      [some { tid := 7, score := 900, contenderCount := 2 }] ∧
    (blamedController.effectiveVillains (blamedCall 400000000 500000000)).2.events.map
      (fun event => (event.action, event.tid)) = [(.invalid, 7), (.acquire, 7)] := by
  refine ⟨?_, by decide +kernel, by decide +kernel⟩
  intro seen
  have alive : (blamedCall 400000000 500000000).live 7 = true := live_iff.mpr seen
  exact absurd alive (by decide +kernel)

/-- While the blamed thread is alive the condition holds, and so does the law. -/
theorem effectiveVillains_live_iff_blamed :
    (CsVillainLatchController.effectiveVillains {} (blamedCall 0 1000000)).2.effectiveVillains[0]? =
      some (some { tid := 7, score := 900, contenderCount := 2 }) ∧
    SeenSince blamedThreads 0 7 := by
  have law := effectiveVillains_live_iff {} Planner.sampleMapping blamedThreads (.ofList [0])
    [some (overloadedSample 1000000)] ∅ 0 1000000 Planner.samplePolicy rfl
  have effective : (CsVillainLatchController.effectiveVillains {}
      (blamedCall 0 1000000)).2.effectiveVillains[0]? =
      some (some { tid := 7, score := 900, contenderCount := 2 }) := by decide +kernel
  refine ⟨effective, law.mpr ?_ 0 _ effective⟩
  intro link within _ contender elected
  have first : link = 0 := by
    have bound : min [some (overloadedSample 1000000)].length maxDomains = 1 := rfl
    omega
  subst first
  have winner : electLinkVillain Planner.sampleMapping blamedThreads
      [some (overloadedSample 1000000)] ∅ 1000000 Planner.samplePolicy 0 =
      some { tid := 7, score := 900, contenderCount := 2 } := by decide +kernel
  rw [winner] at elected
  have same := Option.some.inj elected
  rw [← same]
  exact .inl (live_iff.mp (by decide +kernel : (blamedCall 0 1000000).live 7 = true))

end CSwitch.Villain
