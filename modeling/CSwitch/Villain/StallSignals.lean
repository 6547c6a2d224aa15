import CSwitch.Dispatch.Scheduler
import CSwitch.Library.FirstBest
import CSwitch.Villain.LatchDiscipline

/-! The stalls that the pending tasks report, the links that they make victims, and
where a villain that is throttled comes from. -/

set_option autoImplicit false

namespace CSwitch.Villain

open Dispatch (LinkContender taskStallDeltaPctX100)
open Library
open Std (TreeMap TreeSet)

inductive StallSignalKind where
  | delta
  | absolute
  deriving Repr, DecidableEq

def StallSignalKind.allowsFallbackVillain : StallSignalKind → Bool
  | .delta => true
  | .absolute => false

structure StallSignal where
  kind : StallSignalKind
  liveOverloadX100 : Nat
  deriving Repr, DecidableEq

def stallSignalForLink (task : QueuedTask) (linkId : Nat) (mapping : MappingInfo)
    (dfCsStates : List (Option CcmDfStateValue)) (nowNs : Nat) (cfg : PolicyConfig) :
    Option StallSignal :=
  let liveOverloadX100 := liveDfOverloadX100WithCapacity dfCsStates linkId
    (mapping.csCapacityMibSX100 linkId) nowNs cfg
  if liveOverloadX100 = 0 ∨ task.lastUpdateNs = 0 then none
  else if taskStallDeltaPctX100 task ≥ cfg.stallVictimDeltaPctX100 then
    some { kind := .delta, liveOverloadX100 }
  else if task.lastStallPctX100 ≥ cfg.stallVictimMinPctX100 then
    some { kind := .absolute, liveOverloadX100 }
  else none

/-! ## The pass over the pending tasks -/

/-- What the pass reads besides the tasks. -/
structure StallScan where
  mapping : MappingInfo
  dfCsStates : List (Option CcmDfStateValue)
  prepassNowNs : Nat
  policy : PolicyConfig
  userschedPid : Nat

/-- `victim_links` and `victim_fallbacks`. -/
structure Victims where
  links : TreeSet Nat := ∅
  fallbacks : TreeMap Nat LinkContender := ∅

def offerFallback (fallbacks : TreeMap Nat LinkContender) (linkId : Nat)
    (fallback : LinkContender) : TreeMap Nat LinkContender :=
  match fallbacks[linkId]? with
  | none => fallbacks.insert linkId fallback
  | some current =>
      if fallback.score > current.score then fallbacks.insert linkId fallback else fallbacks

def fallbackVillain (task : QueuedTask) (signal : StallSignal) : LinkContender where
  tid := task.key
  score := max (satAdd32 signal.liveOverloadX100 task.lastStallPctX100) 1
  contenderCount := 1

def signalOffer (task : QueuedTask) (signal : Option StallSignal) : Option LinkContender :=
  (signal.filter (·.kind.allowsFallbackVillain)).map (fallbackVillain task)

namespace StallScan

variable (scan : StallScan)

def linkCount : Nat := min scan.dfCsStates.length maxDomains

def signal (task : QueuedTask) (linkId : Nat) : Option StallSignal :=
  stallSignalForLink task linkId scan.mapping scan.dfCsStates scan.prepassNowNs scan.policy

def noteSignal (task : QueuedTask) (victims : Victims) (linkId : Nat) : Victims :=
  match scan.signal task linkId with
  | none => victims
  | some signal =>
      { links := victims.links.insert linkId
        fallbacks :=
          if signal.kind.allowsFallbackVillain then
            offerFallback victims.fallbacks linkId (fallbackVillain task signal)
          else victims.fallbacks }

def noteTask (victims : Victims) (task : QueuedTask) : Victims :=
  if task.group = scan.userschedPid then victims
  else (List.range scan.linkCount).foldl (scan.noteSignal task) victims

def victims (pending : List QueuedTask) : Victims := pending.foldl scan.noteTask {}

/-- The signal of a task that the pass notes for a link. -/
def noted (linkId : Nat) (task : QueuedTask) : Option StallSignal :=
  if task.group = scan.userschedPid ∨ scan.linkCount ≤ linkId then none
  else scan.signal task linkId

/-- What a task offers as the villain of a link that has no other. -/
def offered (linkId : Nat) (task : QueuedTask) : Option LinkContender :=
  signalOffer task (scan.noted linkId task)

end StallScan

/-- The higher score first. -/
def byScore (left right : LinkContender) : Ordering := compare right.score left.score

instance : Std.TransCmp byScore :=
  inferInstanceAs (Std.TransCmp fun left right : LinkContender =>
    compareOn LinkContender.score right left)

section Scan

variable (scan : StallScan) {task : QueuedTask} {victims : Victims} {linkId link : Nat}

theorem offerFallback_getElem? (fallbacks : TreeMap Nat LinkContender) (fallback : LinkContender) :
    (offerFallback fallbacks linkId fallback)[link]? =
      if linkId = link then keepBetter byScore fallbacks[link]? fallback else fallbacks[link]? := by
  by_cases same : linkId = link
  · subst same
    rw [if_pos rfl]
    unfold offerFallback keepBetter
    cases held : fallbacks[linkId]? with
    | none => simp
    | some current =>
        by_cases higher : fallback.score > current.score
        · simp [byScore, Nat.compare_eq_lt, Ordering.isLT_iff_eq_lt, higher]
        · simp [byScore, Nat.compare_eq_lt, Ordering.isLT_iff_eq_lt, higher, held]
  · rw [if_neg same]
    unfold offerFallback
    split
    · simp [TreeMap.getElem?_insert, same]
    · split
      · simp [TreeMap.getElem?_insert, same]
      · rfl

/-- The offer of one task against the fallback of the tasks before it. -/
def keepOffer (best offer : Option LinkContender) : Option LinkContender :=
  match offer with
  | none => best
  | some fallback => keepBetter byScore best fallback

theorem mem_noteSignal_links :
    link ∈ (scan.noteSignal task victims linkId).links ↔
      link ∈ victims.links ∨ linkId = link ∧ (scan.signal task link).isSome = true := by
  unfold StallScan.noteSignal
  by_cases same : linkId = link
  · subst same
    cases scan.signal task linkId with
    | none => simp
    | some signal => simp
  · cases scan.signal task linkId with
    | none => simp [same]
    | some signal => simp [same]

theorem signalOffer_some (signal : StallSignal) :
    signalOffer task (some signal) =
      if signal.kind.allowsFallbackVillain then some (fallbackVillain task signal) else none := by
  cases fallback : signal.kind.allowsFallbackVillain with
  | false => simp [signalOffer, Option.filter, fallback]
  | true => simp [signalOffer, Option.filter, fallback]

theorem noteSignal_fallbacks :
    (scan.noteSignal task victims linkId).fallbacks[link]? =
      if linkId = link then
        keepOffer victims.fallbacks[link]? (signalOffer task (scan.signal task link))
      else victims.fallbacks[link]? := by
  unfold StallScan.noteSignal
  cases found : scan.signal task linkId with
  | none =>
      by_cases same : linkId = link
      · subst same
        rw [if_pos rfl, found]
        rfl
      · rw [if_neg same]
  | some signal =>
      dsimp only
      by_cases same : linkId = link
      · subst same
        rw [if_pos rfl, found, signalOffer_some]
        cases signal.kind.allowsFallbackVillain with
        | false => rfl
        | true => exact (offerFallback_getElem? _ _).trans (if_pos rfl)
      · rw [if_neg same]
        cases signal.kind.allowsFallbackVillain with
        | false => rfl
        | true => exact (offerFallback_getElem? _ _).trans (if_neg same)

/-- Every link has its own part in the pass over the links. -/
theorem mem_noteSignals_links {linkIds : List Nat} :
    link ∈ (linkIds.foldl (scan.noteSignal task) victims).links ↔
      link ∈ victims.links ∨ link ∈ linkIds ∧ (scan.signal task link).isSome = true := by
  induction linkIds generalizing victims with
  | nil => simp
  | cons linkId rest ih =>
      rw [List.foldl_cons, ih, mem_noteSignal_links, List.mem_cons, @eq_comm _ link, or_assoc,
        or_and_right]

theorem noteSignals_fallbacks {linkIds : List Nat} (once : linkIds.Nodup) :
    (linkIds.foldl (scan.noteSignal task) victims).fallbacks[link]? =
      if link ∈ linkIds then
        keepOffer victims.fallbacks[link]? (signalOffer task (scan.signal task link))
      else victims.fallbacks[link]? := by
  induction linkIds generalizing victims with
  | nil => simp
  | cons linkId rest ih =>
      obtain ⟨fresh, once⟩ := List.nodup_cons.mp once
      rw [List.foldl_cons, ih once, noteSignal_fallbacks]
      by_cases same : linkId = link
      · subst same
        simp [fresh]
      · have other : link ≠ linkId := fun equal => same equal.symm
        simp [same, other]

theorem mem_noteTask_links :
    link ∈ (scan.noteTask victims task).links ↔
      link ∈ victims.links ∨ (scan.noted link task).isSome = true := by
  unfold StallScan.noteTask StallScan.noted
  by_cases own : task.group = scan.userschedPid
  · simp [own]
  · rw [if_neg own, mem_noteSignals_links, List.mem_range]
    by_cases within : link < scan.linkCount
    · simp [own, within, Nat.not_le_of_lt within]
    · simp [within, Nat.le_of_not_lt within]

theorem noteTask_fallbacks :
    (scan.noteTask victims task).fallbacks[link]? =
      keepOffer victims.fallbacks[link]? (scan.offered link task) := by
  unfold StallScan.noteTask StallScan.offered StallScan.noted
  by_cases own : task.group = scan.userschedPid
  · simp [own, signalOffer, keepOffer]
  · rw [if_neg own, noteSignals_fallbacks scan List.nodup_range]
    by_cases within : link < scan.linkCount
    · simp [own, within, Nat.not_le_of_lt within]
    · simp [within, Nat.le_of_not_lt within, signalOffer, keepOffer]

theorem mem_noteTasks_links {pending : List QueuedTask} :
    link ∈ (pending.foldl scan.noteTask victims).links ↔
      link ∈ victims.links ∨ ∃ task ∈ pending, (scan.noted link task).isSome = true := by
  induction pending generalizing victims with
  | nil => simp
  | cons task rest ih =>
      rw [List.foldl_cons, ih, mem_noteTask_links, List.exists_mem_cons_iff, or_assoc]

theorem noteTasks_fallbacks {pending : List QueuedTask} :
    (pending.foldl scan.noteTask victims).fallbacks[link]? =
      (pending.filterMap (scan.offered link)).foldl (keepBetter byScore)
        victims.fallbacks[link]? := by
  induction pending generalizing victims with
  | nil => rfl
  | cons task rest ih =>
      rw [List.foldl_cons, ih, noteTask_fallbacks]
      cases offer : scan.offered link task with
      | none => rw [List.filterMap_cons_none offer, keepOffer]
      | some fallback => rw [List.filterMap_cons_some offer, List.foldl_cons, keepOffer]

theorem mem_victims_links {pending : List QueuedTask} :
    link ∈ (scan.victims pending).links ↔
      ∃ task ∈ pending, (scan.noted link task).isSome = true := by
  rw [StallScan.victims, mem_noteTasks_links]
  simp

theorem victims_fallbacks {pending : List QueuedTask} {fallback : LinkContender} :
    (scan.victims pending).fallbacks[link]? = some fallback ↔
      FirstBest byScore (pending.filterMap (scan.offered link)) fallback := by
  rw [StallScan.victims, noteTasks_fallbacks, ← foldl_keepBetter_iff]
  simp

/-- The pass makes a link a victim when some pending task reports a stall there, and
keeps the first of the highest sudden stalls as its fallback. -/
theorem victims_exact (scan : StallScan) (pending : List QueuedTask) (link : Nat) :
    (link ∈ (scan.victims pending).links ↔
      ∃ task ∈ pending, (scan.noted link task).isSome = true) ∧
    ∀ fallback, (scan.victims pending).fallbacks[link]? = some fallback ↔
      FirstBest byScore (pending.filterMap (scan.offered link)) fallback :=
  ⟨mem_victims_links scan, fun _ => victims_fallbacks scan⟩

end Scan

/-! ## The villains of a run -/

/-- One round of the main loop, as far as its villains depend on it. -/
structure StallRound where
  scan : StallScan
  pending : List QueuedTask
  threads : ThreadMap
  villainNowNs : Nat

namespace StallRound

variable (round : StallRound)

def victims : Victims := round.scan.victims round.pending

def activeCutoffNs : Nat :=
  round.villainNowNs -
    satMul64 (max round.scan.policy.dfStaleMs round.scan.policy.llcStaleMs) 1000000

/-- The call of `effective_villains` with the fresh villains of the round. -/
def call : LatchCall :=
  electedCall round.scan.mapping round.threads round.victims.links round.scan.dfCsStates
    round.victims.fallbacks round.activeCutoffNs round.villainNowNs round.scan.policy

/-- Why a thread is the villain of a link: a pending task reports a stall there, the
link is overloaded, and the thread leads by its signature or, without a clear leader,
is the pending task whose sudden stall scores highest. -/
structure Blames (link : Nat) (villain : LinkContender) : Prop where
  victim : ∃ task ∈ round.pending, (round.scan.noted link task).isSome = true
  overloaded : liveDfOverloadX100WithCapacity round.scan.dfCsStates link
    (round.scan.mapping.csCapacityMibSX100 link) round.villainNowNs round.scan.policy ≠ 0
  chosen : (linkContenders round.threads link).winner = some villain ∨
    (linkContenders round.threads link).winner = none ∧
      FirstBest byScore (round.pending.filterMap (round.scan.offered link)) villain

end StallRound

section Rounds

variable {round : StallRound} {link : Nat} {villain : LinkContender}

theorem fresh_blames (within : link < round.call.linkCount)
    (fresh : round.call.fresh link = some villain) : round.Blames link villain := by
  have elected : (if link ∈ round.victims.links then
      electLinkVillain round.scan.mapping round.threads round.scan.dfCsStates
        round.victims.fallbacks round.villainNowNs round.scan.policy link
      else none) = some villain :=
    (chooseLinkVillainsWithFallbacks_getFlat _ _ _ _ _ _ _ within).symm.trans fresh
  split at elected
  · next victim =>
    unfold electLinkVillain at elected
    split at elected
    · cases elected
    · next overloaded =>
      refine ⟨(mem_victims_links round.scan).mp victim, overloaded, ?_⟩
      cases winner : (linkContenders round.threads link).winner with
      | some leader =>
          rw [winner, Option.some_or] at elected
          exact .inl elected
      | none =>
          rw [winner, Option.none_or] at elected
          exact .inr ⟨rfl, (victims_fallbacks round.scan).mp elected⟩
  · cases elected

theorem Emptied.source {call : LatchCall} {latch start : LinkVillainLatch}
    {events : List CsVillainLatchEvent} {acquireFresh : Option LinkContender}
    (emptied : Emptied call link latch start events acquireFresh) :
    acquireFresh = none ∨ acquireFresh = call.fresh link := by
  cases emptied with
  | empty vacant => exact .inr rfl
  | invalid held dead => exact .inr rfl
  | release held alive clear enough => exact .inl rfl
  | expire counted held alive late pending => exact .inr rfl

/-- A turn leaves the villain it found, or the fresh one of the call. -/
theorem LinkTurn.source {call : LatchCall} {epoch : Nat} {latch : LinkVillainLatch}
    {visit : Visit LinkVillainLatch Nat LinkReport} (turn : LinkTurn call link latch epoch visit)
    (held : visit.slot.contender = some villain) :
    latch.contender = some villain ∨ call.fresh link = some villain := by
  cases turn with
  | kept before alive early pending logTsNs logged =>
      rw [countSample_contender] at held
      exact .inl held
  | @offered start events acquireFresh emptied =>
      cases acquireFresh with
      | none =>
          have vacant : start.contender = none := emptied.spec.1
          exact absurd (vacant.symm.trans held) (by simp)
      | some contender =>
          cases emptied.source with
          | inl none => cases none
          | inr fresh => exact .inr (fresh.symm.trans held)

/-- Without throttling a call reports its fresh villains. -/
theorem unlatched_blames {controller : CsVillainLatchController}
    (disabled : round.call.policy.csVillainThrottle = false)
    (reported : (controller.effectiveVillains round.call).2.effectiveVillains[link]? =
      some (some villain)) : round.Blames link villain := by
  rw [CsVillainLatchController.effectiveVillains, disabled] at reported
  change (round.call.freshVillains.take round.call.linkCount ++
    List.replicate (round.call.linkCount - round.call.freshVillains.length) none)[link]? = _
      at reported
  by_cases taken : link < (round.call.freshVillains.take round.call.linkCount).length
  · rw [List.getElem?_append_left taken] at reported
    have within : link < round.call.linkCount :=
      Nat.lt_of_lt_of_le taken (List.length_take_le _ _)
    rw [List.getElem?_take_of_lt within] at reported
    apply fresh_blames within
    rw [LatchCall.fresh, getFlat, reported]
    rfl
  · rw [List.getElem?_append_right (Nat.le_of_not_lt taken), List.getElem?_replicate] at reported
    split at reported
    · cases Option.some.inj reported
    · cases reported

/-- The calls of the rounds. -/
def roundCalls (rounds : Nat → StallRound) (index : Nat) : LatchCall := (rounds index).call

variable (rounds : Nat → StallRound)

/-- A villain in a latch was blamed in a round before. -/
theorem latchRun_blames {count : Nat}
    (held : ((latchRun (roundCalls rounds) count).latch link).contender =
      some villain) :
    ∃ index < count, (rounds index).Blames link villain := by
  induction count with
  | zero =>
      exact absurd held (by simp [latchRun, iterate, CsVillainLatchController.latch])
  | succ count ih =>
      have earlier : ((latchRun (roundCalls rounds) count).latch link).contender =
          some villain → ∃ index < count + 1, (rounds index).Blames link villain := by
        intro before
        obtain ⟨index, within, blames⟩ := ih before
        exact ⟨index, Nat.lt_succ_of_lt within, blames⟩
      cases enabled : (rounds count).call.policy.csVillainThrottle with
      | true =>
          by_cases within : link < (rounds count).call.linkCount
          · obtain ⟨epoch, visit, turn, after, _⟩ :=
              (latchRun (roundCalls rounds) count).effectiveVillains_turn enabled within
            cases turn.source ((congrArg LinkVillainLatch.contender after).symm.trans held) with
            | inl before => exact earlier before
            | inr fresh => exact ⟨count, Nat.lt_succ_self count, fresh_blames within fresh⟩
          · have same := ((latchRun (roundCalls rounds) count).effectiveVillains_untouched
              enabled (Nat.le_of_not_lt within)).1
            exact earlier ((congrArg LinkVillainLatch.contender same).symm.trans held)
      | false =>
          have emptied : (latchRun (roundCalls rounds) (count + 1)).links =
              (latchRun (roundCalls rounds) count).links.map fun _ => {} := by
            show (((latchRun _ count).effectiveVillains (rounds count).call).1).links = _
            rw [CsVillainLatchController.effectiveVillains, enabled]
            rfl
          rw [CsVillainLatchController.latch, emptied, List.getElem?_map] at held
          cases slot : (latchRun (roundCalls rounds) count).links[link]? with
          | none => simp [slot] at held
          | some latch => simp [slot] at held

/-- A villain that is reported for a link was blamed for it in that round or in an
earlier one. -/
theorem latchOutput_blames (index link : Nat) (villain : LinkContender)
    (reported : (latchOutput (roundCalls rounds) index).effectiveVillains[link]? =
      some (some villain)) :
    ∃ earlier ≤ index, (rounds earlier).Blames link villain := by
  cases enabled : (rounds index).call.policy.csVillainThrottle with
  | true =>
      by_cases within : link < (rounds index).call.linkCount
      · obtain ⟨epoch, visit, turn, after, effective, _⟩ :=
          (latchRun (roundCalls rounds) index).effectiveVillains_turn enabled within
        have shown : visit.output.effective = some villain :=
          Option.some.inj (effective.symm.trans reported)
        have held : ((latchRun (roundCalls rounds) (index + 1)).latch link).contender =
            some villain :=
          (congrArg LinkVillainLatch.contender after).trans (turn.effective.symm.trans shown)
        obtain ⟨earlier, before, blames⟩ := latchRun_blames rounds held
        exact ⟨earlier, Nat.le_of_lt_succ before, blames⟩
      · have missing := ((latchRun (roundCalls rounds) index).effectiveVillains_untouched
          enabled (Nat.le_of_not_lt within)).2.1
        exact absurd (missing.symm.trans reported) (by simp)
  | false => exact ⟨index, le_rfl, unlatched_blames enabled reported⟩

/-- The thread of the first villain that a dispatch round has for a task. -/
theorem currentVillain_reported {dispatch : Dispatch.DispatchRound} {tid linkId : Nat}
    (current : dispatch.currentVillain tid = some (linkId, villain)) :
    villain.tid = tid ∧ dispatch.effectiveLinkVillains[linkId]? = some (some villain) := by
  refine ⟨beq_iff_eq.mp (List.find?_some (p := fun entry : Nat × LinkContender =>
    entry.2.tid == tid) current), ?_⟩
  have listed := List.reduceOption_mem_iff.mp (List.mem_of_find?_eq_some current)
  obtain ⟨index, within, same⟩ := List.mem_mapIdx.mp listed
  obtain ⟨contender, found, pair⟩ := Option.map_eq_some_iff.mp same
  obtain ⟨rfl, rfl⟩ := Prod.mk.inj pair
  rw [List.getElem?_eq_getElem within, found]

/-- Nobody is throttled out of nothing: over every run, with throttling switched on and
off between rounds, a task that the token bucket slows down was blamed for that link in
this round or in an earlier one. -/
theorem throttle_blames (index : Nat) (dispatch : Dispatch.DispatchRound) (task : QueuedTask)
    (entry : ManagedThreadState) (nowNs : Nat) {control : Dispatch.VillainThrottleControl}
    (effective : dispatch.effectiveLinkVillains =
      (latchOutput (roundCalls rounds) index).effectiveVillains)
    (throttled : (dispatch.throttle task entry nowNs).2 = some control) :
    ∃ villain, villain.tid = task.key ∧ villain.score = control.score ∧
      ∃ earlier ≤ index, (rounds earlier).Blames control.linkId villain := by
  unfold Dispatch.DispatchRound.throttle Dispatch.maybeApplyVillainTokenThrottle at throttled
  dsimp only at throttled
  split at throttled
  · cases throttled
  · cases current : dispatch.currentVillain task.key with
    | none =>
        rw [current] at throttled
        cases throttled
    | some pair =>
        obtain ⟨linkId, villain⟩ := pair
        obtain ⟨same, reported⟩ := currentVillain_reported current
        rw [current] at throttled
        obtain rfl := Option.some.inj throttled
        rw [effective] at reported
        exact ⟨villain, same, rfl, latchOutput_blames rounds index linkId villain reported⟩

end Rounds

/-- A pending task that suddenly stalls on an overloaded link. -/
def stalledTask : QueuedTask where
  tid := 7
  tgid := 7
  currentCpu := 0
  currentDomain := 0
  lastStallPctX100 := 9000
  lastUpdateNs := 1
  trigger := 1

def stalledPolicy : PolicyConfig := { Planner.samplePolicy with signatureSnapshots := true }

def stalledRound : StallRound where
  scan :=
    { mapping := Planner.sampleMapping
      dfCsStates := [some (overloadedSample 1000000)]
      prepassNowNs := 1000000
      policy := stalledPolicy
      userschedPid := 1 }
  pending := [stalledTask]
  threads := ∅
  villainNowNs := 1000000

def stalledDispatch : Dispatch.DispatchRound :=
  { Dispatch.strandedRound.round with
    cfg := stalledPolicy
    effectiveLinkVillains := (latchOutput (roundCalls fun _ => stalledRound) 0).effectiveVillains }

/-- With no signature to go by, the task that reports the stall is itself slowed down. -/
theorem throttle_blames_stalled :
    (stalledDispatch.throttle stalledTask {} 1000000).2 =
      some
        { linkId := 0
          score := 1009000
          action := .reslice 1000000 0
          tokenCapacityNs := 1000000 } ∧
    ∃ villain, villain.tid = 7 ∧ stalledRound.Blames 0 villain := by
  have throttled : (stalledDispatch.throttle stalledTask {} 1000000).2 =
      some
        { linkId := 0
          score := 1009000
          action := .reslice 1000000 0
          tokenCapacityNs := 1000000 } := by
    decide +kernel
  obtain ⟨villain, same, _, earlier, _, blames⟩ :=
    throttle_blames (fun _ => stalledRound) 0 stalledDispatch stalledTask {} 1000000 rfl throttled
  exact ⟨throttled, villain, same, blames⟩

end CSwitch.Villain
