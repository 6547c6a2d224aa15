import CSwitch.Dispatch.Throttle
import CSwitch.Library.WorkRound
import CSwitch.Planner.PlanProperties

/-! Whole runs of the token bucket of one thread: what a sequence of calls may
grant, and how long it may keep a thread waiting. -/

set_option autoImplicit false

namespace CSwitch.Dispatch

open Library

def VillainThrottleAction.defers : VillainThrottleAction → Bool
  | .defer _ => true
  | .reslice _ _ => false

def VillainThrottleAction.grantedNs : VillainThrottleAction → Nat
  | .defer _ => 0
  | .reslice sliceNs _ => sliceNs

structure ThrottleCall where
  linkId : Nat
  nowNs : Nat

section Run

variable (policy : PolicyConfig) (calls : Nat → ThrottleCall) (entry : ManagedThreadState)

def throttleStep (call : ThrottleCall) (entry : ManagedThreadState) : ManagedThreadState :=
  (applyVillainTokenThrottle entry call.linkId call.nowNs policy).1

/-- The thread record before the call of that number. -/
def throttleRun (count : Nat) : ManagedThreadState :=
  iterate (throttleStep policy) calls entry count

def throttleAnswer (index : Nat) : VillainThrottleAction :=
  (applyVillainTokenThrottle (throttleRun policy calls entry index) (calls index).linkId
    (calls index).nowNs policy).2

def grantedNs (count : Nat) : Nat :=
  ∑ index ∈ Finset.range count, (throttleAnswer policy calls entry index).grantedNs

end Run

/-! ## One call -/

section Call

variable {entry : ManagedThreadState} {linkId nowNs : Nat} {policy : PolicyConfig}

/-- The bucket has served this link before. -/
def InUse (entry : ManagedThreadState) (linkId : Nat) : Prop :=
  entry.throttleLinkId = some linkId ∧ entry.throttleLastRefillNs ≠ 0

instance : Decidable (InUse entry linkId) := inferInstanceAs (Decidable (_ ∧ _))

theorem refillVillainTokens_of_inUse (used : InUse entry linkId) :
    refillVillainTokens entry linkId nowNs policy = { entry with
      throttleTokensNs := min (satAdd64 entry.throttleTokensNs
        ((nowNs - entry.throttleLastRefillNs) / villainTokenRefillDivisor policy))
        (villainTokenCapacityNs policy)
      throttleLastRefillNs := nowNs } := by
  unfold refillVillainTokens
  rw [if_neg]
  rintro (foreign | unused)
  · exact foreign used.1
  · exact used.2 unused

theorem refillVillainTokens_of_not_inUse (unused : ¬ InUse entry linkId) :
    refillVillainTokens entry linkId nowNs policy = { entry with
      throttleLinkId := some linkId
      throttleTokensNs := villainTokenCapacityNs policy
      throttleLastRefillNs := nowNs
      throttleDeferStartedNs := 0
      consecutiveTickDefer := 0 } := by
  unfold refillVillainTokens
  rw [if_pos]
  by_contra both
  push Not at both
  exact unused both

theorem refill_tokens_le (entry : ManagedThreadState) (linkId nowNs : Nat) (policy : PolicyConfig) :
    (refillVillainTokens entry linkId nowNs policy).throttleTokensNs ≤
      villainTokenCapacityNs policy := by
  by_cases used : InUse entry linkId
  · rw [refillVillainTokens_of_inUse used]
    exact Nat.min_le_right _ _
  · rw [refillVillainTokens_of_not_inUse used]

theorem refill_linkId (entry : ManagedThreadState) (linkId nowNs : Nat) (policy : PolicyConfig) :
    (refillVillainTokens entry linkId nowNs policy).throttleLinkId = some linkId := by
  by_cases used : InUse entry linkId
  · rw [refillVillainTokens_of_inUse used]
    exact used.1
  · rw [refillVillainTokens_of_not_inUse used]

theorem refill_lastRefillNs (entry : ManagedThreadState) (linkId nowNs : Nat) (policy : PolicyConfig) :
    (refillVillainTokens entry linkId nowNs policy).throttleLastRefillNs = nowNs := by
  by_cases used : InUse entry linkId
  · rw [refillVillainTokens_of_inUse used]
  · rw [refillVillainTokens_of_not_inUse used]

/-- A call charges the bucket, grants the slice that a deferral has earned by
waiting, or defers. -/
theorem applyVillainTokenThrottle_cases (entry : ManagedThreadState) (linkId nowNs : Nat)
    (policy : PolicyConfig) :
    let refilled := refillVillainTokens entry linkId nowNs policy
    let sliceNs := policyVillainResliceSliceNs policy
    (sliceNs ≤ refilled.throttleTokensNs ∧
      applyVillainTokenThrottle entry linkId nowNs policy = ({ refilled with
        throttleTokensNs := refilled.throttleTokensNs - sliceNs
        throttleDeferStartedNs := 0
        consecutiveTickDefer := 0 }, .reslice sliceNs (refilled.throttleTokensNs - sliceNs))) ∨
    (refilled.throttleTokensNs < sliceNs ∧ refilled.throttleDeferStartedNs ≠ 0 ∧
      villainDeferUpperBoundNs ≤ nowNs - refilled.throttleDeferStartedNs ∧
      applyVillainTokenThrottle entry linkId nowNs policy = ({ refilled with
        throttleTokensNs := 0
        throttleDeferStartedNs := 0
        consecutiveTickDefer := 0 }, .reslice sliceNs 0)) ∨
    (refilled.throttleTokensNs < sliceNs ∧ ∃ startedNs,
      startedNs = (if refilled.throttleDeferStartedNs = 0 then nowNs
        else refilled.throttleDeferStartedNs) ∧
      nowNs - startedNs < villainDeferUpperBoundNs ∧
      applyVillainTokenThrottle entry linkId nowNs policy = ({ refilled with
        throttleDeferStartedNs := startedNs
        consecutiveTickDefer := satAdd32 refilled.consecutiveTickDefer 1 },
        .defer refilled.throttleTokensNs)) := by
  intro refilled sliceNs
  by_cases enough : sliceNs ≤ refilled.throttleTokensNs
  · refine .inl ⟨enough, ?_⟩
    exact if_pos enough
  have short : refilled.throttleTokensNs < sliceNs := Nat.lt_of_not_le enough
  have refused : applyVillainTokenThrottle entry linkId nowNs policy =
      if nowNs - (if refilled.throttleDeferStartedNs = 0 then nowNs
        else refilled.throttleDeferStartedNs) ≥ villainDeferUpperBoundNs then _ else _ :=
    if_neg enough
  by_cases late : nowNs - (if refilled.throttleDeferStartedNs = 0 then nowNs
      else refilled.throttleDeferStartedNs) ≥ villainDeferUpperBoundNs
  · refine .inr (.inl ?_)
    by_cases waiting : refilled.throttleDeferStartedNs = 0
    · -- a deferral that starts now has not waited
      rw [if_pos waiting, Nat.sub_self] at late
      exact absurd late (by decide)
    · refine ⟨short, waiting, ?_, ?_⟩
      · rwa [if_neg waiting] at late
      · rw [refused, if_pos late]
  · refine .inr (.inr ⟨short, _, rfl, Nat.lt_of_not_le late, ?_⟩)
    rw [refused, if_neg late]

theorem refill_deferStartedNs
    (waiting : (refillVillainTokens entry linkId nowNs policy).throttleDeferStartedNs ≠ 0) :
    InUse entry linkId ∧
      (refillVillainTokens entry linkId nowNs policy).throttleDeferStartedNs =
        entry.throttleDeferStartedNs := by
  by_cases used : InUse entry linkId
  · refine ⟨used, ?_⟩
    rw [refillVillainTokens_of_inUse used]
  · rw [refillVillainTokens_of_not_inUse used] at waiting
    exact absurd rfl waiting

/-- Every call leaves the bucket to its link, refilled at its time. -/
theorem apply_linkId_lastRefillNs (entry : ManagedThreadState) (linkId nowNs : Nat)
    (policy : PolicyConfig) :
    (applyVillainTokenThrottle entry linkId nowNs policy).1.throttleLinkId = some linkId ∧
      (applyVillainTokenThrottle entry linkId nowNs policy).1.throttleLastRefillNs = nowNs := by
  have linked := refill_linkId entry linkId nowNs policy
  have dated := refill_lastRefillNs entry linkId nowNs policy
  rcases applyVillainTokenThrottle_cases entry linkId nowNs policy with
    ⟨_, result⟩ | ⟨_, _, _, result⟩ | ⟨_, _, _, _, result⟩
  · rw [result]
    exact ⟨linked, dated⟩
  · rw [result]
    exact ⟨linked, dated⟩
  · rw [result]
    exact ⟨linked, dated⟩

end Call

/-! ## What a run on one link grants -/

/-- The tokens that the next call on the link starts from, before its refill. -/
def availableNs (policy : PolicyConfig) (linkId : Nat) (entry : ManagedThreadState) : Nat :=
  if InUse entry linkId then entry.throttleTokensNs else villainTokenCapacityNs policy

/-- The account of a run up to its last call. Slices paid with tokens are
covered by the capacity and the refills; every forced slice has waited through
a whole deferral bound of its own. -/
structure BucketAccount (policy : PolicyConfig) (linkId firstNs lastNs chargedNs forced : Nat)
    (entry : ManagedThreadState) : Prop where
  elapsed : firstNs ≤ lastNs
  refilled : InUse entry linkId → entry.throttleLastRefillNs = lastNs
  bounded : entry.throttleTokensNs ≤ villainTokenCapacityNs policy
  charged : chargedNs + availableNs policy linkId entry ≤
    villainTokenCapacityNs policy + (lastNs - firstNs) / villainTokenRefillDivisor policy
  spaced : firstNs + forced * villainDeferUpperBoundNs ≤ lastNs
  waiting : entry.throttleDeferStartedNs ≠ 0 →
    firstNs + forced * villainDeferUpperBoundNs ≤ entry.throttleDeferStartedNs

namespace BucketAccount

variable {policy : PolicyConfig} {linkId firstNs lastNs nowNs chargedNs forced : Nat}
  {entry : ManagedThreadState}

theorem reset (policy : PolicyConfig) (linkId firstNs : Nat) (entry : ManagedThreadState) :
    BucketAccount policy linkId firstNs firstNs 0 0 (resetVillainThrottle entry) where
  elapsed := Nat.le_refl _
  refilled used := absurd used.1 (by simp [resetVillainThrottle])
  bounded := Nat.zero_le _
  charged := by
    have unused : ¬ InUse (resetVillainThrottle entry) linkId := by
      rintro ⟨linked, _⟩
      cases linked
    rw [availableNs, if_neg unused, Nat.zero_add]
    exact Nat.le_add_right _ _
  spaced := by omega
  waiting started := absurd rfl started

/-- The refill of a call adds no more than the time since the last one is worth. -/
theorem refill (account : BucketAccount policy linkId firstNs lastNs chargedNs forced entry)
    (later : lastNs ≤ nowNs) :
    chargedNs + (refillVillainTokens entry linkId nowNs policy).throttleTokensNs ≤
      villainTokenCapacityNs policy + (nowNs - firstNs) / villainTokenRefillDivisor policy := by
  have paid := account.charged
  have elapsed := account.elapsed
  have split : (nowNs - firstNs) = (lastNs - firstNs) + (nowNs - lastNs) := by omega
  have worth : (lastNs - firstNs) / villainTokenRefillDivisor policy +
      (nowNs - lastNs) / villainTokenRefillDivisor policy ≤
      (nowNs - firstNs) / villainTokenRefillDivisor policy := by
    rw [split]
    exact Nat.div_add_div_le_add_div
  unfold availableNs at paid
  by_cases used : InUse entry linkId
  · rw [if_pos used] at paid
    rw [refillVillainTokens_of_inUse used, account.refilled used]
    have most : min (satAdd64 entry.throttleTokensNs
        ((nowNs - lastNs) / villainTokenRefillDivisor policy)) (villainTokenCapacityNs policy) ≤
        entry.throttleTokensNs + (nowNs - lastNs) / villainTokenRefillDivisor policy :=
      (Nat.min_le_left _ _).trans (Nat.min_le_left _ _)
    dsimp only
    omega
  · rw [if_neg used] at paid
    rw [refillVillainTokens_of_not_inUse used]
    exact paid.trans (Nat.add_le_add_left ((Nat.le_add_right _ _).trans worth) _)

/-- One call keeps the account and adds what it grants to one of its sides. -/
theorem step (account : BucketAccount policy linkId firstNs lastNs chargedNs forced entry)
    (started : 0 < nowNs) (later : lastNs ≤ nowNs) :
    ∃ chargedNs' forced',
      chargedNs' + policyVillainResliceSliceNs policy * forced' =
        chargedNs + policyVillainResliceSliceNs policy * forced +
          (applyVillainTokenThrottle entry linkId nowNs policy).2.grantedNs ∧
      BucketAccount policy linkId firstNs nowNs chargedNs' forced'
        (applyVillainTokenThrottle entry linkId nowNs policy).1 := by
  have paid := account.refill later
  have elapsed := account.elapsed.trans later
  have spaced := account.spaced.trans later
  have capped := refill_tokens_le entry linkId nowNs policy
  obtain ⟨linked, dated⟩ := apply_linkId_lastRefillNs entry linkId nowNs policy
  have recorded : (refillVillainTokens entry linkId nowNs policy).throttleDeferStartedNs ≠ 0 →
      firstNs + forced * villainDeferUpperBoundNs ≤
        (refillVillainTokens entry linkId nowNs policy).throttleDeferStartedNs := by
    intro waiting
    obtain ⟨_, same⟩ := refill_deferStartedNs waiting
    rw [same] at waiting ⊢
    exact account.waiting waiting
  have available : availableNs policy linkId
      (applyVillainTokenThrottle entry linkId nowNs policy).1 =
        (applyVillainTokenThrottle entry linkId nowNs policy).1.throttleTokensNs := by
    refine if_pos ⟨linked, ?_⟩
    rw [dated]
    omega
  suffices kept : ∃ chargedNs' forced',
      chargedNs' + policyVillainResliceSliceNs policy * forced' =
        chargedNs + policyVillainResliceSliceNs policy * forced +
          (applyVillainTokenThrottle entry linkId nowNs policy).2.grantedNs ∧
      (applyVillainTokenThrottle entry linkId nowNs policy).1.throttleTokensNs ≤
        villainTokenCapacityNs policy ∧
      chargedNs' + (applyVillainTokenThrottle entry linkId nowNs policy).1.throttleTokensNs ≤
        villainTokenCapacityNs policy + (nowNs - firstNs) / villainTokenRefillDivisor policy ∧
      firstNs + forced' * villainDeferUpperBoundNs ≤ nowNs ∧
      ((applyVillainTokenThrottle entry linkId nowNs policy).1.throttleDeferStartedNs ≠ 0 →
        firstNs + forced' * villainDeferUpperBoundNs ≤
          (applyVillainTokenThrottle entry linkId nowNs policy).1.throttleDeferStartedNs) by
    obtain ⟨chargedNs', forced', granted, bounded, charged, spaced, waiting⟩ := kept
    exact ⟨chargedNs', forced', granted, elapsed, fun _ => dated, bounded,
      by rw [available]; exact charged, spaced, waiting⟩
  rcases applyVillainTokenThrottle_cases entry linkId nowNs policy with
    ⟨enough, result⟩ | ⟨_, waiting, late, result⟩ | ⟨_, startedNs, startedAt, _, result⟩
  · rw [result]
    refine ⟨chargedNs + policyVillainResliceSliceNs policy, forced, ?_, ?_, ?_, spaced, ?_⟩
    · rw [VillainThrottleAction.grantedNs]
      omega
    · exact (Nat.sub_le _ _).trans capped
    · dsimp only
      omega
    · exact fun waiting => absurd rfl waiting
  · have waited := recorded waiting
    rw [result]
    refine ⟨chargedNs, forced + 1, ?_, Nat.zero_le _, ?_, ?_, ?_⟩
    · rw [VillainThrottleAction.grantedNs, Nat.mul_succ, Nat.add_assoc]
    · exact (Nat.add_le_add_left (Nat.zero_le _) _).trans paid
    · rw [Nat.succ_mul]
      omega
    · exact fun waiting => absurd rfl waiting
  · rw [result]
    refine ⟨chargedNs, forced, rfl, capped, paid, spaced, ?_⟩
    intro _
    dsimp only
    rw [startedAt]
    split
    · exact spaced
    next waiting => exact recorded waiting

end BucketAccount

def callsOn (linkId : Nat) (times : Nat → Nat) (index : Nat) : ThrottleCall where
  linkId := linkId
  nowNs := times index

/-- Every prefix of a run on one link has an account that adds up to what it granted. -/
theorem throttleRun_account (policy : PolicyConfig) (entry : ManagedThreadState) (linkId : Nat)
    {times : Nat → Nat} (positive : 0 < times 0) (count : Nat)
    (ordered : ∀ index < count, times index ≤ times (index + 1)) :
    ∃ chargedNs forced,
      chargedNs + policyVillainResliceSliceNs policy * forced =
        grantedNs policy (callsOn linkId times) (resetVillainThrottle entry) (count + 1) ∧
      BucketAccount policy linkId (times 0) (times count) chargedNs forced
        (throttleRun policy (callsOn linkId times) (resetVillainThrottle entry) (count + 1)) := by
  induction count with
  | zero =>
      obtain ⟨chargedNs, forced, granted, account⟩ :=
        (BucketAccount.reset policy linkId (times 0) entry).step positive (Nat.le_refl _)
      refine ⟨chargedNs, forced, ?_, account⟩
      rw [granted, grantedNs, Finset.sum_range_one, Nat.mul_zero, Nat.zero_add]
      rfl
  | succ count ih =>
      obtain ⟨_, _, total, account⟩ := ih fun index earlier => ordered index (by omega)
      have started : 0 < times (count + 1) := by
        have first : ∀ index ≤ count + 1, times 0 ≤ times index := by
          intro index within
          induction index with
          | zero => exact Nat.le_refl _
          | succ index before => exact (before (by omega)).trans (ordered index (by omega))
        exact positive.trans_le (first _ (Nat.le_refl _))
      obtain ⟨chargedNs, forced, granted, account⟩ :=
        account.step started (ordered count (Nat.lt_succ_self _))
      refine ⟨chargedNs, forced, ?_, account⟩
      rw [granted, total, grantedNs, grantedNs, Finset.sum_range_succ _ (count + 1)]
      rfl

/-- What a run from a reset bucket grants is covered by the capacity, by the
refills of the time that passed, and by one slice for each deferral bound in it. -/
theorem throttleRun_granted_le (policy : PolicyConfig) (entry : ManagedThreadState) (linkId : Nat)
    (times : Nat → Nat) (count : Nat) (positive : 0 < times 0)
    (ordered : ∀ index < count, times index ≤ times (index + 1)) :
    grantedNs policy (callsOn linkId times) (resetVillainThrottle entry) (count + 1) ≤
      villainTokenCapacityNs policy +
        (times count - times 0) / villainTokenRefillDivisor policy +
        policyVillainResliceSliceNs policy *
          ((times count - times 0) / villainDeferUpperBoundNs) ∧
    ∀ index ≤ count + 1,
      (throttleRun policy (callsOn linkId times) (resetVillainThrottle entry)
        index).throttleTokensNs ≤ villainTokenCapacityNs policy := by
  constructor
  · obtain ⟨chargedNs, forced, total, account⟩ :=
      throttleRun_account policy entry linkId positive count ordered
    have paid : chargedNs ≤ villainTokenCapacityNs policy +
        (times count - times 0) / villainTokenRefillDivisor policy :=
      (Nat.le_add_right _ _).trans account.charged
    have waited : forced ≤ (times count - times 0) / villainDeferUpperBoundNs := by
      have spaced := account.spaced
      refine (Nat.le_div_iff_mul_le (by decide)).mpr ?_
      omega
    rw [← total]
    exact Nat.add_le_add paid (Nat.mul_le_mul_left _ waited)
  · intro index within
    cases index with
    | zero => exact Nat.zero_le _
    | succ index =>
        obtain ⟨_, _, _, account⟩ := throttleRun_account policy entry linkId positive index
          fun earlier before => ordered earlier (by omega)
        exact account.bounded

def everyTwoMs (index : Nat) : Nat := 1 + 2000000 * index

/-- Three calls, two milliseconds apart, are granted all that the bound allows. -/
theorem throttleRun_granted_le_everyTwoMs :
    2000000 = grantedNs Planner.samplePolicy (callsOn 7 everyTwoMs) (resetVillainThrottle {}) 3 ∧
    grantedNs Planner.samplePolicy (callsOn 7 everyTwoMs) (resetVillainThrottle {}) 3 ≤
      villainTokenCapacityNs Planner.samplePolicy +
        (everyTwoMs 2 - everyTwoMs 0) / villainTokenRefillDivisor Planner.samplePolicy +
        policyVillainResliceSliceNs Planner.samplePolicy *
          ((everyTwoMs 2 - everyTwoMs 0) / villainDeferUpperBoundNs) :=
  ⟨by decide +kernel,
    (throttleRun_granted_le Planner.samplePolicy {} 7 everyTwoMs 2 (by decide) (by decide)).1⟩

/-! ## How long a thread is kept waiting -/

/-- Thread records that the program can hold, with a time no earlier than their
last throttle call. A record is created with a reset bucket, and only the
throttle control writes to it. -/
inductive ThrottleReachable : Nat → ManagedThreadState → Prop where
  | created {entry : ManagedThreadState} (nowNs : Nat) (reset : throttleFields entry = {}) :
      ThrottleReachable nowNs entry
  | applied {lastNs nowNs : Nat} {entry : ManagedThreadState} (policy : PolicyConfig)
      (linkId : Nat) (reached : ThrottleReachable lastNs entry) (later : lastNs ≤ nowNs) :
      ThrottleReachable nowNs (applyVillainTokenThrottle entry linkId nowNs policy).1
  | controlled {lastNs nowNs : Nat} {entry : ManagedThreadState} (policy : PolicyConfig)
      (currentVillain : Option (Nat × LinkContender)) (isTickTrigger : Bool)
      (reached : ThrottleReachable lastNs entry) (later : lastNs ≤ nowNs) :
      ThrottleReachable nowNs
        (maybeApplyVillainTokenThrottle entry currentVillain isTickTrigger nowNs policy).1
  | rewritten {lastNs : Nat} {entry entry' : ManagedThreadState}
      (reached : ThrottleReachable lastNs entry)
      (kept : throttleFields entry' = throttleFields entry) : ThrottleReachable lastNs entry'

theorem apply_deferStartedNs_le {entry : ManagedThreadState} {nowNs : Nat} (linkId : Nat)
    (policy : PolicyConfig) (past : entry.throttleDeferStartedNs ≤ nowNs) :
    (applyVillainTokenThrottle entry linkId nowNs policy).1.throttleDeferStartedNs ≤ nowNs := by
  rcases applyVillainTokenThrottle_cases entry linkId nowNs policy with
    ⟨_, result⟩ | ⟨_, _, _, result⟩ | ⟨_, startedNs, startedAt, _, result⟩
  · rw [result]
    exact Nat.zero_le _
  · rw [result]
    exact Nat.zero_le _
  · rw [result]
    dsimp only
    rw [startedAt]
    split
    · exact Nat.le_refl _
    next waiting =>
      obtain ⟨_, same⟩ := refill_deferStartedNs waiting
      rw [same]
      exact past

/-- No record of the program waits since a time that is still to come. -/
theorem ThrottleReachable.deferStartedNs_le {lastNs : Nat} {entry : ManagedThreadState}
    (reachable : ThrottleReachable lastNs entry) : entry.throttleDeferStartedNs ≤ lastNs := by
  induction reachable with
  | created nowNs reset =>
      have started := congrArg ThrottleFields.deferStartedNs reset
      exact started.trans_le (Nat.zero_le _)
  | applied policy linkId _ later past =>
      exact apply_deferStartedNs_le linkId policy (past.trans later)
  | @controlled _ nowNs entry policy currentVillain isTickTrigger _ later past =>
      have reset : ∀ clear : Bool, (if clear then resetVillainThrottle entry
          else entry).throttleDeferStartedNs ≤ nowNs := by
        intro clear
        cases clear with
        | true => exact Nat.zero_le _
        | false => exact past.trans later
      unfold maybeApplyVillainTokenThrottle
      dsimp only
      split
      · exact reset _
      · split
        · exact reset _
        · exact apply_deferStartedNs_le _ policy (reset _)
  | rewritten _ kept past =>
      exact (congrArg ThrottleFields.deferStartedNs kept).trans_le past

/-- A bucket that is filled anew holds at least one slice. -/
theorem slice_le_capacity {policy : PolicyConfig} (word : policy.csVillainResliceNs ≤ u64Max) :
    policyVillainResliceSliceNs policy ≤ villainTokenCapacityNs policy := by
  have least : villainResliceMinNs ≤ u64Max := by decide
  refine Nat.le_min.mpr ⟨Nat.le_mul_of_pos_right _ (by omega), ?_⟩
  exact Nat.max_le.mpr ⟨word, least⟩

/-- A deferral happens on a bucket in use, and dates from a time that the next
deferral keeps. -/
theorem apply_deferred {entry : ManagedThreadState} {linkId nowNs : Nat} {policy : PolicyConfig}
    (word : policy.csVillainResliceNs ≤ u64Max)
    (deferred : (applyVillainTokenThrottle entry linkId nowNs policy).2.defers = true) :
    (applyVillainTokenThrottle entry linkId nowNs policy).1.throttleDeferStartedNs =
        (if entry.throttleDeferStartedNs = 0 then nowNs else entry.throttleDeferStartedNs) ∧
      nowNs - (applyVillainTokenThrottle entry linkId nowNs policy).1.throttleDeferStartedNs <
        villainDeferUpperBoundNs := by
  rcases applyVillainTokenThrottle_cases entry linkId nowNs policy with
    ⟨_, result⟩ | ⟨_, _, _, result⟩ | ⟨short, startedNs, startedAt, recent, result⟩
  · rw [result] at deferred
    cases deferred
  · rw [result] at deferred
    cases deferred
  · have used : InUse entry linkId := by
      by_contra unused
      rw [refillVillainTokens_of_not_inUse unused] at short
      exact absurd short (Nat.not_lt_of_le (slice_le_capacity word))
    rw [refillVillainTokens_of_inUse used] at startedAt
    rw [result]
    exact ⟨startedAt, recent⟩

section Deferral

variable {policy : PolicyConfig} {calls : Nat → ThrottleCall} {entry : ManagedThreadState}

/-- A block of deferrals dates from one time, no later than its first call. -/
theorem throttleRun_deferred_block (word : policy.csVillainResliceNs ≤ u64Max)
    {first last : Nat} (positive : 0 < (calls first).nowNs)
    (past : (throttleRun policy calls entry first).throttleDeferStartedNs ≤ (calls first).nowNs)
    (block : first ≤ last)
    (deferred : ∀ index, first ≤ index → index ≤ last →
      (throttleAnswer policy calls entry index).defers = true) :
    ∃ startedNs, startedNs ≠ 0 ∧ startedNs ≤ (calls first).nowNs ∧
      (throttleRun policy calls entry (last + 1)).throttleDeferStartedNs = startedNs ∧
      (calls last).nowNs - startedNs < villainDeferUpperBoundNs := by
  induction last, block using Nat.le_induction with
  | base =>
      obtain ⟨startedAt, recent⟩ := apply_deferred word (deferred first (Nat.le_refl _) (Nat.le_refl _))
      rw [startedAt] at recent
      refine ⟨_, ?_, ?_, startedAt, recent⟩
      · split
        · omega
        next waiting => exact waiting
      · split
        · exact Nat.le_refl _
        · exact past
  | succ last block ih =>
      obtain ⟨startedNs, nonzero, early, started, _⟩ := ih fun index lower upper =>
        deferred index lower (by omega)
      obtain ⟨startedAt, recent⟩ :=
        apply_deferred word (deferred (last + 1) (by omega) (Nat.le_refl _))
      rw [started, if_neg nonzero] at startedAt
      refine ⟨startedNs, nonzero, early, startedAt, ?_⟩
      rw [startedAt] at recent
      exact recent

end Deferral

/-- Consecutive deferrals end within the bound, whatever links they are on: a
thread that is asked about after it is granted a slice. -/
theorem throttleRun_deferral_bounded (policy : PolicyConfig) (calls : Nat → ThrottleCall)
    (entry : ManagedThreadState) (word : policy.csVillainResliceNs ≤ u64Max) {reachedNs : Nat}
    (reachable : ThrottleReachable reachedNs entry) (started : reachedNs ≤ (calls 0).nowNs)
    (positive : 0 < (calls 0).nowNs)
    (ordered : ∀ index, (calls index).nowNs ≤ (calls (index + 1)).nowNs)
    (first last : Nat) (block : first ≤ last) :
    ((∀ index, first ≤ index → index ≤ last →
        (throttleAnswer policy calls entry index).defers = true) →
      (calls last).nowNs - (calls first).nowNs < villainDeferUpperBoundNs) ∧
    (villainDeferUpperBoundNs ≤ (calls last).nowNs - (calls first).nowNs →
      ∃ index sliceNs tokensNs, first ≤ index ∧ index ≤ last ∧
        throttleAnswer policy calls entry index = .reslice sliceNs tokensNs) := by
  have monotone : Monotone fun index => (calls index).nowNs := monotone_nat_of_le_succ ordered
  have past : ∀ index,
      (throttleRun policy calls entry index).throttleDeferStartedNs ≤ (calls index).nowNs := by
    intro index
    induction index with
    | zero => exact reachable.deferStartedNs_le.trans started
    | succ index ih =>
        exact (apply_deferStartedNs_le _ policy ih).trans (ordered index)
  have bounded : (∀ index, first ≤ index → index ≤ last →
      (throttleAnswer policy calls entry index).defers = true) →
      (calls last).nowNs - (calls first).nowNs < villainDeferUpperBoundNs := by
    intro deferred
    obtain ⟨startedNs, _, early, _, recent⟩ := throttleRun_deferred_block word
      (positive.trans_le (monotone (Nat.zero_le first))) (past first) block deferred
    omega
  refine ⟨bounded, ?_⟩
  intro late
  by_contra refused
  push Not at refused
  refine absurd (bounded fun index lower upper => ?_) (Nat.not_lt_of_le late)
  cases answer : throttleAnswer policy calls entry index with
  | defer tokensNs => rfl
  | reslice sliceNs tokensNs => exact absurd answer (refused index sliceNs tokensNs lower upper)

def slowPolicy : PolicyConfig :=
  { Planner.samplePolicy with csVillainRefillDivisor := 4000000000 }

def slowCalls (index : Nat) : ThrottleCall where
  linkId := 7
  nowNs := 1 + 400000000 * index

/-- After its first slice a thread is deferred three times and then served. -/
theorem throttleRun_deferral_bounded_slow :
    ([1, 2, 3].all fun index => (throttleAnswer slowPolicy slowCalls {} index).defers) = true ∧
    ∃ index sliceNs tokensNs, 1 ≤ index ∧ index ≤ 4 ∧
      throttleAnswer slowPolicy slowCalls {} index = .reslice sliceNs tokensNs :=
  ⟨by decide +kernel,
    (throttleRun_deferral_bounded slowPolicy slowCalls {} (by decide)
      (ThrottleReachable.created 0 rfl) (Nat.zero_le _) (by decide)
      (fun index => by unfold slowCalls; dsimp only; omega) 1 4 (by decide)).2
      (by decide)⟩

end CSwitch.Dispatch
