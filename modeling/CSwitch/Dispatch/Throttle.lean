import CSwitch.Policy.PipelineProperties

/-! The two per-thread controls that the dispatch loop applies to a decision:
the token bucket of a throttled thread and the tick hold-off. Both write to the
thread record before the task is handed to the kernel. -/

set_option autoImplicit false

namespace CSwitch.Dispatch

open Policy

def villainDeferUpperBoundNs : Nat := 1000000000
def maxTickStayBackoffExp : Nat := 3

structure LinkContender where
  tid : Nat
  score : Nat
  contenderCount : Nat
  deriving DecidableEq

inductive VillainThrottleAction where
  | defer (tokensNs : Nat)
  | reslice (sliceNs tokensNs : Nat)
  deriving DecidableEq

structure VillainThrottleControl where
  linkId : Nat
  score : Nat
  action : VillainThrottleAction
  tokenCapacityNs : Nat
  deriving DecidableEq

def VillainThrottleControl.defers (control : VillainThrottleControl) : Bool :=
  match control.action with
  | .defer _ => true
  | .reslice _ _ => false

/-! ## Token bucket -/

def policyVillainResliceSliceNs (policy : PolicyConfig) : Nat :=
  max policy.csVillainResliceNs villainResliceMinNs

def villainTokenCapacityNs (policy : PolicyConfig) : Nat :=
  satMul64 (max policy.csVillainResliceNs villainResliceMinNs) (max policy.tickDeferMax 1)

def villainTokenRefillDivisor (policy : PolicyConfig) : Nat :=
  max (satMul64 (max policy.csVillainRefillDivisor 1) (max policy.tickReevalEvery 1)) 1

def resetVillainThrottle (entry : ManagedThreadState) : ManagedThreadState :=
  { entry with
    throttleLinkId := none
    throttleTokensNs := 0
    throttleLastRefillNs := 0
    throttleDeferStartedNs := 0
    consecutiveTickDefer := 0 }

def refillVillainTokens (entry : ManagedThreadState) (linkId nowNs : Nat) (policy : PolicyConfig) :
    ManagedThreadState :=
  let capacityNs := villainTokenCapacityNs policy
  if entry.throttleLinkId ≠ some linkId ∨ entry.throttleLastRefillNs = 0 then
    { entry with
      throttleLinkId := some linkId
      throttleTokensNs := capacityNs
      throttleLastRefillNs := nowNs
      throttleDeferStartedNs := 0
      consecutiveTickDefer := 0 }
  else
    let refillNs := (nowNs - entry.throttleLastRefillNs) / villainTokenRefillDivisor policy
    { entry with
      throttleTokensNs := min (satAdd64 entry.throttleTokensNs refillNs) capacityNs
      throttleLastRefillNs := nowNs }

def applyVillainTokenThrottle (entry : ManagedThreadState) (linkId nowNs : Nat)
    (policy : PolicyConfig) : ManagedThreadState × VillainThrottleAction :=
  let entry := refillVillainTokens entry linkId nowNs policy
  let sliceNs := policyVillainResliceSliceNs policy
  if entry.throttleTokensNs ≥ sliceNs then
    let tokensNs := entry.throttleTokensNs - sliceNs
    ({ entry with
        throttleTokensNs := tokensNs
        throttleDeferStartedNs := 0
        consecutiveTickDefer := 0 }, .reslice sliceNs tokensNs)
  else
    let deferStartedNs :=
      if entry.throttleDeferStartedNs = 0 then nowNs else entry.throttleDeferStartedNs
    if nowNs - deferStartedNs ≥ villainDeferUpperBoundNs then
      ({ entry with
          throttleTokensNs := 0
          throttleDeferStartedNs := 0
          consecutiveTickDefer := 0 }, .reslice sliceNs 0)
    else
      ({ entry with
          throttleDeferStartedNs := deferStartedNs
          consecutiveTickDefer := satAdd32 entry.consecutiveTickDefer 1 },
        .defer entry.throttleTokensNs)

def maybeApplyVillainTokenThrottle (entry : ManagedThreadState)
    (currentVillain : Option (Nat × LinkContender)) (isTickTrigger : Bool) (nowNs : Nat)
    (policy : PolicyConfig) : ManagedThreadState × Option VillainThrottleControl :=
  let entry :=
    if currentVillain.isNone || !policy.csVillainThrottle then resetVillainThrottle entry else entry
  if !(policy.signatureSnapshots && policy.csVillainThrottle && isTickTrigger) then (entry, none)
  else
    match currentVillain with
    | none => (entry, none)
    | some (linkId, villain) =>
        let (entry, action) := applyVillainTokenThrottle entry linkId nowNs policy
        (entry, some
          { linkId, score := villain.score, action
            tokenCapacityNs := villainTokenCapacityNs policy })

/-! ## Tick hold-off -/

def isTickStay (task : QueuedTask) (decision : PlacementDecision) : Bool :=
  decision.trigger == .tick && decision.tickDecision == .stay && !decision.deferDispatch &&
    decision.selectedDomain == taskCurrentDomain task &&
    decision.selectedCpu == taskCurrentCpu task &&
    match decision.reason with
    | .stayCurrentDomain | .noCandidate | .marginNotMet | .migrationBudget | .reverseHysteresis
    | .destinationGuard => true
    | .idleSpread | .moveCoolerDomain | .excludedDomainEscape | .movePhaseGate => false

def nextTickHoldoffTicks (entry : ManagedThreadState) (task : QueuedTask)
    (decision : PlacementDecision) : ManagedThreadState × Nat :=
  if !isTickStay task decision then ({ entry with tickStayBackoffExp := 0 }, 0)
  else
    let exp := min entry.tickStayBackoffExp maxTickStayBackoffExp
    ({ entry with tickStayBackoffExp := min (satAdd32 exp 1) maxTickStayBackoffExp }, 2 ^ exp)

/-! ## What the controls write -/

structure ThrottleFields where
  linkId : Option Nat := none
  tokensNs : Nat := 0
  lastRefillNs : Nat := 0
  deferStartedNs : Nat := 0
  consecutiveDefer : Nat := 0
  deriving DecidableEq

def throttleFields (entry : ManagedThreadState) : ThrottleFields where
  linkId := entry.throttleLinkId
  tokensNs := entry.throttleTokensNs
  lastRefillNs := entry.throttleLastRefillNs
  deferStartedNs := entry.throttleDeferStartedNs
  consecutiveDefer := entry.consecutiveTickDefer

def withThrottle (entry : ManagedThreadState) (fields : ThrottleFields) : ManagedThreadState :=
  { entry with
    throttleLinkId := fields.linkId
    throttleTokensNs := fields.tokensNs
    throttleLastRefillNs := fields.lastRefillNs
    throttleDeferStartedNs := fields.deferStartedNs
    consecutiveTickDefer := fields.consecutiveDefer }

theorem withThrottle_eq_iff (entry : ManagedThreadState) (fields : ThrottleFields) :
    withThrottle entry fields = entry ↔ throttleFields entry = fields := by
  constructor
  · intro same
    rw [← same]
    rfl
  · rintro rfl
    rfl

/-- A control only writes the token bucket. -/
theorem maybeApplyVillainTokenThrottle_frame (entry : ManagedThreadState)
    (currentVillain : Option (Nat × LinkContender)) (isTickTrigger : Bool) (nowNs : Nat)
    (policy : PolicyConfig) :
    ∃ fields, (maybeApplyVillainTokenThrottle entry currentVillain isTickTrigger nowNs policy).1 =
      withThrottle entry fields := by
  refine ⟨throttleFields
    (maybeApplyVillainTokenThrottle entry currentVillain isTickTrigger nowNs policy).1, ?_⟩
  have refill : ∀ (entry : ManagedThreadState) (linkId : Nat),
      refillVillainTokens entry linkId nowNs policy =
        withThrottle entry (throttleFields (refillVillainTokens entry linkId nowNs policy)) := by
    intro entry linkId
    unfold refillVillainTokens
    dsimp only
    split <;> rfl
  have apply : ∀ (entry : ManagedThreadState) (linkId : Nat),
      (applyVillainTokenThrottle entry linkId nowNs policy).1 =
        withThrottle entry
          (throttleFields (applyVillainTokenThrottle entry linkId nowNs policy).1) := by
    intro entry linkId
    unfold applyVillainTokenThrottle
    rw [refill]
    dsimp only
    generalize (if (withThrottle entry (throttleFields
      (refillVillainTokens entry linkId nowNs policy))).throttleDeferStartedNs = 0 then nowNs
      else _) = deferStartedNs
    split
    · rfl
    · split <;> rfl
  unfold maybeApplyVillainTokenThrottle
  dsimp only
  split
  · split <;> rfl
  · split
    · split <;> rfl
    · dsimp only
      rw [apply]
      split <;> rfl

theorem sameThreadFields_withThrottle (entry : ManagedThreadState) (fields : ThrottleFields) :
    SameThreadFields (withThrottle entry fields) entry :=
  ⟨rfl, rfl, rfl, rfl, rfl⟩

/-! ## When the controls write nothing -/

/-- The bucket is left as it was: it is already reset where it is reset, the
thread is a villain that is not charged now, or (only at time zero) the bucket
is exactly a fresh one after one charge. -/
def ThrottleQuiet (entry : ManagedThreadState) (currentVillain : Option (Nat × LinkContender))
    (isTickTrigger : Bool) (nowNs : Nat) (policy : PolicyConfig) : Prop :=
  match currentVillain with
  | none => throttleFields entry = {}
  | some (linkId, _) =>
      if !policy.csVillainThrottle then throttleFields entry = {}
      else if !(policy.signatureSnapshots && isTickTrigger) then True
      else nowNs = 0 ∧ throttleFields entry =
        { linkId := some linkId
          tokensNs := villainTokenCapacityNs policy - policyVillainResliceSliceNs policy }

instance (entry : ManagedThreadState) (currentVillain : Option (Nat × LinkContender))
    (isTickTrigger : Bool) (nowNs : Nat) (policy : PolicyConfig) :
    Decidable (ThrottleQuiet entry currentVillain isTickTrigger nowNs policy) :=
  match currentVillain with
  | none => inferInstanceAs (Decidable (throttleFields entry = {}))
  | some _ => inferInstanceAs (Decidable (ite _ _ _))

private theorem slice_pos (policy : PolicyConfig) : 0 < policyVillainResliceSliceNs policy := by
  have least : villainResliceMinNs ≤ policyVillainResliceSliceNs policy := Nat.le_max_right _ _
  unfold villainResliceMinNs at least
  omega

private theorem applyThrottle_fresh {entry : ManagedThreadState} {linkId nowNs : Nat}
    {policy : PolicyConfig}
    (fresh : entry.throttleLinkId ≠ some linkId ∨ entry.throttleLastRefillNs = 0)
    (charged : ∃ sliceNs tokensNs, (applyVillainTokenThrottle entry linkId nowNs policy).2 =
      .reslice sliceNs tokensNs) :
    (applyVillainTokenThrottle entry linkId nowNs policy).1 = withThrottle entry
      { linkId := some linkId
        tokensNs := villainTokenCapacityNs policy - policyVillainResliceSliceNs policy
        lastRefillNs := nowNs } := by
  obtain ⟨sliceNs, tokensNs, charged⟩ := charged
  unfold applyVillainTokenThrottle refillVillainTokens at charged ⊢
  simp only [fresh, if_true] at charged ⊢
  split at charged
  next enough => rw [if_pos enough]; rfl
  next short =>
    -- a bucket that was just filled has not been deferred for any time
    rw [Nat.sub_self, if_neg (by decide)] at charged
    cases charged

/-- A bucket in use always changes when it is charged. -/
private theorem applyThrottle_used {entry : ManagedThreadState} {linkId nowNs : Nat}
    {policy : PolicyConfig}
    (used : ¬ (entry.throttleLinkId ≠ some linkId ∨ entry.throttleLastRefillNs = 0))
    (charged : ∃ sliceNs tokensNs, (applyVillainTokenThrottle entry linkId nowNs policy).2 =
      .reslice sliceNs tokensNs) :
    (applyVillainTokenThrottle entry linkId nowNs policy).1 ≠ entry := by
  obtain ⟨sliceNs, tokensNs, charged⟩ := charged
  intro same
  have positive := slice_pos policy
  have refilled := congrArg ManagedThreadState.throttleLastRefillNs same
  have tokens := congrArg ManagedThreadState.throttleTokensNs same
  have started := congrArg ManagedThreadState.throttleDeferStartedNs same
  unfold applyVillainTokenThrottle refillVillainTokens at charged refilled tokens started
  simp only [used, if_false] at charged refilled tokens started
  split at charged
  next enough =>
    simp only [enough, if_true] at refilled tokens
    simp only [← refilled, Nat.sub_self, Nat.zero_div] at enough tokens
    have most : min (satAdd64 entry.throttleTokensNs 0) (villainTokenCapacityNs policy) ≤
        entry.throttleTokensNs := (Nat.min_le_left _ _).trans (Nat.min_le_left _ _)
    omega
  next short =>
    simp only [short, if_false] at started
    -- a deferral that ran out is recorded, so the record must have held one
    by_cases none : entry.throttleDeferStartedNs = 0
    · simp only [none, if_true, Nat.sub_self] at charged
      rw [if_neg (by decide)] at charged
      cases charged
    · simp only [none, if_false] at charged started
      split at charged
      next late =>
        simp only [late, if_true] at started
        exact none started.symm
      · cases charged

theorem maybeApplyVillainTokenThrottle_eq_iff {entry : ManagedThreadState}
    {currentVillain : Option (Nat × LinkContender)} {isTickTrigger : Bool} {nowNs : Nat}
    {policy : PolicyConfig}
    (dispatched : ∀ control, (maybeApplyVillainTokenThrottle entry currentVillain isTickTrigger
      nowNs policy).2 = some control → control.defers = false) :
    (maybeApplyVillainTokenThrottle entry currentVillain isTickTrigger nowNs policy).1 = entry ↔
      ThrottleQuiet entry currentVillain isTickTrigger nowNs policy := by
  have reset : resetVillainThrottle entry = entry ↔ throttleFields entry = {} :=
    withThrottle_eq_iff entry {}
  unfold maybeApplyVillainTokenThrottle at dispatched ⊢
  unfold ThrottleQuiet
  cases currentVillain with
  | none =>
      simp only [Option.isNone_none, Bool.true_or, if_true]
      split <;> exact reset
  | some villain =>
      obtain ⟨linkId, contender⟩ := villain
      cases throttle : policy.csVillainThrottle with
      | false => simpa using reset
      | true =>
          simp only [throttle, Option.isNone_some, Bool.not_true, Bool.or_false,
            Bool.false_eq_true, if_false, Bool.and_true] at dispatched ⊢
          cases charge : policy.signatureSnapshots && isTickTrigger with
          | false => simp
          | true =>
              simp only [charge, Bool.not_true, Bool.false_eq_true, if_false] at dispatched ⊢
              have charged : ∃ sliceNs tokensNs, (applyVillainTokenThrottle entry linkId nowNs
                  policy).2 = .reslice sliceNs tokensNs := by
                have answer := dispatched _ rfl
                unfold VillainThrottleControl.defers at answer
                split at answer
                · simp at answer
                next sliceNs tokensNs action => exact ⟨sliceNs, tokensNs, action⟩
              by_cases fresh : entry.throttleLinkId ≠ some linkId ∨ entry.throttleLastRefillNs = 0
              · rw [applyThrottle_fresh fresh charged, withThrottle_eq_iff]
                constructor
                · intro same
                  have link := congrArg ThrottleFields.linkId same
                  have refill := congrArg ThrottleFields.lastRefillNs same
                  rcases fresh with foreign | unused
                  · exact absurd link foreign
                  · have zero : nowNs = 0 := refill.symm.trans unused
                    exact ⟨zero, by rw [same, zero]⟩
                · rintro ⟨rfl, same⟩
                  exact same
              · refine iff_of_false (applyThrottle_used fresh charged) ?_
                rintro ⟨_, same⟩
                exact fresh (.inr (congrArg ThrottleFields.lastRefillNs same))

/-- The hold-off keeps its exponent only at the two ends of the back-off. -/
theorem nextTickHoldoffTicks_eq_iff (entry : ManagedThreadState) (task : QueuedTask)
    (decision : PlacementDecision) :
    (nextTickHoldoffTicks entry task decision).1 = entry ↔
      entry.tickStayBackoffExp = if isTickStay task decision then maxTickStayBackoffExp else 0 := by
  have update : ∀ exponent, { entry with tickStayBackoffExp := exponent } = entry ↔
      entry.tickStayBackoffExp = exponent := by
    intro exponent
    constructor
    · intro same
      exact (congrArg ManagedThreadState.tickStayBackoffExp same).symm
    · rintro rfl
      rfl
  unfold nextTickHoldoffTicks
  cases isTickStay task decision with
  | false => exact update 0
  | true =>
      refine (update _).trans ?_
      simp only [if_true]
      unfold maxTickStayBackoffExp satAdd32 u32Max
      omega

end CSwitch.Dispatch
