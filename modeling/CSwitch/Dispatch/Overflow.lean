import CSwitch.Dispatch.Loop
import CSwitch.Library.BoundedArithmetic
import CSwitch.Planner.HomePlan
import CSwitch.Policy.MigrationMargin

/-! Arithmetic that the source leaves unchecked: a debug build panics where a
result does not fit its type, and a release build goes on with a wrapped value. -/

set_option autoImplicit false

namespace CSwitch.Dispatch

open Planner Policy Library

/-- The options of the command line that bound these values, any `u64` each. -/
structure Opts where
  dfWindowMs : UInt64
  dfStaleMs : UInt64
  llcPeriodMs : UInt64
  llcStaleMs : UInt64
  migrateSettleMs : UInt64

/-- The times of the policy as `run` takes them from the options. -/
def Opts.policyConfig (opts : Opts) (cfg : PolicyConfig) : PolicyConfig :=
  { cfg with
    llcStaleMs := max opts.llcStaleMs.toNat (satMul64 opts.llcPeriodMs.toNat 2)
    dfStaleMs := max opts.dfStaleMs.toNat (satMul64 opts.dfWindowMs.toNat 2)
    migrateSettleMs := opts.migrateSettleMs.toNat }

/-! ## Debug builds -/

/-- `left * right` on `u64`; none is a panic. -/
def checkedMul64 (left right : Nat) : Option Nat := checkedIn u64Max (left * right)

/-- `left + right` on `u64`. -/
def checkedAdd64 (left right : Nat) : Option Nat := checkedIn u64Max (left + right)

/-- `left + right` on `u32`. -/
def checkedAdd32 (left right : Nat) : Option Nat := checkedIn u32Max (left + right)

/-- What `build_state` and `active_for_cpu_plan` compute first. -/
def activeCutoffNs? (snapshot : PlannerInput) : Option Nat := do
  let ageNs ← checkedMul64 (max snapshot.policy.dfStaleMs snapshot.policy.llcStaleMs) 1000000
  return snapshot.nowNs - ageNs

def activeForCpuPlan? (snapshot : PlannerInput) (tid : Nat) : Option Bool := do
  let activeCutoffNs ← activeCutoffNs? snapshot
  return snapshot.pendingTids.contains tid ||
    (snapshot.threads[tid]?.map fun thread => decide (thread.lastSeenNs ≥ activeCutoffNs)).getD false

def recordMigration? (entry : ManagedThreadState) (task : QueuedTask)
    (decision : PlacementDecision) (nowNs : Nat) (cfg : PolicyConfig) :
    Option ManagedThreadState := do
  if crossesDomains task decision then
    let settleUntilNs ← checkedAdd64 nowNs (satMul64 cfg.migrateSettleMs 1000000)
    let reverseProtectUntilNs ← checkedAdd64 nowNs
      (satMul64 (satMul64 cfg.migrateSettleMs reverseHysteresisMultiplier) 1000000)
    return { entry with
      settleUntilNs
      lastMigrationFromDomain := taskCurrentDomain task
      lastMigrationToDomain := recordedDomain task decision
      lastMigrationAtNs := nowNs
      reverseProtectUntilNs }
  else return entry

/-- In both samplers, the sum is of `u32` and the product of `u64`. -/
def pressureFromBwX100? (readMibSX100 writeMibSX100 capacityMibSX100 : Nat) : Option Nat := do
  let sum ← checkedAdd32 readMibSX100 writeMibSX100
  let scaled ← checkedMul64 sum 10000
  return min (scaled / max capacityMibSX100 1) 10000

/-- The same in a release build. -/
def pressureFromBwX100 (readMibSX100 writeMibSX100 capacityMibSX100 : Nat) : Nat :=
  min (wrapMul64 (wrapAdd32 readMibSX100 writeMibSX100) 10000 / max capacityMibSX100 1) 10000

section Builds

variable {snapshot : PlannerInput} {entry after : ManagedThreadState} {task : QueuedTask}
  {decision : PlacementDecision} {nowNs : Nat} {cfg : PolicyConfig} {left right value : Nat}

theorem wrapMul64_of_checked (computed : checkedMul64 left right = some value) :
    wrapMul64 left right = value := by
  obtain ⟨fits, rfl⟩ := checkedIn_eq_some.mp computed
  exact wrapIn_of_le fits

theorem wrapAdd64_of_checked (computed : checkedAdd64 left right = some value) :
    wrapAdd64 left right = value := by
  obtain ⟨fits, rfl⟩ := checkedIn_eq_some.mp computed
  exact wrapIn_of_le fits

theorem wrapAdd32_of_checked (computed : checkedAdd32 left right = some value) :
    wrapAdd32 left right = value := by
  obtain ⟨fits, rfl⟩ := checkedIn_eq_some.mp computed
  exact wrapIn_of_le fits

/-- Where a debug build does not panic, both builds compute the same. -/
theorem activeCutoffNs_of_checked (computed : activeCutoffNs? snapshot = some value) :
    snapshot.activeCutoffNs = value := by
  obtain ⟨ageNs, aged, result⟩ := Option.bind_eq_some_iff.mp computed
  unfold PlannerInput.activeCutoffNs
  rw [wrapMul64_of_checked aged]
  exact Option.some.inj result

theorem activeForCpuPlan_of_checked {tid : Nat} {active : Bool}
    (computed : activeForCpuPlan? snapshot tid = some active) :
    activeForCpuPlan snapshot tid = active := by
  obtain ⟨cutoff, cut, result⟩ := Option.bind_eq_some_iff.mp computed
  unfold activeForCpuPlan
  rw [activeCutoffNs_of_checked cut]
  exact Option.some.inj result

theorem recordMigration_of_checked
    (computed : recordMigration? entry task decision nowNs cfg = some after) :
    recordMigration entry task decision nowNs cfg = after := by
  unfold recordMigration? at computed
  unfold recordMigration
  split at computed
  next crossed =>
    obtain ⟨settle, settled, computed⟩ := Option.bind_eq_some_iff.mp computed
    obtain ⟨reverse, protected_, computed⟩ := Option.bind_eq_some_iff.mp computed
    rw [if_pos crossed, wrapAdd64_of_checked settled, wrapAdd64_of_checked protected_]
    exact Option.some.inj computed
  next stayed =>
    rw [if_neg stayed]
    exact Option.some.inj computed

theorem pressureFromBwX100_of_checked {read write capacity : Nat}
    (computed : pressureFromBwX100? read write capacity = some value) :
    pressureFromBwX100 read write capacity = value := by
  obtain ⟨sum, added, computed⟩ := Option.bind_eq_some_iff.mp computed
  obtain ⟨scaled, multiplied, computed⟩ := Option.bind_eq_some_iff.mp computed
  unfold pressureFromBwX100
  rw [wrapAdd32_of_checked added, wrapMul64_of_checked multiplied]
  exact Option.some.inj computed

/-! ## When a debug build does not panic -/

theorem activeCutoffNs?_isSome :
    (activeCutoffNs? snapshot).isSome = true ↔
      max snapshot.policy.dfStaleMs snapshot.policy.llcStaleMs * 1000000 ≤ u64Max := by
  rw [← isSome_checkedIn]
  unfold activeCutoffNs? checkedMul64
  cases checkedIn u64Max (max snapshot.policy.dfStaleMs snapshot.policy.llcStaleMs * 1000000) with
  | none => rfl
  | some ageNs => rfl

theorem activeForCpuPlan?_isSome (tid : Nat) :
    (activeForCpuPlan? snapshot tid).isSome = (activeCutoffNs? snapshot).isSome := by
  unfold activeForCpuPlan?
  cases activeCutoffNs? snapshot with
  | none => rfl
  | some cutoff => rfl

/-- The factor of the reverse protection is one. -/
theorem reverseProtect_eq_settle (settleMs : Nat) :
    satMul64 (satMul64 settleMs reverseHysteresisMultiplier) 1000000 = satMul64 settleMs 1000000 := by
  unfold satMul64 reverseHysteresisMultiplier u64Max
  omega

theorem recordMigration?_isSome (crossed : crossesDomains task decision = true) :
    (recordMigration? entry task decision nowNs cfg).isSome = true ↔
      nowNs + satMul64 cfg.migrateSettleMs 1000000 ≤ u64Max := by
  rw [← isSome_checkedIn]
  unfold recordMigration? checkedAdd64
  rw [if_pos crossed, reverseProtect_eq_settle]
  cases checkedIn u64Max (nowNs + satMul64 cfg.migrateSettleMs 1000000) with
  | none => rfl
  | some untilNs => rfl

/-- Only the sum can be out of range: ten thousand times a `u32` fits a `u64`. -/
theorem pressureFromBwX100?_isSome {read write capacity : Nat} :
    (pressureFromBwX100? read write capacity).isSome = true ↔ read + write ≤ u32Max := by
  unfold pressureFromBwX100? checkedAdd32 checkedMul64
  cases Nat.decLe (read + write) u32Max with
  | isTrue fits =>
      have product : (read + write) * 10000 ≤ u64Max := by
        unfold u32Max at fits
        unfold u64Max
        omega
      rw [checkedIn_of_le fits, Option.bind_eq_bind, Option.bind_some, checkedIn_of_le product]
      exact iff_of_true rfl fits
  | isFalse out =>
      have panics : checkedIn u32Max (read + write) = none := if_neg out
      rw [panics]
      exact iff_of_false (by simp) out

end Builds

/-! ## Admitted inputs -/

/-- The times of the options fit into nanoseconds, the settle window ends in range
and the two bandwidths add up to a `u32`. -/
structure InRange (opts : Opts) (nowNs : UInt64) (readMibSX100 writeMibSX100 : UInt32) : Prop where
  cutoff : max (max opts.dfStaleMs.toNat (satMul64 opts.dfWindowMs.toNat 2))
    (max opts.llcStaleMs.toNat (satMul64 opts.llcPeriodMs.toNat 2)) * 1000000 ≤ u64Max
  deadline : nowNs.toNat + satMul64 opts.migrateSettleMs.toNat 1000000 ≤ u64Max
  sum : readMibSX100.toNat + writeMibSX100.toNat ≤ u32Max

/-- The unchecked computations on admitted inputs are free of overflow, or give
the clamped exact values, exactly when the inputs are in range. What a debug build
computes without a panic, a release build computes too. -/
theorem unchecked_arithmetic_in_range_iff (opts : Opts) (cfg : PolicyConfig)
    (snapshot : PlannerInput) (tid : Nat) (entry : ManagedThreadState) (task : QueuedTask)
    (decision : PlacementDecision) (crossed : crossesDomains task decision = true)
    (nowNs : UInt64) (readMibSX100 writeMibSX100 capacityMibSX100 : UInt32) :
    let policy := opts.policyConfig cfg
    let planned := { snapshot with policy }
    let settleNs := satMul64 policy.migrateSettleMs 1000000
    let reverseNs := satMul64 (satMul64 policy.migrateSettleMs reverseHysteresisMultiplier) 1000000
    ((activeCutoffNs? planned).isSome = true ∧ (activeForCpuPlan? planned tid).isSome = true ∧
        (recordMigration? entry task decision nowNs.toNat policy).isSome = true ∧
        (pressureFromBwX100? readMibSX100.toNat writeMibSX100.toNat
          capacityMibSX100.toNat).isSome = true ↔
      InRange opts nowNs readMibSX100 writeMibSX100) ∧
    (wrapMul64 (max policy.dfStaleMs policy.llcStaleMs) 1000000 =
          satMul64 (max policy.dfStaleMs policy.llcStaleMs) 1000000 ∧
        wrapAdd64 nowNs.toNat settleNs = satAdd64 nowNs.toNat settleNs ∧
        wrapAdd64 nowNs.toNat reverseNs = satAdd64 nowNs.toNat reverseNs ∧
        wrapAdd32 readMibSX100.toNat writeMibSX100.toNat =
          satAdd32 readMibSX100.toNat writeMibSX100.toNat ↔
      InRange opts nowNs readMibSX100 writeMibSX100) ∧
    (∀ cutoffNs, activeCutoffNs? planned = some cutoffNs → planned.activeCutoffNs = cutoffNs) ∧
    (∀ active, activeForCpuPlan? planned tid = some active →
      activeForCpuPlan planned tid = active) ∧
    (∀ after, recordMigration? entry task decision nowNs.toNat policy = some after →
      recordMigration entry task decision nowNs.toNat policy = after) ∧
    ∀ pressure, pressureFromBwX100? readMibSX100.toNat writeMibSX100.toNat
        capacityMibSX100.toNat = some pressure →
      pressureFromBwX100 readMibSX100.toNat writeMibSX100.toNat capacityMibSX100.toNat =
        pressure := by
  intro policy planned settleNs reverseNs
  have reverse : reverseNs = settleNs := reverseProtect_eq_settle policy.migrateSettleMs
  have now : nowNs.toNat ≤ u64Max := Nat.le_of_lt_succ nowNs.toNat_lt
  have read : readMibSX100.toNat ≤ u32Max := Nat.le_of_lt_succ readMibSX100.toNat_lt
  have write : writeMibSX100.toNat ≤ u32Max := Nat.le_of_lt_succ writeMibSX100.toNat_lt
  refine ⟨?_, ?_, ?_, ?_, ?_, ?_⟩
  · rw [activeForCpuPlan?_isSome, activeCutoffNs?_isSome, recordMigration?_isSome crossed,
      pressureFromBwX100?_isSome]
    constructor
    · exact fun fits => ⟨fits.1, fits.2.2.1, fits.2.2.2⟩
    · exact fun fits => ⟨fits.cutoff, fits.cutoff, fits.deadline, fits.sum⟩
  · have cutoff : wrapMul64 (max policy.dfStaleMs policy.llcStaleMs) 1000000 =
        satMul64 (max policy.dfStaleMs policy.llcStaleMs) 1000000 ↔
          max policy.dfStaleMs policy.llcStaleMs * 1000000 ≤ u64Max :=
      wrapIn_mul_eq_clampIn_iff (by decide) (by decide)
    have deadline : wrapAdd64 nowNs.toNat settleNs = satAdd64 nowNs.toNat settleNs ↔
        nowNs.toNat + settleNs ≤ u64Max :=
      wrapIn_add_eq_clampIn_iff now (Nat.min_le_right _ _)
    have sum : wrapAdd32 readMibSX100.toNat writeMibSX100.toNat =
        satAdd32 readMibSX100.toNat writeMibSX100.toNat ↔
          readMibSX100.toNat + writeMibSX100.toNat ≤ u32Max :=
      wrapIn_add_eq_clampIn_iff read write
    rw [reverse, cutoff, deadline, sum]
    constructor
    · exact fun fits => ⟨fits.1, fits.2.1, fits.2.2.2⟩
    · exact fun fits => ⟨fits.cutoff, fits.deadline, fits.deadline, fits.sum⟩
  · exact fun _ computed => activeCutoffNs_of_checked computed
  · exact fun _ computed => activeForCpuPlan_of_checked computed
  · exact fun _ computed => recordMigration_of_checked computed
  · exact fun _ computed => pressureFromBwX100_of_checked computed

/-! The defaults of the command line, and a staleness bound that wraps to less
than a millisecond. -/

def defaultOpts : Opts where
  dfWindowMs := 10
  dfStaleMs := 120
  llcPeriodMs := 30
  llcStaleMs := 120
  migrateSettleMs := 80

def endlessOpts : Opts := { defaultOpts with dfStaleMs := 18446744073710 }

example : wrapMul64 18446744073710 1000000 = 448384 := by decide

theorem uncontestedContext_crosses :
    crossesDomains uncontestedContext.task (choosePlacementWithPlannedCpus uncontestedContext) =
      true := by
  decide +kernel

theorem unchecked_arithmetic_in_range_iff_default :
    (activeCutoffNs?
        { crowdedInput with policy := defaultOpts.policyConfig samplePolicy }).isSome = true ∧
      (activeForCpuPlan?
        { crowdedInput with policy := defaultOpts.policyConfig samplePolicy } 1).isSome = true ∧
      (recordMigration? {} uncontestedContext.task
        (choosePlacementWithPlannedCpus uncontestedContext) (1000000 : UInt64).toNat
        (defaultOpts.policyConfig samplePolicy)).isSome = true ∧
      (pressureFromBwX100? (500 : UInt32).toNat (300 : UInt32).toNat
        (1000 : UInt32).toNat).isSome = true :=
  (unchecked_arithmetic_in_range_iff defaultOpts samplePolicy crowdedInput 1 {}
    uncontestedContext.task (choosePlacementWithPlannedCpus uncontestedContext)
    uncontestedContext_crosses 1000000 500 300 1000).1.mpr ⟨by decide, by decide, by decide⟩

theorem not_unchecked_arithmetic_in_range :
    ¬ ∀ (opts : Opts) (cfg : PolicyConfig) (snapshot : PlannerInput) (tid : Nat)
        (entry : ManagedThreadState) (task : QueuedTask) (decision : PlacementDecision),
      crossesDomains task decision = true →
      ∀ nowNs : UInt64, ∀ readMibSX100 writeMibSX100 capacityMibSX100 : UInt32,
        (activeCutoffNs? { snapshot with policy := opts.policyConfig cfg }).isSome = true ∧
        (activeForCpuPlan? { snapshot with policy := opts.policyConfig cfg } tid).isSome = true ∧
        (recordMigration? entry task decision nowNs.toNat (opts.policyConfig cfg)).isSome = true ∧
        (pressureFromBwX100? readMibSX100.toNat writeMibSX100.toNat
          capacityMibSX100.toNat).isSome = true := by
  intro claim
  have computed := (claim endlessOpts samplePolicy crowdedInput 1 {} uncontestedContext.task
    (choosePlacementWithPlannedCpus uncontestedContext) uncontestedContext_crosses 0 0 0 0).1
  have fits := activeCutoffNs?_isSome.mp computed
  exact absurd fits (by decide)

end CSwitch.Dispatch
