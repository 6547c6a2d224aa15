import CSwitch.Bpf.Tick
import CSwitch.Planner.State

/-! Which DF samples count as live. The planner, the policy and the BPF side test a
sample each in its own way; they part on samples with a zero or a future timestamp. -/

set_option autoImplicit false

namespace CSwitch.Bpf

open Planner Policy

/-! ## The three tests -/

/-- The test in `live_df_for_domain`. -/
def plannerCountsLive (sample : CcmDfStateValue) (nowNs staleMs : Nat) : Bool :=
  sample.valid != 0 && decide (nowNs - sample.sampleTsNs ≤ satMul64 staleMs 1000000)

/-- The test in `usable_df`. -/
def policyCountsLive (sample : CcmDfStateValue) (nowNs staleMs : Nat) : Bool :=
  sample.valid != 0 && !isStale sample.sampleTsNs nowNs staleMs

/-- The test in `domain_df_hot`, with the difference of two times that it takes. -/
def bpfCountsLive (timeDelta : Nat → Nat → Nat) (sample : CcmDfStateValue) (now staleNs : Nat) :
    Bool :=
  sample.valid != 0 && !decide (timeDelta now sample.sampleTsNs > staleNs)

/-- The tests agree on a sample. The bound is loaded in nanoseconds into the BPF side. -/
structure CountsAlike (timeDelta : Nat → Nat → Nat) (sample : CcmDfStateValue)
    (nowNs staleMs : Nat) : Prop where
  planner : plannerCountsLive sample nowNs staleMs = policyCountsLive sample nowNs staleMs
  bpf : bpfCountsLive timeDelta sample nowNs (satMul64 staleMs 1000000) =
    policyCountsLive sample nowNs staleMs

section Tests

variable {timeDelta : Nat → Nat → Nat} {sample : CcmDfStateValue} {nowNs staleMs : Nat}

theorem liveDfForDomain_some :
    liveDfForDomain (some sample) nowNs staleMs =
      if plannerCountsLive sample nowNs staleMs then sample.bwX100 else 0 := by
  unfold liveDfForDomain plannerCountsLive
  simp only [Bool.and_eq_true, bne_iff_ne, decide_eq_true_eq]

theorem usableDf_some :
    usableDf (some sample) nowNs staleMs =
      if policyCountsLive sample nowNs staleMs then some sample else none :=
  Option.filter_some

theorem domainDfHot_eq (cfg : TickConfig) (maps : TickMaps) {domain : Nat}
    (within : domain < maxDomains) (now : Nat) :
    domainDfHot cfg maps domain now =
      maps.dfStates[domain]?.any fun sample =>
        bpfCountsLive Bpf.timeDelta sample now cfg.dfStaleNs && sample.state == 1 := by
  have inside : ¬((domain : Int) < 0 ∨ (maxDomains : Int) ≤ domain) := by omega
  unfold domainDfHot domainHot
  rw [if_neg inside, Int.toNat_natCast]
  dsimp only
  cases maps.dfStates[domain]? with
  | none => rfl
  | some sample =>
      dsimp only [Option.map_some, Option.any_some]
      unfold bpfCountsLive
      by_cases dead : sample.valid = 0 ∨ Bpf.timeDelta now sample.sampleTsNs > cfg.dfStaleNs
      · rw [if_pos dead]
        rcases dead with invalid | old
        · simp [invalid]
        · simp [old]
      · rw [if_neg dead]
        rw [not_or] at dead
        simp [dead.1, dead.2]

/-- Where the tests agree, the tick sees the sample that the policy uses. -/
theorem CountsAlike.domainDfHot {cfg : TickConfig} {maps : TickMaps} {domain : Nat}
    (within : domain < maxDomains) (bound : cfg.dfStaleNs = satMul64 staleMs 1000000)
    (alike : ∀ sample ∈ maps.dfStates[domain]?, CountsAlike Bpf.timeDelta sample nowNs staleMs) :
    Bpf.domainDfHot cfg maps domain nowNs =
      (usableDf maps.dfStates[domain]? nowNs staleMs).any (·.state == 1) := by
  rw [domainDfHot_eq cfg maps within, bound]
  cases found : maps.dfStates[domain]? with
  | none => simp [usableDf]
  | some sample =>
      rw [usableDf_some, Option.any_some, (alike sample found).bpf]
      cases policyCountsLive sample nowNs staleMs with
      | true => rfl
      | false => rfl

/-- The header takes a signed difference, which is the truncated one for times
less than 2^63 apart. -/
theorem timeDelta_eq_sub {after before : Nat} (afterFits : after ≤ u64Max)
    (beforeFits : before ≤ u64Max) (near : after - before < 9223372036854775808)
    (ahead : before - after ≤ 9223372036854775808) : Bpf.timeDelta after before = after - before := by
  unfold Bpf.timeDelta u64Max at *
  dsimp only
  rcases Nat.lt_or_ge after before with future | past
  · rw [Nat.mod_eq_of_lt (by omega), if_neg (by omega)]
    omega
  · have wrapped : after + (18446744073709551615 + 1) - before =
        (after - before) + (18446744073709551615 + 1) := by omega
    rw [wrapped, Nat.add_mod_right, Nat.mod_eq_of_lt (by omega), if_pos near]

/-! ## Where they agree -/

theorem plannerCountsLive_iff :
    plannerCountsLive sample nowNs staleMs = true ↔
      sample.valid ≠ 0 ∧ nowNs - sample.sampleTsNs ≤ satMul64 staleMs 1000000 := by
  simp only [plannerCountsLive, Bool.and_eq_true, bne_iff_ne, decide_eq_true_eq]

theorem policyCountsLive_iff :
    policyCountsLive sample nowNs staleMs = true ↔
      sample.valid ≠ 0 ∧ sample.sampleTsNs ≠ 0 ∧ sample.sampleTsNs ≤ nowNs ∧
        nowNs - sample.sampleTsNs ≤ satMul64 staleMs 1000000 := by
  unfold policyCountsLive isStale
  rw [Bool.and_eq_true, bne_iff_ne, Bool.not_eq_true']
  apply and_congr_right
  intro _
  split
  · simp only [Bool.true_eq_false, false_iff]
    omega
  · rw [decide_eq_false_iff_not]
    omega

theorem bpfCountsLive_eq (truncated : timeDelta nowNs sample.sampleTsNs = nowNs - sample.sampleTsNs) :
    bpfCountsLive timeDelta sample nowNs (satMul64 staleMs 1000000) =
      plannerCountsLive sample nowNs staleMs := by
  unfold bpfCountsLive plannerCountsLive
  rw [truncated]
  congr 1
  simp [← decide_not]

/-- The policy alone tells apart what is not stamped or stamped later than now. -/
theorem plannerCountsLive_eq_iff :
    plannerCountsLive sample nowNs staleMs = policyCountsLive sample nowNs staleMs ↔
      sample.valid = 0 ∨ sample.sampleTsNs ≤ nowNs ∧
        (sample.sampleTsNs ≠ 0 ∨ satMul64 staleMs 1000000 < nowNs) := by
  rw [Bool.eq_iff_iff, plannerCountsLive_iff, policyCountsLive_iff]
  omega

/-- The tests agree on a sample exactly when it is invalid, or stamped in the past
and at a time that is not zero unless zero is too long ago; and then planner,
executor and fast path see the same load, the last in `domain_df_hot`. -/
theorem live_df_sample_iff (timeDelta : Nat → Nat → Nat) (state : Option CcmDfStateValue)
    (nowNs staleMs : Nat)
    (truncated : ∀ sample ∈ state,
      timeDelta nowNs sample.sampleTsNs = nowNs - sample.sampleTsNs) :
    ((∀ sample ∈ state, CountsAlike timeDelta sample nowNs staleMs) ↔
      ∀ sample ∈ state, sample.valid = 0 ∨ sample.sampleTsNs ≤ nowNs ∧
        (sample.sampleTsNs ≠ 0 ∨ satMul64 staleMs 1000000 < nowNs)) ∧
    ((∀ sample ∈ state, CountsAlike timeDelta sample nowNs staleMs) →
      liveDfForDomain state nowNs staleMs =
          ((usableDf state nowNs staleMs).map (·.bwX100)).getD 0 ∧
        (state.filter fun sample =>
          bpfCountsLive timeDelta sample nowNs (satMul64 staleMs 1000000)) =
          usableDf state nowNs staleMs) ∧
    ∀ (cfg : TickConfig) (maps : TickMaps) (domain : Nat), domain < maxDomains →
      maps.dfStates[domain]? = state → cfg.dfStaleNs = satMul64 staleMs 1000000 →
      (∀ sample ∈ state, CountsAlike Bpf.timeDelta sample nowNs staleMs) →
        domainDfHot cfg maps domain nowNs =
          (usableDf state nowNs staleMs).any (·.state == 1) := by
  refine and_assoc.mp ⟨?_, fun cfg maps domain within found bound alike => ?_⟩
  case refine_2 =>
    subst found
    exact CountsAlike.domainDfHot within bound alike
  cases state with
  | none => simp [liveDfForDomain, usableDf]
  | some sample =>
      simp only [Option.mem_def, Option.some.injEq, forall_eq'] at truncated ⊢
      constructor
      · rw [← plannerCountsLive_eq_iff]
        constructor
        · exact fun alike => alike.planner
        · exact fun alike => ⟨alike, (bpfCountsLive_eq truncated).trans alike⟩
      · intro alike
        constructor
        · rw [liveDfForDomain_some, usableDf_some, alike.planner]
          split <;> rfl
        · rw [Option.filter_some, usableDf_some, alike.bpf]

end Tests

/-! A sample that was stamped after the time was read. -/

def futureSample : CcmDfStateValue :=
  { sampleTsNs := 2, valid := 1, rawReadBwMibSX100 := 500, state := 1 }

theorem live_df_sample_iff_future :
    ((∀ sample ∈ some futureSample, CountsAlike timeDelta sample 3 100) ↔
      ∀ sample ∈ some futureSample, sample.valid = 0 ∨ sample.sampleTsNs ≤ 3 ∧
        (sample.sampleTsNs ≠ 0 ∨ satMul64 100 1000000 < 3)) ∧
    ((∀ sample ∈ some futureSample, CountsAlike timeDelta sample 3 100) →
      liveDfForDomain (some futureSample) 3 100 =
          ((usableDf (some futureSample) 3 100).map (·.bwX100)).getD 0 ∧
        ((some futureSample).filter fun sample =>
          bpfCountsLive timeDelta sample 3 (satMul64 100 1000000)) =
          usableDf (some futureSample) 3 100) := by
  have read := live_df_sample_iff timeDelta (some futureSample) 3 100 (by
    intro sample found
    obtain rfl := Option.some.inj found
    exact timeDelta_eq_sub (by decide) (by decide) (by decide) (by decide))
  exact ⟨read.1, read.2.1⟩

/-- The planner and the BPF side count it live, the policy does not. -/
theorem not_live_df_sample_alike :
    ¬∀ timeDelta : Nat → Nat → Nat, (∀ after before, timeDelta after before = after - before) →
      ∀ (sample : CcmDfStateValue) (nowNs staleMs : Nat),
        CountsAlike timeDelta sample nowNs staleMs := by
  intro alike
  have same := (alike (fun after before => after - before) (fun _ _ => rfl) futureSample 1 100).planner
  have differ : plannerCountsLive futureSample 1 100 ≠ policyCountsLive futureSample 1 100 := by
    decide
  exact differ same

end CSwitch.Bpf
