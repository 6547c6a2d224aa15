import CSwitch.Attribution.SignatureUpdate

/-! Confidence against deviation. A sample that deviates lowers the confidence,
unless the confidence lies below the floor of its band, or the deviation, cut to
32 bits, has come around to a small one. -/

set_option autoImplicit false

namespace CSwitch.Attribution

/-- The deviation of a sample in hundredths of a percent, computed exactly. -/
def deviationX100 (projected sample : Nat) : Nat :=
  ((max projected 1 - sample) + (sample - max projected 1)) * 10000 / max projected 1

/-- The larger of the two deviations of a sample. -/
def sampleDeviationX100 (previous : ThreadSignature) (sampleDfX100 sampleLlcX100 : Nat) : Nat :=
  max (deviationX100 previous.projectedDfPressureX100 sampleDfX100)
    (deviationX100 previous.projectedLlcPressureX100 sampleLlcX100)

/-- The larger of the two deviations after each has been cut to 32 bits. -/
def cutDeviationX100 (previous : ThreadSignature) (sampleDfX100 sampleLlcX100 : Nat) : Nat :=
  max (deviationX100 previous.projectedDfPressureX100 sampleDfX100 % (u32Max + 1))
    (deviationX100 previous.projectedLlcPressureX100 sampleLlcX100 % (u32Max + 1))

/-- The next confidence, in four bands of the deviation. -/
def confidenceAt (confidenceX100 deltaPct : Nat) : Nat :=
  if deltaPct ≤ 2500 then min (satAdd32 confidenceX100 1000) 10000
  else if deltaPct ≤ 5000 then min (satAdd32 confidenceX100 300) 10000
  else if deltaPct ≤ 10000 then max (confidenceX100 - 1500) 1000
  else max (confidenceX100 - 2500) 500

theorem signatureConfidenceX100_eq {previous : ThreadSignature} (valid : previous.valid = true)
    (sampleDfX100 sampleLlcX100 : Nat) :
    signatureConfidenceX100 previous sampleDfX100 sampleLlcX100 =
      confidenceAt previous.confidenceX100
        (cutDeviationX100 previous sampleDfX100 sampleLlcX100) := by
  unfold signatureConfidenceX100
  rw [valid]
  rfl

/-! ## Bands -/

/-- The band of a deviation does not raise a confidence. -/
inductive BandHolds (confidenceX100 deltaPct : Nat) : Prop where
  | full (near : deltaPct ≤ 5000) (high : 10000 ≤ confidenceX100) :
      BandHolds confidenceX100 deltaPct
  | lowered (away : 5000 < deltaPct) (close : deltaPct ≤ 10000) (above : 1000 ≤ confidenceX100) :
      BandHolds confidenceX100 deltaPct
  | dropped (far : 10000 < deltaPct) (above : 500 ≤ confidenceX100) :
      BandHolds confidenceX100 deltaPct

theorem confidenceAt_le_iff {confidenceX100 deltaPct : Nat} :
    confidenceAt confidenceX100 deltaPct ≤ confidenceX100 ↔ BandHolds confidenceX100 deltaPct := by
  constructor
  · intro bounded
    unfold confidenceAt satAdd32 u32Max at bounded
    by_cases near : deltaPct ≤ 5000
    · refine .full near ?_
      split at bounded <;> omega
    · by_cases close : deltaPct ≤ 10000
      · refine .lowered (by omega) close ?_
        rw [if_neg (by omega), if_neg near, if_pos close] at bounded
        omega
      · refine .dropped (by omega) ?_
        rw [if_neg (by omega), if_neg near, if_neg close] at bounded
        omega
  · intro holds
    unfold confidenceAt
    cases holds with
    | full near high => split <;> omega
    | lowered away close above =>
        rw [if_neg (by omega), if_neg (by omega), if_pos close]
        omega
    | dropped far above =>
        rw [if_neg (by omega), if_neg (by omega), if_neg (by omega)]
        omega

/-- Between these bounds the bands lie one below the other. -/
theorem confidenceAt_anti {confidenceX100 : Nat} (low : 700 ≤ confidenceX100)
    (high : confidenceX100 ≤ 11500) {near far : Nat} (order : near ≤ far) :
    confidenceAt confidenceX100 far ≤ confidenceAt confidenceX100 near := by
  unfold confidenceAt satAdd32 u32Max
  repeat' split
  all_goals omega

/-! ## Deviations -/

theorem deviationX100_self (projected : Nat) : deviationX100 projected (max projected 1) = 0 := by
  simp [deviationX100]

theorem deviationX100_zero (projected : Nat) : deviationX100 projected 0 = 10000 := by
  have positive : 0 < max projected 1 := by omega
  unfold deviationX100
  rw [Nat.sub_zero, Nat.zero_sub, Nat.add_zero, Nat.mul_div_cancel_left _ positive]

theorem deviationX100_far (projected : Nat) :
    deviationX100 projected (max projected 1 * 3) = 20000 := by
  have positive : 0 < max projected 1 := by omega
  have distance : (max projected 1 - max projected 1 * 3 +
      (max projected 1 * 3 - max projected 1)) * 10000 = max projected 1 * 20000 := by omega
  unfold deviationX100
  rw [distance, Nat.mul_div_cancel_left _ positive]

/-- A sample of half the projection lies in the second band. -/
theorem deviationX100_half {projected : Nat} (large : 10000 ≤ projected) :
    2500 < deviationX100 projected (projected - projected / 2) ∧
      deviationX100 projected (projected - projected / 2) ≤ 5000 := by
  have same : max projected 1 = projected := by omega
  have distance : (projected - (projected - projected / 2) +
      (projected - projected / 2 - projected)) * 10000 = projected / 2 * 10000 := by omega
  unfold deviationX100
  rw [same, distance]
  constructor
  · apply Nat.lt_of_lt_of_le (by decide : 2500 < 4999)
    rw [Nat.le_div_iff_mul_le (by omega)]
    omega
  · apply Nat.div_le_of_le_mul
    omega

/-- From a projection of 10000 on, no deviation needs more than 32 bits. -/
theorem deviationX100_fits {projected sample : Nat} (large : 10000 ≤ projected)
    (range : sample ≤ u32Max) : deviationX100 projected sample < u32Max + 1 := by
  have same : max projected 1 = projected := by omega
  unfold u32Max at range ⊢
  unfold deviationX100
  rw [same, Nat.div_lt_iff_lt_mul (by omega)]
  omega

/-- Below it, some sample comes around to the first band. -/
theorem exists_comesAround {projected : Nat} (small : projected < 10000) :
    ∃ sample ≤ u32Max, u32Max + 1 ≤ deviationX100 projected sample ∧
      deviationX100 projected sample % (u32Max + 1) ≤ 2500 := by
  unfold u32Max
  by_cases tiny : projected < 4
  · interval_cases projected
    · exact ⟨1717988, by decide, by decide, by decide⟩
    · exact ⟨1717988, by decide, by decide, by decide⟩
    · exact ⟨1717989, by decide, by decide, by decide⟩
    · exact ⟨2576984, by decide, by decide, by decide⟩
  · have same : max projected 1 = projected := by omega
    -- the first distance whose deviation reaches 32 bits, and exceeds them by less than one step
    obtain ⟨distance, lower, upper⟩ : ∃ distance, 4294967296 * projected ≤ distance * 10000 ∧
        distance * 10000 ≤ 4294967296 * projected + 9999 :=
      ⟨(4294967296 * projected + 9999) / 10000, by omega, by omega⟩
    have exact : deviationX100 projected (projected + distance) = distance * 10000 / projected := by
      unfold deviationX100
      rw [same, Nat.sub_eq_zero_of_le (Nat.le_add_right _ _), Nat.add_sub_cancel_left, Nat.zero_add]
    have reaches : 4294967296 ≤ distance * 10000 / projected := by
      rw [Nat.le_div_iff_mul_le (by omega)]
      exact lower
    have less : distance * 10000 / projected < 4294967296 + 2500 := by
      rw [Nat.div_lt_iff_lt_mul (by omega), Nat.add_mul]
      omega
    refine ⟨projected + distance, by omega, ?_, ?_⟩
    · rw [exact]
      exact reaches
    · rw [exact, Nat.mod_eq_sub_mod reaches]
      exact (Nat.mod_le _ _).trans (by omega)

/-! ## Monotonicity -/

/-- The confidence does not grow with the deviation of one pressure, the other
being as projected. -/
def FollowsPressure (confidenceX100 projected : Nat) : Prop :=
  ∀ near ≤ u32Max, ∀ far ≤ u32Max, deviationX100 projected near ≤ deviationX100 projected far →
    confidenceAt confidenceX100 (deviationX100 projected far % (u32Max + 1)) ≤
      confidenceAt confidenceX100 (deviationX100 projected near % (u32Max + 1))

/-- The confidence does not grow with the deviation of the sample. -/
def FollowsDeviation (previous : ThreadSignature) : Prop :=
  ∀ df ≤ u32Max, ∀ llc ≤ u32Max, ∀ otherDf ≤ u32Max, ∀ otherLlc ≤ u32Max,
    sampleDeviationX100 previous df llc ≤ sampleDeviationX100 previous otherDf otherLlc →
    signatureConfidenceX100 previous otherDf otherLlc ≤ signatureConfidenceX100 previous df llc

theorem FollowsPressure.bounds {confidenceX100 projected : Nat} (range : projected ≤ u32Max)
    (follows : FollowsPressure confidenceX100 projected) :
    10000 ≤ projected ∧ 700 ≤ confidenceX100 ∧ confidenceX100 ≤ 11500 := by
  have self : max projected 1 ≤ u32Max := by
    unfold u32Max at range ⊢
    omega
  -- the first band against the third
  have high : confidenceX100 ≤ 11500 := by
    have ordered := follows (max projected 1) self 0 (Nat.zero_le _)
      (by rw [deviationX100_self]; exact Nat.zero_le _)
    rw [deviationX100_self, deviationX100_zero] at ordered
    norm_num [confidenceAt, satAdd32, u32Max] at ordered
    omega
  -- the fourth band against a deviation that has come around
  have large : 10000 ≤ projected := by
    by_contra small
    obtain ⟨sample, inRange, reaches, around⟩ := exists_comesAround (Nat.not_le.mp small)
    have ordered := follows (max projected 1 * 3) (by unfold u32Max; omega) sample inRange
      (by rw [deviationX100_far]; exact le_trans (by decide) reaches)
    rw [deviationX100_far] at ordered
    unfold confidenceAt at ordered
    rw [if_pos around] at ordered
    norm_num [satAdd32, u32Max] at ordered
    omega
  -- the second band against the third
  have low : 700 ≤ confidenceX100 := by
    obtain ⟨more, most⟩ := deviationX100_half large
    have ordered := follows (projected - projected / 2) (by omega) 0 (Nat.zero_le _)
      (by rw [deviationX100_zero]; omega)
    have fits : deviationX100 projected (projected - projected / 2) % (u32Max + 1) =
        deviationX100 projected (projected - projected / 2) :=
      Nat.mod_eq_of_lt (by unfold u32Max; omega)
    rw [deviationX100_zero, fits] at ordered
    unfold confidenceAt at ordered
    rw [if_neg (Nat.not_le.mpr more), if_pos most] at ordered
    norm_num [satAdd32, u32Max] at ordered
    omega
  exact ⟨large, low, high⟩

section Signature

variable {previous : ThreadSignature}

/-- With the other pressure as projected, one pressure decides. -/
theorem FollowsDeviation.df (follows : FollowsDeviation previous) (valid : previous.valid = true)
    (range : previous.projectedLlcPressureX100 ≤ u32Max) :
    FollowsPressure previous.confidenceX100 previous.projectedDfPressureX100 := by
  intro near nearRange far farRange closer
  have other : max previous.projectedLlcPressureX100 1 ≤ u32Max := by
    unfold u32Max at range ⊢
    omega
  have ordered := follows near nearRange _ other far farRange _ other
    (by simpa only [sampleDeviationX100, deviationX100_self, Nat.max_zero] using closer)
  simpa only [signatureConfidenceX100_eq valid, cutDeviationX100, deviationX100_self, Nat.zero_mod,
    Nat.max_zero] using ordered

theorem FollowsDeviation.llc (follows : FollowsDeviation previous) (valid : previous.valid = true)
    (range : previous.projectedDfPressureX100 ≤ u32Max) :
    FollowsPressure previous.confidenceX100 previous.projectedLlcPressureX100 := by
  intro near nearRange far farRange closer
  have other : max previous.projectedDfPressureX100 1 ≤ u32Max := by
    unfold u32Max at range ⊢
    omega
  have ordered := follows _ other near nearRange _ other far farRange
    (by simpa only [sampleDeviationX100, deviationX100_self, Nat.zero_max] using closer)
  simpa only [signatureConfidenceX100_eq valid, cutDeviationX100, deviationX100_self, Nat.zero_mod,
    Nat.zero_max] using ordered

/-- Where nothing is cut, the confidence is a function of the exact deviation. -/
theorem signatureConfidenceX100_uncut (valid : previous.valid = true)
    (largeDf : 10000 ≤ previous.projectedDfPressureX100)
    (largeLlc : 10000 ≤ previous.projectedLlcPressureX100) {df llc : Nat} (dfRange : df ≤ u32Max)
    (llcRange : llc ≤ u32Max) :
    signatureConfidenceX100 previous df llc =
      confidenceAt previous.confidenceX100 (sampleDeviationX100 previous df llc) := by
  rw [signatureConfidenceX100_eq valid, cutDeviationX100, sampleDeviationX100,
    Nat.mod_eq_of_lt (deviationX100_fits largeDf dfRange),
    Nat.mod_eq_of_lt (deviationX100_fits largeLlc llcRange)]

theorem followsDeviation_iff (valid : previous.valid = true)
    (rangeDf : previous.projectedDfPressureX100 ≤ u32Max)
    (rangeLlc : previous.projectedLlcPressureX100 ≤ u32Max) :
    FollowsDeviation previous ↔
      10000 ≤ previous.projectedDfPressureX100 ∧ 10000 ≤ previous.projectedLlcPressureX100 ∧
        700 ≤ previous.confidenceX100 ∧ previous.confidenceX100 ≤ 11500 := by
  constructor
  · intro follows
    obtain ⟨largeDf, low, high⟩ := (follows.df valid rangeLlc).bounds rangeDf
    obtain ⟨largeLlc, _, _⟩ := (follows.llc valid rangeDf).bounds rangeLlc
    exact ⟨largeDf, largeLlc, low, high⟩
  · intro ⟨largeDf, largeLlc, low, high⟩ df dfRange llc llcRange otherDf otherDfRange otherLlc
      otherLlcRange closer
    rw [signatureConfidenceX100_uncut valid largeDf largeLlc dfRange llcRange,
      signatureConfidenceX100_uncut valid largeDf largeLlc otherDfRange otherLlcRange]
    exact confidenceAt_anti low high closer

/-- A deviation of more than half lowers the confidence, whatever the sample. -/
def LoweredByDeviation (previous : ThreadSignature) : Prop :=
  ∀ df ≤ u32Max, ∀ llc ≤ u32Max, 5000 < sampleDeviationX100 previous df llc →
    signatureConfidenceX100 previous df llc ≤ previous.confidenceX100

/-- One sample does not raise the confidence by its deviation exactly when the
band it falls into does not; and a signature never rewards deviation exactly when
its pressures are large enough not to be cut and its confidence lies between the
floor of the third band and the reach of the first. -/
theorem signatureConfidenceX100_rewards_iff (previous : ThreadSignature)
    (valid : previous.valid = true) (rangeDf : previous.projectedDfPressureX100 ≤ u32Max)
    (rangeLlc : previous.projectedLlcPressureX100 ≤ u32Max) :
    (∀ df llc, (5000 < sampleDeviationX100 previous df llc →
        signatureConfidenceX100 previous df llc ≤ previous.confidenceX100) ↔
      sampleDeviationX100 previous df llc ≤ 5000 ∨
        BandHolds previous.confidenceX100 (cutDeviationX100 previous df llc)) ∧
    (FollowsDeviation previous ↔
      10000 ≤ previous.projectedDfPressureX100 ∧ 10000 ≤ previous.projectedLlcPressureX100 ∧
        700 ≤ previous.confidenceX100 ∧ previous.confidenceX100 ≤ 11500) ∧
    (LoweredByDeviation previous ∧ FollowsDeviation previous ↔
      10000 ≤ previous.projectedDfPressureX100 ∧ 10000 ≤ previous.projectedLlcPressureX100 ∧
        1000 ≤ previous.confidenceX100 ∧ previous.confidenceX100 ≤ 11500) := by
  have followsIff := followsDeviation_iff valid rangeDf rangeLlc
  refine ⟨?_, followsIff, ?_⟩
  · intro df llc
    rw [signatureConfidenceX100_eq valid, confidenceAt_le_iff]
    by_cases away : 5000 < sampleDeviationX100 previous df llc
    · exact ⟨fun lowered => .inr (lowered away),
        fun either _ => either.resolve_left (Nat.not_le.mpr away)⟩
    · exact ⟨fun _ => .inl (Nat.not_lt.mp away), fun _ further => absurd further away⟩
  · constructor
    · intro ⟨lowered, follows⟩
      obtain ⟨largeDf, largeLlc, _, high⟩ := followsIff.mp follows
      refine ⟨largeDf, largeLlc, ?_, high⟩
      -- a sample without DF pressure falls into the third band
      have half : sampleDeviationX100 previous 0 0 = 10000 := by
        simp only [sampleDeviationX100, deviationX100_zero, Nat.max_self]
      have bounded := lowered 0 (Nat.zero_le _) 0 (Nat.zero_le _) (by rw [half]; decide)
      rw [signatureConfidenceX100_uncut valid largeDf largeLlc (Nat.zero_le _) (Nat.zero_le _), half,
        confidenceAt_le_iff] at bounded
      cases bounded with
      | full near _ => exact absurd near (by decide)
      | lowered _ _ above => exact above
      | dropped far _ => exact absurd far (by decide)
    · intro ⟨largeDf, largeLlc, low, high⟩
      refine ⟨?_, followsIff.mpr ⟨largeDf, largeLlc, by omega, high⟩⟩
      intro df dfRange llc llcRange away
      rw [signatureConfidenceX100_uncut valid largeDf largeLlc dfRange llcRange, confidenceAt_le_iff]
      by_cases close : sampleDeviationX100 previous df llc ≤ 10000
      · exact .lowered away close low
      · exact .dropped (Nat.not_le.mp close) (by omega)

end Signature

/-! A signature of 200 MiB/s, and one that has seen no DF pressure yet: of the
second, 4294.98 MiB/s come around to a deviation of 27 percent. -/

def loadedSignature : ThreadSignature where
  valid := true
  confidenceX100 := 7000
  projectedDfPressureX100 := 20000
  projectedLlcPressureX100 := 20000

def quietSignature : ThreadSignature where
  valid := true
  confidenceX100 := 7000
  projectedLlcPressureX100 := 5000

theorem signatureConfidenceX100_rewards_iff_loaded :
    LoweredByDeviation loadedSignature ∧ FollowsDeviation loadedSignature :=
  (signatureConfidenceX100_rewards_iff loadedSignature rfl (by decide) (by decide)).2.2.mpr
    (by decide)

theorem signatureConfidenceX100_comes_around :
    ¬∀ previous : ThreadSignature, previous.valid = true →
      previous.projectedDfPressureX100 ≤ u32Max → previous.projectedLlcPressureX100 ≤ u32Max →
      LoweredByDeviation previous ∧ FollowsDeviation previous := by
  intro always
  have lowered := (always quietSignature rfl (by decide) (by decide)).1 429498 (by decide) 5000
    (by decide) (by decide)
  exact absurd lowered (by decide)

end CSwitch.Attribution
