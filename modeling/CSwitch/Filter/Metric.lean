import CSwitch.Library.MovingAverage
import CSwitch.Library.Persistence
import CSwitch.Types

/-! The filter of a pressure metric: the average of its samples, and a state that
turns hot or cool once enough samples have asked for it. -/

set_option autoImplicit false

namespace CSwitch.Filter

open Library

structure FilterConfig where
  alphaPct : Nat
  hotPctX100 : Nat
  coolPctX100 : Nat
  hotPersist : Nat
  coolPersist : Nat

structure FilteredMetric where
  rawX100 : Nat := 0
  ewmaX100 : Nat := 0
  state : HotCoolState := .cool
  hotCount : Nat := 0
  coolCount : Nat := 0
  sampleTsNs : Nat := 0
  valid : Bool := false

/-- The average of the next sample, in the `u32` arithmetic of a release build. -/
def nextEwmaX100 (prev : FilteredMetric) (rawX100 : Nat) (cfg : FilterConfig) : Nat :=
  let alpha := min cfg.alphaPct 100
  if !prev.valid || prev.sampleTsNs == 0 then rawX100
  else wrapAdd32 (wrapMul32 alpha rawX100) (wrapMul32 (100 - alpha) prev.ewmaX100) / 100

def updateMetric (prev : FilteredMetric) (rawX100 sampleTsNs : Nat) (cfg : FilterConfig) :
    FilteredMetric :=
  let ewmaX100 := nextEwmaX100 prev rawX100 cfg
  let next := { prev with rawX100, ewmaX100, sampleTsNs, valid := true }
  if ewmaX100 ≥ cfg.hotPctX100 then
    let hotCount := satAdd32 prev.hotCount 1
    { next with
      hotCount
      coolCount := 0
      state := if hotCount ≥ cfg.hotPersist then .hot else prev.state }
  else if ewmaX100 ≤ cfg.coolPctX100 then
    let coolCount := satAdd32 prev.coolCount 1
    { next with
      coolCount
      hotCount := 0
      state := if coolCount ≥ cfg.coolPersist then .cool else prev.state }
  else
    { next with
      hotCount := min prev.hotCount (cfg.hotPersist - 1)
      coolCount := min prev.coolCount (cfg.coolPersist - 1) }

/-! ## Samples -/

/-- What a sample tells by its average: hot goes before cool where the bounds cross. -/
inductive Band where
  | hot
  | cool
  | dead
  deriving DecidableEq

def FilterConfig.band (cfg : FilterConfig) (ewmaX100 : Nat) : Band :=
  if ewmaX100 ≥ cfg.hotPctX100 then .hot else if ewmaX100 ≤ cfg.coolPctX100 then .cool else .dead

def Band.hotEvidence : Band → Evidence
  | hot => .towards
  | cool => .against
  | dead => .neither

def Band.coolEvidence : Band → Evidence
  | hot => .against
  | cool => .towards
  | dead => .neither

/-- The hot samples since the last cool one. -/
def hotSince (bands : List Band) : Nat := evidenceSince (bands.map Band.hotEvidence)

/-- The cool samples since the last hot one. -/
def coolSince (bands : List Band) : Nat := evidenceSince (bands.map Band.coolEvidence)

structure Sample where
  rawX100 : Nat
  sampleTsNs : Nat

/-- The metric after some samples, and the band of each of their averages. -/
structure MetricRun where
  metric : FilteredMetric := {}
  bands : List Band := []

def MetricRun.step (cfg : FilterConfig) (run : MetricRun) (sample : Sample) : MetricRun :=
  let metric := updateMetric run.metric sample.rawX100 sample.sampleTsNs cfg
  { metric, bands := run.bands ++ [cfg.band metric.ewmaX100] }

def metricRun (cfg : FilterConfig) (samples : List Sample) : MetricRun :=
  samples.foldl (MetricRun.step cfg) {}

/-- The state that a sample asks for. -/
def settle (cfg : FilterConfig) (bands : List Band) (ewmaX100 : Nat) (state : HotCoolState) :
    HotCoolState :=
  if ewmaX100 ≥ cfg.hotPctX100 ∧ hotSince bands ≥ cfg.hotPersist then .hot
  else if ewmaX100 < cfg.hotPctX100 ∧ ewmaX100 ≤ cfg.coolPctX100 ∧
      coolSince bands ≥ cfg.coolPersist then .cool
  else state

section Update

variable {cfg : FilterConfig} {prev : FilteredMetric} {rawX100 sampleTsNs : Nat}

@[simp] theorem updateMetric_ewmaX100 :
    (updateMetric prev rawX100 sampleTsNs cfg).ewmaX100 = nextEwmaX100 prev rawX100 cfg := by
  unfold updateMetric
  dsimp only
  split
  · rfl
  · split <;> rfl

@[simp] theorem updateMetric_valid : (updateMetric prev rawX100 sampleTsNs cfg).valid = true := by
  unfold updateMetric
  dsimp only
  split
  · rfl
  · split <;> rfl

@[simp] theorem updateMetric_sampleTsNs :
    (updateMetric prev rawX100 sampleTsNs cfg).sampleTsNs = sampleTsNs := by
  unfold updateMetric
  dsimp only
  split
  · rfl
  · split <;> rfl

theorem updateMetric_hotCount :
    (updateMetric prev rawX100 sampleTsNs cfg).hotCount =
      countEvidence u32Max cfg.hotPersist prev.hotCount
        (cfg.band (nextEwmaX100 prev rawX100 cfg)).hotEvidence := by
  unfold updateMetric FilterConfig.band
  dsimp only
  split
  · rfl
  · split <;> rfl

theorem updateMetric_coolCount :
    (updateMetric prev rawX100 sampleTsNs cfg).coolCount =
      countEvidence u32Max cfg.coolPersist prev.coolCount
        (cfg.band (nextEwmaX100 prev rawX100 cfg)).coolEvidence := by
  unfold updateMetric FilterConfig.band
  dsimp only
  split
  · rfl
  · split <;> rfl

theorem updateMetric_state :
    (updateMetric prev rawX100 sampleTsNs cfg).state =
      match cfg.band (nextEwmaX100 prev rawX100 cfg) with
      | .hot => if satAdd32 prev.hotCount 1 ≥ cfg.hotPersist then .hot else prev.state
      | .cool => if satAdd32 prev.coolCount 1 ≥ cfg.coolPersist then .cool else prev.state
      | .dead => prev.state := by
  unfold updateMetric FilterConfig.band
  dsimp only
  split
  · rfl
  · split <;> rfl

end Update

/-! ## Runs -/

/-- The counters follow the bands, and the average its samples. -/
structure MetricInvariant (cfg : FilterConfig) (samples : List Sample) (run : MetricRun) :
    Prop where
  hot : CountsSince cfg.hotPersist run.metric.hotCount (run.bands.map Band.hotEvidence)
  cool : CountsSince cfg.coolPersist run.metric.coolCount (run.bands.map Band.coolEvidence)
  average : samples = [] ∧ run.metric = {} ∨
    run.metric.valid = true ∧ run.metric.sampleTsNs ≠ 0 ∧
      WithinSamples (samples.map (·.rawX100)) run.metric.ewmaX100

/-- A metric of an hundred percent at most with a time that is set. -/
def SamplesInRange (samples : List Sample) : Prop :=
  ∀ sample ∈ samples, sample.rawX100 ≤ 10000 ∧ sample.sampleTsNs ≠ 0

/-- In between, nothing is gained and nothing that is still asked for is lost. -/
structure KeepsProgress (persist before after : Nat) : Prop where
  gain : after ≤ before
  loss : min after (persist - 1) = min before (persist - 1)

/-- What one more sample does to a run. -/
structure MetricStep (cfg : FilterConfig) (samples : List Sample) (sample : Sample)
    (prev next : MetricRun) : Prop where
  state : next.metric.state =
    settle cfg next.bands next.metric.ewmaX100 prev.metric.state
  dead : cfg.band next.metric.ewmaX100 = .dead →
    KeepsProgress cfg.hotPersist prev.metric.hotCount next.metric.hotCount ∧
      KeepsProgress cfg.coolPersist prev.metric.coolCount next.metric.coolCount ∧
      hotSince next.bands = hotSince prev.bands ∧ coolSince next.bands = coolSince prev.bands
  within : WithinSamples ((samples ++ [sample]).map (·.rawX100)) next.metric.ewmaX100
  fits : min cfg.alphaPct 100 * sample.rawX100 +
    (100 - min cfg.alphaPct 100) * prev.metric.ewmaX100 ≤ u32Max

section Runs

variable {cfg : FilterConfig} {samples : List Sample} {run : MetricRun} {sample : Sample}

theorem step_ewmaX100 : (run.step cfg sample).metric.ewmaX100 =
    nextEwmaX100 run.metric sample.rawX100 cfg :=
  updateMetric_ewmaX100

theorem step_bands : (run.step cfg sample).bands =
    run.bands ++ [cfg.band (nextEwmaX100 run.metric sample.rawX100 cfg)] := by
  rw [← step_ewmaX100]
  rfl

theorem MetricInvariant.ewma_le (holds : MetricInvariant cfg samples run)
    (range : SamplesInRange samples) : run.metric.ewmaX100 ≤ 10000 := by
  cases holds.average with
  | inl none =>
      rw [none.2]
      exact Nat.zero_le _
  | inr started =>
      obtain ⟨high, member, below⟩ := started.2.2.largest
      obtain ⟨other, listed, rfl⟩ := List.mem_map.mp member
      exact below.trans (range other listed).1

theorem weights_fit (alphaPct : Nat) {rawX100 ewmaX100 : Nat} (raw : rawX100 ≤ 10000)
    (ewma : ewmaX100 ≤ 10000) :
    min alphaPct 100 * rawX100 + (100 - min alphaPct 100) * ewmaX100 ≤ u32Max := by
  have share : min alphaPct 100 ≤ 100 := Nat.min_le_right _ _
  have whole := blend_const share 10000
  have sampled := Nat.mul_le_mul_left (min alphaPct 100) raw
  have kept := Nat.mul_le_mul_left (100 - min alphaPct 100) ewma
  unfold u32Max
  omega

/-- Nothing wraps, so the average of the next sample is a blend. -/
theorem nextEwmaX100_started (valid : run.metric.valid = true)
    (stamped : run.metric.sampleTsNs ≠ 0) (raw : sample.rawX100 ≤ 10000)
    (ewma : run.metric.ewmaX100 ≤ 10000) :
    nextEwmaX100 run.metric sample.rawX100 cfg =
      blend 100 (min cfg.alphaPct 100) run.metric.ewmaX100 sample.rawX100 := by
  have fits := weights_fit cfg.alphaPct raw ewma
  have first := (Nat.le_add_right _ _).trans fits
  have second := (Nat.le_add_left _ _).trans fits
  have later : (!run.metric.valid || run.metric.sampleTsNs == 0) = false := by
    simp [valid, stamped]
  unfold nextEwmaX100 blend
  dsimp only
  rw [later, if_neg Bool.false_ne_true, wrapMul32_of_le first, wrapMul32_of_le second,
    wrapAdd32_of_le fits]

theorem MetricInvariant.nextEwma_within (holds : MetricInvariant cfg samples run)
    (range : SamplesInRange (samples ++ [sample])) :
    WithinSamples ((samples ++ [sample]).map (·.rawX100))
      (nextEwmaX100 run.metric sample.rawX100 cfg) := by
  have before : SamplesInRange samples := fun other listed =>
    range other (List.mem_append_left _ listed)
  have own := range sample (List.mem_append_right _ List.mem_cons_self)
  rw [List.map_append, List.map_singleton]
  cases holds.average with
  | inl none =>
      rw [none.2]
      exact withinSamples_of_mem (List.mem_append_right _ List.mem_cons_self)
  | inr started =>
      obtain ⟨valid, stamped, within⟩ := started
      rw [nextEwmaX100_started valid stamped own.1 (holds.ewma_le before)]
      exact within.blend (by decide) (Nat.min_le_right _ _) _

theorem MetricInvariant.step (holds : MetricInvariant cfg samples run)
    (hotFits : cfg.hotPersist ≤ u32Max) (coolFits : cfg.coolPersist ≤ u32Max)
    (range : SamplesInRange (samples ++ [sample])) :
    MetricInvariant cfg (samples ++ [sample]) (run.step cfg sample) := by
  refine { hot := ?_, cool := ?_, average := .inr ⟨updateMetric_valid, ?_, ?_⟩ }
  · rw [step_bands, List.map_append, MetricRun.step, updateMetric_hotCount]
    exact holds.hot.step hotFits _
  · rw [step_bands, List.map_append, MetricRun.step, updateMetric_coolCount]
    exact holds.cool.step coolFits _
  · rw [MetricRun.step, updateMetric_sampleTsNs]
    exact (range sample (List.mem_append_right _ List.mem_cons_self)).2
  · rw [step_ewmaX100]
    exact holds.nextEwma_within range

theorem metricRun_append (samples : List Sample) (sample : Sample) :
    metricRun cfg (samples ++ [sample]) = (metricRun cfg samples).step cfg sample := by
  unfold metricRun
  rw [List.foldl_append]
  rfl

theorem metricRun_invariant (hotFits : cfg.hotPersist ≤ u32Max)
    (coolFits : cfg.coolPersist ≤ u32Max) (range : SamplesInRange samples) :
    MetricInvariant cfg samples (metricRun cfg samples) := by
  induction samples using List.reverseRecOn with
  | nil => exact ⟨countsSince_nil _, countsSince_nil _, .inl ⟨rfl, rfl⟩⟩
  | append_singleton before sample ih =>
      have holds := ih fun other listed => range other (List.mem_append_left _ listed)
      rw [metricRun_append]
      exact holds.step hotFits coolFits range

/-- The state that a sample sets, from the history instead of the counters. -/
theorem MetricInvariant.state_step (holds : MetricInvariant cfg samples run)
    (hotPersist : 1 ≤ cfg.hotPersist ∧ cfg.hotPersist ≤ u32Max)
    (coolPersist : 1 ≤ cfg.coolPersist ∧ cfg.coolPersist ≤ u32Max) (sample : Sample) :
    (run.step cfg sample).metric.state =
      settle cfg (run.step cfg sample).bands (run.step cfg sample).metric.ewmaX100
        run.metric.state := by
  have hotReached := holds.hot.persist_iff hotPersist.1 hotPersist.2
  have coolReached := holds.cool.persist_iff coolPersist.1 coolPersist.2
  rw [step_bands, step_ewmaX100, MetricRun.step, updateMetric_state, settle, hotSince, coolSince,
    List.map_append, List.map_append]
  generalize nextEwmaX100 run.metric sample.rawX100 cfg = ewmaX100
  by_cases hot : ewmaX100 ≥ cfg.hotPctX100
  · have band : cfg.band ewmaX100 = .hot := if_pos hot
    rw [band]
    simp only [hot, not_lt.mpr hot, true_and, false_and, if_false]
    exact if_congr hotReached rfl rfl
  · by_cases cool : ewmaX100 ≤ cfg.coolPctX100
    · have band : cfg.band ewmaX100 = .cool := (if_neg hot).trans (if_pos cool)
      rw [band]
      simp only [hot, not_le.mp hot, cool, true_and, false_and, if_false]
      exact if_congr coolReached rfl rfl
    · have band : cfg.band ewmaX100 = .dead := (if_neg hot).trans (if_neg cool)
      rw [band]
      simp only [hot, cool, false_and, and_false, if_false]

theorem dead_step (dead : cfg.band (run.step cfg sample).metric.ewmaX100 = .dead) :
    KeepsProgress cfg.hotPersist run.metric.hotCount (run.step cfg sample).metric.hotCount ∧
      KeepsProgress cfg.coolPersist run.metric.coolCount (run.step cfg sample).metric.coolCount ∧
      hotSince (run.step cfg sample).bands = hotSince run.bands ∧
      coolSince (run.step cfg sample).bands = coolSince run.bands := by
  rw [step_ewmaX100] at dead
  rw [step_bands, dead, hotSince, coolSince, List.map_append, List.map_append, MetricRun.step,
    updateMetric_hotCount, updateMetric_coolCount, dead]
  have hot := countEvidence_neither u32Max cfg.hotPersist run.metric.hotCount
  have cool := countEvidence_neither u32Max cfg.coolPersist run.metric.coolCount
  exact ⟨⟨hot.1, hot.2⟩, ⟨cool.1, cool.2⟩, evidenceSince_neither _, evidenceSince_neither _⟩

/-- From the default metric on, every sample sets the state that its band and the
history of bands ask for, a sample in between keeps the progress of both counters, and
the average stays within the samples, without an overflow. -/
theorem metricRun_hysteresis (cfg : FilterConfig)
    (hotPersist : 1 ≤ cfg.hotPersist ∧ cfg.hotPersist ≤ u32Max)
    (coolPersist : 1 ≤ cfg.coolPersist ∧ cfg.coolPersist ≤ u32Max)
    (samples : List Sample) (sample : Sample) (range : SamplesInRange (samples ++ [sample])) :
    MetricStep cfg samples sample (metricRun cfg samples) (metricRun cfg (samples ++ [sample])) := by
  have before : SamplesInRange samples := fun other listed =>
    range other (List.mem_append_left _ listed)
  have own := range sample (List.mem_append_right _ List.mem_cons_self)
  have holds := metricRun_invariant hotPersist.2 coolPersist.2 before
  rw [metricRun_append]
  refine
    { state := holds.state_step hotPersist coolPersist sample
      dead := dead_step
      within := ?_
      fits := weights_fit cfg.alphaPct own.1 (holds.ewma_le before) }
  rw [step_ewmaX100]
  exact holds.nextEwma_within range

end Runs

/-! Three samples of 80.00 percent turn a metric hot. -/

def plainFilter : FilterConfig where
  alphaPct := 30
  hotPctX100 := 7000
  coolPctX100 := 5500
  hotPersist := 3
  coolPersist := 3

theorem metricRun_hysteresis_third :
    (metricRun plainFilter [⟨8000, 1000⟩, ⟨8000, 1001⟩, ⟨8000, 2000⟩]).metric.state =
      settle plainFilter [.hot, .hot, .hot] 8000 .cool := by
  have range : SamplesInRange [⟨8000, 1000⟩, ⟨8000, 1001⟩, ⟨8000, 2000⟩] := by
    intro sample member
    fin_cases member <;> exact ⟨by decide, by decide⟩
  exact (metricRun_hysteresis plainFilter (by decide) (by decide) [⟨8000, 1000⟩, ⟨8000, 1001⟩]
    ⟨8000, 2000⟩ range).state

end CSwitch.Filter
