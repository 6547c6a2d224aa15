import CSwitch.Bpf.SamplingRuns
import CSwitch.Library.FoldPrefix
import CSwitch.Library.MovingAverage

/-! The moving averages against the samples that they are taken over. One field
tells the first sample of all of them, and they are not all sampled first at the
same time: an average that joins later starts from zero. -/

set_option autoImplicit false

namespace CSwitch.Bpf

open Library

inductive Metric where
  | fill (idx : Fin memSourceCount)
  | ipc
  | stallPct
  deriving DecidableEq, Fintype

def SliceMetrics.last (metrics : SliceMetrics) : Metric → Nat
  | .fill idx => metrics.lastFillBwMibSX100.get idx
  | .ipc => metrics.lastIpcX1000
  | .stallPct => metrics.lastStallPctX100

def SliceMetrics.ewma (metrics : SliceMetrics) : Metric → Nat
  | .fill idx => metrics.ewmaFillBwMibSX100.get idx
  | .ipc => metrics.ewmaIpcX1000
  | .stallPct => metrics.ewmaStallPctX100

/-! ## Samples -/

section Samples

variable (perf : PerfEvents) (tctx : SampleCtx) (now : Nat)

/-- The slice has a start, a CPU and the least length. -/
def SliceMeasured : Prop :=
  tctx.runStartNs ≠ 0 ∧ 0 ≤ tctx.currentCpu ∧ minValidRunNs ≤ wrapSub64 now tctx.runStartNs

instance : Decidable (SliceMeasured tctx now) := inferInstanceAs (Decidable (_ ∧ _ ∧ _))

instance (idx : Fin memSourceCount) : Decidable (SourceReads perf tctx idx) :=
  decidable_of_iff ((perf.readFillCounter (asU32 tctx.currentCpu) idx).any
    fun counter => decide (tctx.runStartFillCtr.get idx ≤ counter)) (by
      simp only [SourceReads, Option.any_eq_true, decide_eq_true_eq])

/-- The loop over the sources records this one. -/
def SourceRecorded (idx : Fin memSourceCount) : Prop :=
  tctx.runStartFillValidMask = fillValidMask ∧ ∀ earlier ≤ idx, SourceReads perf tctx earlier

instance (idx : Fin memSourceCount) : Decidable (SourceRecorded perf tctx idx) :=
  inferInstanceAs (Decidable (_ ∧ _))

/-- The loop over the sources returns early. -/
def FillTorn : Prop :=
  tctx.runStartFillValidMask = fillValidMask ∧ ∃ failing, ¬ SourceReads perf tctx failing

instance : Decidable (FillTorn perf tctx) := inferInstanceAs (Decidable (_ ∧ _))

/-- The instructions and cycles of the slice, where both counters can be read, did
not fall, and the cycles advanced. -/
def stallDeltas : Option (Nat × Nat) :=
  if tctx.runStartStallValidMask ≠ stallCounterValidMask then none
  else do
    let instCtr ← perf.readInstructionsCounter (asU32 tctx.currentCpu)
    let cycleCtr ← perf.readCpuCyclesCounter (asU32 tctx.currentCpu)
    if instCtr < tctx.runStartInstCtr ∨ cycleCtr ≤ tctx.runStartCycleCtr then none
    else some (instCtr - tctx.runStartInstCtr, cycleCtr - tctx.runStartCycleCtr)

def ipcOf (deltas : Nat × Nat) : Nat := wrapMul64 deltas.1 1000 / deltas.2

def ipcSample (deltas : Nat × Nat) : Nat := min (ipcOf deltas) u32Max

def stallSample (deltas : Nat × Nat) : Nat :=
  (stallIpcCapX1000 - min (ipcOf deltas) stallIpcCapX1000) * 10000 / stallIpcCapX1000

/-- The sample of a metric after the loop over the sources. -/
def stageSample (metric : Metric) : Option Nat :=
  match metric with
  | .fill _ => none
  | .ipc => (stallDeltas perf tctx).map ipcSample
  | .stallPct => (stallDeltas perf tctx).map stallSample

/-- The sample of a metric in a slice that is measured. -/
def sliceSample (metric : Metric) : Option Nat :=
  match metric with
  | .fill idx =>
      if SourceRecorded perf tctx idx then
        some (sourceLast perf tctx (wrapSub64 now tctx.runStartNs) idx)
      else none
  | .ipc => if FillTorn perf tctx then none else stageSample perf tctx .ipc
  | .stallPct => if FillTorn perf tctx then none else stageSample perf tctx .stallPct

/-- The sample of a metric that the end of a slice records. -/
def recordedSample (metric : Metric) : Option Nat :=
  if SliceMeasured tctx now then sliceSample perf tctx now metric else none

end Samples

/-- A metric takes what is recorded, and is left alone where nothing is. -/
structure Records (firstSample : Bool) (before after : SliceMetrics) (metric : Metric)
    (recorded : Option Nat) : Prop where
  last : after.last metric = recorded.getD (before.last metric)
  ewma : after.ewma metric = recorded.elim (before.ewma metric)
    (ewmaNext firstSample (before.ewma metric))

section Recording

variable {perf : PerfEvents} {tctx filled : SampleCtx} {firstSample : Bool}

theorem Records.unchanged {before after : SliceMetrics} {metric : Metric}
    (last : after.last metric = before.last metric) (ewma : after.ewma metric = before.ewma metric) :
    Records firstSample before after metric none := ⟨last, ewma⟩

/-- What the stall counters write once they have passed. -/
def SampleCtx.writeStall (tctx : SampleCtx) (firstSample : Bool) (deltas : Nat × Nat) : SampleCtx :=
  { tctx with
    lastIpcX1000 := ipcSample deltas
    lastStallPctX100 := stallSample deltas
    ewmaIpcX1000 := ewmaNext firstSample tctx.ewmaIpcX1000 (ipcSample deltas)
    ewmaStallPctX100 := ewmaNext firstSample tctx.ewmaStallPctX100 (stallSample deltas) }

theorem sampleStall_eq (perf : PerfEvents) (tctx : SampleCtx) (firstSample : Bool) :
    sampleStall perf tctx firstSample =
      (stallDeltas perf tctx).map (tctx.writeStall firstSample) := by
  unfold sampleStall stallDeltas
  split
  · rfl
  · cases perf.readInstructionsCounter (asU32 tctx.currentCpu) with
    | none => rfl
    | some instCtr =>
        cases perf.readCpuCyclesCounter (asU32 tctx.currentCpu) with
        | none => exact ite_self _
        | some cycleCtr =>
            simp only [Option.bind_eq_bind, Option.bind_some]
            by_cases fell : instCtr < tctx.runStartInstCtr
            · rw [if_pos fell, if_pos (.inl fell)]
              rfl
            · rw [if_neg fell]
              by_cases stood : cycleCtr ≤ tctx.runStartCycleCtr
              · have stops : instCtr < tctx.runStartInstCtr ∨ cycleCtr ≤ tctx.runStartCycleCtr :=
                  .inr stood
                rw [if_pos stops, if_pos (Nat.sub_eq_zero_of_le stood)]
                exact ite_self _
              · have passes : ¬(instCtr < tctx.runStartInstCtr ∨ cycleCtr ≤ tctx.runStartCycleCtr) :=
                  not_or.mpr ⟨fell, stood⟩
                rw [if_neg passes, if_neg (by omega), if_neg (by omega)]
                rfl

theorem records_sampleStall (perf : PerfEvents) (filled : SampleCtx) (firstSample updated : Bool)
    (now : Nat) (metric : Metric) :
    Records firstSample filled.metrics
      (match sampleStall perf filled firstSample with
        | none => finishSample updated filled now
        | some stalled => finishSample true stalled now).2.metrics metric
      (stageSample perf filled metric) := by
  rw [sampleStall_eq]
  unfold stageSample
  cases stallDeltas perf filled with
  | none => cases updated <;> cases metric <;> exact ⟨rfl, rfl⟩
  | some deltas => cases metric <;> exact ⟨rfl, rfl⟩

theorem Records.after_unchanged {before middle after : SliceMetrics} {metric : Metric}
    {recorded : Option Nat} (unchanged : Records firstSample before middle metric none)
    (records : Records firstSample middle after metric recorded) :
    Records firstSample before after metric recorded := by
  have last : middle.last metric = before.last metric := unchanged.last
  have ewma : middle.ewma metric = before.ewma metric := unchanged.ewma
  constructor
  · rw [← last]
    exact records.last
  · rw [← ewma]
    exact records.ewma

theorem Records.before_unchanged {before middle after : SliceMetrics} {metric : Metric}
    {recorded : Option Nat} (records : Records firstSample before middle metric recorded)
    (unchanged : Records firstSample middle after metric none) :
    Records firstSample before after metric recorded :=
  ⟨unchanged.last.trans records.last, unchanged.ewma.trans records.ewma⟩

variable {deltaNs : Nat} {done : List (Fin memSourceCount)} {sample : FillSample}

theorem SourcesWritten.records_fill
    (written : SourcesWritten perf tctx deltaNs firstSample done sample) (idx : Fin memSourceCount) :
    Records firstSample tctx.metrics sample.tctx.metrics (.fill idx)
      (if idx ∈ done then some (sourceLast perf tctx deltaNs idx) else none) := by
  have last : sample.tctx.metrics.last (.fill idx) = _ := written.last idx
  have ewma : sample.tctx.metrics.ewma (.fill idx) = _ := written.ewma idx
  by_cases member : idx ∈ done
  · rw [if_pos member] at last ewma ⊢
    constructor
    · rw [last, Option.getD_some]
    · rw [ewma, Option.elim_some, sourceEwma]
      rfl
  · rw [if_neg member] at last ewma ⊢
    exact .unchanged last ewma

/-- The sources leave what the stall counters read and write. -/
theorem SourcesWritten.stall_frame
    (written : SourcesWritten perf tctx deltaNs firstSample done sample) :
    stallDeltas perf sample.tctx = stallDeltas perf tctx ∧
      Records firstSample tctx.metrics sample.tctx.metrics .ipc none ∧
      Records firstSample tctx.metrics sample.tctx.metrics .stallPct none := by
  obtain ⟨lastFill, ewmaFill, frame⟩ := written.frame
  rw [frame]
  exact ⟨rfl, ⟨rfl, rfl⟩, ⟨rfl, rfl⟩⟩

/-- The sources before the one that fails are those that are recorded. -/
theorem sourceRecorded_iff_lt (counted : tctx.runStartFillValidMask = fillValidMask)
    {failing : Fin memSourceCount} (before : ∀ idx < failing, SourceReads perf tctx idx)
    (fails : ¬ SourceReads perf tctx failing) (idx : Fin memSourceCount) :
    SourceRecorded perf tctx idx ↔ idx < failing := by
  constructor
  · intro recorded
    by_contra later
    exact fails (recorded.2 failing (not_lt.mp later))
  · intro less
    exact ⟨counted, fun earlier order => before earlier (lt_of_le_of_lt order less)⟩

theorem sliceSample_uncounted (missing : tctx.runStartFillValidMask ≠ fillValidMask) (now : Nat)
    (metric : Metric) : sliceSample perf tctx now metric = stageSample perf tctx metric := by
  cases metric with
  | fill idx => exact if_neg fun recorded => missing recorded.1
  | ipc => exact if_neg fun torn => missing torn.1
  | stallPct => exact if_neg fun torn => missing torn.1

/-- An early return has recorded the sources before the one that fails. -/
theorem SourcesWritten.records_torn {now : Nat} {failing : Fin memSourceCount}
    (written : SourcesWritten perf tctx (wrapSub64 now tctx.runStartNs) firstSample done sample)
    (counted : tctx.runStartFillValidMask = fillValidMask)
    (before : ∀ idx, idx ∈ done ↔ idx < failing) (fails : ¬ SourceReads perf tctx failing)
    (metric : Metric) :
    Records firstSample tctx.metrics sample.tctx.metrics metric (sliceSample perf tctx now metric) := by
  have torn : FillTorn perf tctx := ⟨counted, failing, fails⟩
  obtain ⟨_, ipc, stallPct⟩ := written.stall_frame
  cases metric with
  | fill idx =>
      have reads : ∀ idx < failing, SourceReads perf tctx idx := fun idx less =>
        written.reads idx ((before idx).mpr less)
      have same := (sourceRecorded_iff_lt counted reads fails idx).trans (before idx).symm
      rw [sliceSample, if_congr same rfl rfl]
      exact written.records_fill idx
  | ipc =>
      rw [sliceSample, if_pos torn]
      exact ipc
  | stallPct =>
      rw [sliceSample, if_pos torn]
      exact stallPct

/-- A loop that runs through records all sources, and the stall counters follow. -/
theorem SourcesWritten.records_filled {now : Nat}
    (written : SourcesWritten perf tctx (wrapSub64 now tctx.runStartNs) firstSample
      (List.finRange memSourceCount) sample)
    (counted : tctx.runStartFillValidMask = fillValidMask) (lastL2 ewmaL2 : Nat) (metric : Metric)
    {after : SliceMetrics}
    (stage : Records firstSample
      { sample.tctx with lastL2BwMibSX100 := lastL2, ewmaL2BwMibSX100 := ewmaL2 }.metrics after metric
      (stageSample perf
        { sample.tctx with lastL2BwMibSX100 := lastL2, ewmaL2BwMibSX100 := ewmaL2 } metric)) :
    Records firstSample tctx.metrics after metric (sliceSample perf tctx now metric) := by
  have reads : ∀ idx, SourceReads perf tctx idx := fun idx => written.reads idx (List.mem_finRange idx)
  have whole : ¬ FillTorn perf tctx := fun ⟨_, failing, fails⟩ => fails (reads failing)
  obtain ⟨deltas, ipc, stallPct⟩ := written.stall_frame
  cases metric with
  | fill idx =>
      have filled := written.records_fill idx
      rw [if_pos (List.mem_finRange idx)] at filled
      rw [sliceSample, if_pos ⟨counted, fun earlier _ => reads earlier⟩]
      exact filled.before_unchanged ⟨stage.last, stage.ewma⟩
  | ipc =>
      rw [sliceSample, if_neg whole, stageSample, ← deltas]
      exact ipc.after_unchanged ⟨stage.last, stage.ewma⟩
  | stallPct =>
      rw [sliceSample, if_neg whole, stageSample, ← deltas]
      exact stallPct.after_unchanged ⟨stage.last, stage.ewma⟩

theorem sampleSliceMetrics_unmeasured {now : Nat} (unmeasured : ¬ SliceMeasured tctx now) :
    sampleSliceMetrics perf tctx now = (false, tctx) := by
  unfold sampleSliceMetrics
  split
  · rfl
  next running =>
    obtain ⟨started, placed⟩ := not_or.mp running
    dsimp only
    split
    · rfl
    next long => exact absurd ⟨started, Int.not_lt.mp placed, Nat.not_lt.mp long⟩ unmeasured

theorem sampleSliceMetrics_measured {now : Nat} (measured : SliceMeasured tctx now) :
    sampleSliceMetrics perf tctx now =
      match sampleFill perf tctx (wrapSub64 now tctx.runStartNs) (tctx.lastUpdateNs == 0) with
      | .error torn => (false, torn)
      | .ok (updated, filled) =>
          match sampleStall perf filled (tctx.lastUpdateNs == 0) with
          | none => finishSample updated filled now
          | some stalled => finishSample true stalled now := by
  obtain ⟨started, placed, long⟩ := measured
  unfold sampleSliceMetrics
  rw [if_neg (not_or.mpr ⟨started, Int.not_lt.mpr placed⟩)]
  exact if_neg (Nat.not_lt.mpr long)

/-- A call records the samples of the slice, and nothing else. -/
theorem sampleSliceMetrics_records (perf : PerfEvents) (tctx : SampleCtx) (now : Nat)
    (metric : Metric) :
    Records (tctx.lastUpdateNs == 0) tctx.metrics (sampleSliceMetrics perf tctx now).2.metrics metric
      (recordedSample perf tctx now metric) := by
  by_cases measured : SliceMeasured tctx now
  · have recorded : recordedSample perf tctx now metric = sliceSample perf tctx now metric :=
      if_pos measured
    have loop := sampleFill_outcome perf tctx (wrapSub64 now tctx.runStartNs)
      (tctx.lastUpdateNs == 0)
    rw [recorded, sampleSliceMetrics_measured measured]
    revert loop
    generalize sampleFill perf tctx (wrapSub64 now tctx.runStartNs) (tctx.lastUpdateNs == 0) = result
    intro loop
    cases loop with
    | uncounted missing =>
        rw [sliceSample_uncounted missing]
        exact records_sampleStall perf tctx _ false now metric
    | torn counted before written fails => exact written.records_torn counted before fails metric
    | filled counted written =>
        apply written.records_filled counted
        exact records_sampleStall perf _ _ true now metric
  · have recorded : recordedSample perf tctx now metric = none := if_neg measured
    rw [recorded, sampleSliceMetrics_unmeasured measured]
    exact .unchanged rfl rfl

end Recording

/-! ## Runs -/

def zeroedTaskCtx : SampleCtx := { currentCpu := 0, currentDomain := 0 }

/-- The sample of a metric that a callback records. -/
def TaskCall.recorded (cfg : TickConfig) (cpuDomainMap : List Nat) (tctx : SampleCtx) (call : TaskCall)
    (metric : Metric) : Option Nat :=
  match call.hook with
  | .stopping cpu perf =>
      if call.ignored cfg then none
      else recordedSample perf (tctx.beforeSample cpuDomainMap cpu call.now) call.now metric
  | _ => none

/-- A run with the samples that it has recorded. -/
structure SampledRun where
  run : TaskRun := { tctx := zeroedTaskCtx }
  samples : Metric → List Nat := fun _ => []

def sampledStep (cfg : TickConfig) (cpuDomainMap : List Nat) (state : SampledRun) (call : TaskCall) :
    SampledRun where
  run := taskStep cfg cpuDomainMap state.run call
  samples metric :=
    state.samples metric ++ (call.recorded cfg cpuDomainMap state.run.tctx metric).toList

def sampledRun (cfg : TickConfig) (cpuDomainMap : List Nat) (calls : List TaskCall) : SampledRun :=
  calls.foldl (sampledStep cfg cpuDomainMap) {}

def SampledRun.ewma (state : SampledRun) (metric : Metric) : Nat :=
  state.run.tctx.metrics.ewma metric

/-- An average that has been recorded lies within its samples. -/
def MetricsWithin (state : SampledRun) : Prop :=
  ∀ metric, state.samples metric ≠ [] → WithinSamples (state.samples metric) (state.ewma metric)

/-- The first sample of a metric, unless it is zero, comes before the context has
been updated. -/
def StartsFresh (cfg : TickConfig) (cpuDomainMap : List Nat) (state : SampledRun) (call : TaskCall) :
    Prop :=
  ∀ metric sample, call.recorded cfg cpuDomainMap state.run.tctx metric = some sample →
    state.samples metric = [] → sample = 0 ∨ state.run.tctx.lastUpdateNs = 0

section Runs

variable {cfg : TickConfig} {cpuDomainMap : List Nat}

theorem Records.of_eq {firstSample : Bool} {before after : SliceMetrics} (same : after = before)
    (metric : Metric) : Records firstSample before after metric none := by
  rw [same]
  exact .unchanged rfl rfl

theorem metrics_unlessIgnored {state : TaskRun} {tctx : SampleCtx} (ignored : Bool)
    (same : tctx.metrics = state.tctx.metrics) :
    (state.unlessIgnored ignored tctx).tctx.metrics = state.tctx.metrics := by
  cases ignored with
  | false => exact same
  | true => rfl

/-- Only the end of a slice records samples. -/
theorem taskStep_records (cfg : TickConfig) (cpuDomainMap : List Nat) (state : TaskRun)
    (call : TaskCall) (metric : Metric) :
    Records (state.tctx.lastUpdateNs == 0) state.tctx.metrics
      (taskStep cfg cpuDomainMap state call).tctx.metrics metric
      (call.recorded cfg cpuDomainMap state.tctx metric) := by
  unfold taskStep TaskCall.recorded
  cases call.hook with
  | runnable =>
      apply Records.of_eq
      exact metrics_unlessIgnored _ rfl
  | running cpu perf =>
      apply Records.of_eq
      exact metrics_unlessIgnored _ (metrics_rustlandRunning cpuDomainMap cpu perf call.now state.tctx)
  | stopping cpu perf =>
      dsimp only
      cases call.ignored cfg with
      | true => exact .of_eq rfl metric
      | false =>
          exact sampleSliceMetrics_records perf
            (state.tctx.beforeSample cpuDomainMap cpu call.now) call.now metric
  | tick =>
      apply Records.of_eq
      exact metrics_rustlandTick cfg call.maps call.task.toTaskStruct state.tctx call.now
  | queued enqFlags prevCpu trigger reserved =>
      apply Records.of_eq
      exact metrics_queueTaskToUserspace cpuDomainMap call.task enqFlags prevCpu trigger reserved
        state.tctx
  | dispatched tickHoldoff => exact .of_eq rfl metric

theorem sampledRun_append (calls : List TaskCall) (call : TaskCall) :
    sampledRun cfg cpuDomainMap (calls ++ [call]) =
      sampledStep cfg cpuDomainMap (sampledRun cfg cpuDomainMap calls) call :=
  List.foldl_append

/-- What a step adds to the samples of a metric is what it averages. -/
theorem sampledStep_cases (cfg : TickConfig) (cpuDomainMap : List Nat) (state : SampledRun)
    (call : TaskCall) (metric : Metric) :
    let next := sampledStep cfg cpuDomainMap state call
    (call.recorded cfg cpuDomainMap state.run.tctx metric = none ∧
      next.samples metric = state.samples metric ∧ next.ewma metric = state.ewma metric) ∨
    ∃ sample, call.recorded cfg cpuDomainMap state.run.tctx metric = some sample ∧
      next.samples metric = state.samples metric ++ [sample] ∧
      next.ewma metric =
        ewmaNext (state.run.tctx.lastUpdateNs == 0) (state.ewma metric) sample := by
  intro next
  have records := (taskStep_records cfg cpuDomainMap state.run call metric).ewma
  have samples : next.samples metric = state.samples metric ++
    (call.recorded cfg cpuDomainMap state.run.tctx metric).toList := rfl
  cases recorded : call.recorded cfg cpuDomainMap state.run.tctx metric with
  | none =>
      rw [recorded] at records samples
      exact .inl ⟨rfl, samples.trans (List.append_nil _), records⟩
  | some sample =>
      rw [recorded] at records samples
      exact .inr ⟨sample, rfl, samples, records⟩

/-- A metric that has not been recorded is as the zeroed context has it. -/
theorem ewma_sampledRun_unrecorded (calls : List TaskCall) (metric : Metric)
    (unrecorded : (sampledRun cfg cpuDomainMap calls).samples metric = []) :
    (sampledRun cfg cpuDomainMap calls).ewma metric = 0 := by
  induction calls using List.reverseRecOn with
  | nil =>
      cases metric with
      | fill idx => exact Vector.getElem_replicate idx.isLt
      | ipc => rfl
      | stallPct => rfl
  | append_singleton calls call ih =>
      rw [sampledRun_append] at unrecorded ⊢
      rcases sampledStep_cases cfg cpuDomainMap (sampledRun cfg cpuDomainMap calls) call metric with
        ⟨_, samples, ewma⟩ | ⟨sample, _, samples, _⟩
      · rw [ewma, ih (samples.symm.trans unrecorded)]
      · rw [samples] at unrecorded
        exact absurd unrecorded (List.append_ne_nil_of_right_ne_nil _ (List.cons_ne_nil _ _))

/-- Samples are never taken back. -/
theorem mem_samples_sampledRun {done calls : List TaskCall} (reached : done <+: calls)
    {metric : Metric} {sample : Nat}
    (member : sample ∈ (sampledRun cfg cpuDomainMap done).samples metric) :
    sample ∈ (sampledRun cfg cpuDomainMap calls).samples metric := by
  obtain ⟨rest, rfl⟩ := reached
  induction rest using List.reverseRecOn with
  | nil =>
      rw [List.append_nil]
      exact member
  | append_singleton rest call ih =>
      rw [← List.append_assoc, sampledRun_append]
      exact List.mem_append_left _ ih

/-- An average below the limit of the samples does not wrap. -/
theorem ewmaNext_later {ewma sample : Nat} (smallEwma : ewma < 2 ^ 29) (small : sample < 2 ^ 29) :
    ewmaNext false ewma sample = average 7 ewma sample := by
  unfold ewmaNext u32Max average
  rw [if_neg Bool.false_ne_true, Nat.mod_eq_of_lt (by omega)]

/-- The next average lies within its samples, unless it is the first of a metric
and does not start it. -/
theorem withinSamples_ewmaNext_iff {samples : List Nat} {ewma sample : Nat} (firstSample : Bool)
    (start : samples = [] → ewma = 0) (within : samples ≠ [] → WithinSamples samples ewma)
    (small : ∀ value ∈ samples ++ [sample], value < 2 ^ 29) :
    WithinSamples (samples ++ [sample]) (ewmaNext firstSample ewma sample) ↔
      (samples = [] → sample = 0 ∨ firstSample = true) := by
  have new : sample ∈ samples ++ [sample] := List.mem_append_right samples List.mem_cons_self
  cases firstSample with
  | true => exact iff_of_true (withinSamples_of_mem new) fun _ => .inr rfl
  | false =>
      by_cases unrecorded : samples = []
      · obtain rfl := unrecorded
        obtain rfl := start rfl
        rw [ewmaNext_later (by decide) (small sample new)]
        constructor
        · intro later _
          obtain ⟨low, member, less⟩ := later.least
          obtain rfl := List.mem_singleton.mp member
          refine .inl (Nat.eq_zero_of_not_pos fun positive => ?_)
          exact absurd (average_zero_lt (by decide) positive) (Nat.not_lt.mpr less)
        · intro fresh
          obtain rfl := (fresh rfl).resolve_right Bool.false_ne_true
          rw [average_self]
          exact withinSamples_of_mem new
      · have past := within unrecorded
        obtain ⟨high, member, more⟩ := past.largest
        have smallHigh := small high (List.mem_append_left _ member)
        rw [ewmaNext_later (Nat.lt_of_le_of_lt more smallHigh) (small sample new)]
        exact iff_of_true (past.average 7 sample) fun none => absurd none unrecorded

theorem metricsWithin_sampledStep_iff {state : SampledRun} {call : TaskCall}
    (start : ∀ metric, state.samples metric = [] → state.ewma metric = 0)
    (within : MetricsWithin state)
    (small : ∀ metric, ∀ sample ∈ (sampledStep cfg cpuDomainMap state call).samples metric,
      sample < 2 ^ 29) :
    MetricsWithin (sampledStep cfg cpuDomainMap state call) ↔
      StartsFresh cfg cpuDomainMap state call := by
  refine forall_congr' fun metric => ?_
  have bounded := small metric
  rcases sampledStep_cases cfg cpuDomainMap state call metric with
    ⟨missing, samples, ewma⟩ | ⟨sample, recorded, samples, ewma⟩
  · rw [samples, ewma, missing]
    refine iff_of_true (within metric) fun sample impossible => ?_
    cases impossible
  · rw [samples] at bounded
    have next := withinSamples_ewmaNext_iff (state.run.tctx.lastUpdateNs == 0) (start metric)
      (within metric) bounded
    rw [beq_iff_eq] at next
    rw [samples, ewma, recorded]
    constructor
    · intro later other same
      obtain rfl := Option.some.inj same
      exact next.mp (later (List.append_ne_nil_of_right_ne_nil _ (List.cons_ne_nil _ _)))
    · intro fresh _
      exact next.mpr (fresh sample rfl)

end Runs

/-- The averages lie within their samples all along a run from a zeroed context
exactly when no metric records a first sample, other than zero, after the context
has been updated. -/
theorem sampledRun_metricsWithin_iff (cfg : TickConfig) (cpuDomainMap : List Nat)
    (calls : List TaskCall)
    (small : ∀ metric, ∀ sample ∈ (sampledRun cfg cpuDomainMap calls).samples metric,
      sample < 2 ^ 29) :
    (∀ done, done <+: calls → MetricsWithin (sampledRun cfg cpuDomainMap done)) ↔
      ∀ done call, done ++ [call] <+: calls →
        StartsFresh cfg cpuDomainMap (sampledRun cfg cpuDomainMap done) call := by
  apply foldl_prefixes_iff
  · intro metric recorded
    exact absurd rfl recorded
  · intro done call reached within
    refine metricsWithin_sampledStep_iff (ewma_sampledRun_unrecorded done) within ?_
    intro metric sample member
    apply small metric sample
    apply mem_samples_sampledRun reached
    rw [sampledRun_append]
    exact member

/-! A slice of one millisecond on CPU 0, with or without the stall counters. -/

def measuredSlice (start : Nat) (before after : PerfEvents) : List TaskCall :=
  [{ task := sampledTask, now := start, hook := .running 0 before },
    { task := sampledTask, now := start + 1000000, hook := .stopping 0 after }]

def fillPerf (counter : Nat) : PerfEvents := { steadyPerf counter with instructions := fun _ => none }

theorem sampledRun_metricsWithin_iff_steady :
    MetricsWithin (sampledRun sampledTick [0, 0]
      (measuredSlice 1000 (steadyPerf 0) (steadyPerf 1000))) := by
  refine (sampledRun_metricsWithin_iff sampledTick [0, 0]
    (measuredSlice 1000 (steadyPerf 0) (steadyPerf 1000)) (by decide +kernel)).mpr ?_ _
    (List.prefix_refl _)
  apply forall_snoc_prefix_pair
  · intro metric sample _ _
    exact .inr rfl
  · intro metric sample _ _
    exact .inr (by decide +kernel)

/-- The stall counters join in the second slice, and their averages start from zero. -/
theorem sampledRun_joins_late :
    ¬∀ (cfg : TickConfig) (cpuDomainMap : List Nat) (calls : List TaskCall),
      (∀ metric, ∀ sample ∈ (sampledRun cfg cpuDomainMap calls).samples metric,
        sample < 2 ^ 29) →
      ∀ done, done <+: calls → MetricsWithin (sampledRun cfg cpuDomainMap done) := by
  intro always
  have within := always sampledTick [0, 0]
    (measuredSlice 1000 (fillPerf 0) (fillPerf 1000) ++
      measuredSlice 2000000 (steadyPerf 1000) (steadyPerf 2000))
    (by decide +kernel) _ (List.prefix_refl _) .ipc (by decide +kernel)
  obtain ⟨low, member, less⟩ := within.least
  revert low
  decide +kernel

end CSwitch.Bpf
