import CSwitch.Bpf.Tick
import CSwitch.Library.FoldPrefix

/-! The bandwidth and stall sample at the end of a time slice. The loop over the
fill sources writes the context as it goes and may return in the middle; the
totals over the sources are written only after it. -/

set_option autoImplicit false

namespace CSwitch.Bpf

open Library

def minValidRunNs : Nat := 200000
def l2MibPerSecX100Scale : Nat := 6103516
def stallIpcCapX1000 : Nat := 4000
def stallCounterValidInst : Nat := 1
def stallCounterValidCycles : Nat := 2
def stallCounterValidMask : Nat := stallCounterValidInst ||| stallCounterValidCycles
def fillValidMask : Nat := 2 ^ memSourceCount - 1

/-- The fields of `struct task_ctx` besides those of the tick. -/
structure SampleCtx extends TaskCtx where
  startTs : Nat := 0
  stopTs : Nat := 0
  execRuntime : Nat := 0
  enqCnt : Nat := 0
  runStartNs : Nat := 0
  runStartFillCtr : Vector Nat memSourceCount := Vector.replicate memSourceCount 0
  runStartFillValidMask : Nat := 0
  runStartInstCtr : Nat := 0
  runStartCycleCtr : Nat := 0
  runStartStallValidMask : Nat := 0
  lastL2BwMibSX100 : Nat := 0
  lastFillBwMibSX100 : Vector Nat memSourceCount := Vector.replicate memSourceCount 0
  ewmaFillBwMibSX100 : Vector Nat memSourceCount := Vector.replicate memSourceCount 0
  lastIpcX1000 : Nat := 0
  ewmaIpcX1000 : Nat := 0
  lastStallPctX100 : Nat := 0
  ewmaStallPctX100 : Nat := 0
  lastUpdateNs : Nat := 0

/-- What `bpf_perf_event_read_value` answers for each counter map, CPU by CPU. -/
structure PerfEvents where
  localCcx : Nat → Option Nat
  nearCache : Nat → Option Nat
  dramNear : Nat → Option Nat
  instructions : Nat → Option Nat
  cpuCycles : Nat → Option Nat

/-! ## Counters -/

def readCounter (events : Nat → Option Nat) (cpu : Nat) : Option Nat :=
  if cpu ≥ maxCpus then none else events cpu

namespace PerfEvents

variable (perf : PerfEvents)

def readLocalCcxCounter (cpu : Nat) : Option Nat := readCounter perf.localCcx cpu
def readNearCacheCounter (cpu : Nat) : Option Nat := readCounter perf.nearCache cpu
def readDramNearCounter (cpu : Nat) : Option Nat := readCounter perf.dramNear cpu
def readInstructionsCounter (cpu : Nat) : Option Nat := readCounter perf.instructions cpu
def readCpuCyclesCounter (cpu : Nat) : Option Nat := readCounter perf.cpuCycles cpu

def readFillCounter (cpu sourceIdx : Nat) : Option Nat :=
  match sourceIdx with
  | 0 => perf.readLocalCcxCounter cpu
  | 1 => perf.readNearCacheCounter cpu
  | 2 => perf.readDramNearCounter cpu
  | _ => none

end PerfEvents

/-- `u64` subtraction, which wraps. -/
def wrapSub64 (left right : Nat) : Nat := (left + (u64Max + 1) - right) % (u64Max + 1)

/-- `(u32)((delta_ctr * L2_MIB_PER_SEC_X100_SCALE) / delta_ns)`. -/
def sliceBandwidth (deltaCtr deltaNs : Nat) : Nat :=
  wrapMul64 deltaCtr l2MibPerSecX100Scale / deltaNs % (u32Max + 1)

/-- An EWMA in `u32` arithmetic; the first sample starts it. -/
def ewmaNext (firstSample : Bool) (ewma last : Nat) : Nat :=
  if firstSample then last else (ewma * 7 + last) % (u32Max + 1) / 8

/-! ## The fill sources -/

/-- The context and the totals after some sources of the loop. -/
structure FillSample where
  tctx : SampleCtx
  totalLast : Nat := 0
  totalEwma : Nat := 0

/-- The two stores of the loop for one source. -/
def SampleCtx.writeFill (tctx : SampleCtx) (idx : Fin memSourceCount) (last ewma : Nat) : SampleCtx :=
  { tctx with
    lastFillBwMibSX100 := tctx.lastFillBwMibSX100.set idx last
    ewmaFillBwMibSX100 := tctx.ewmaFillBwMibSX100.set idx ewma }

/-- One source of the loop. The early return leaves the context as it is. -/
def sampleFillSource (perf : PerfEvents) (deltaNs : Nat) (firstSample : Bool) (sample : FillSample)
    (idx : Fin memSourceCount) : Except SampleCtx FillSample :=
  match perf.readFillCounter (asU32 sample.tctx.currentCpu) idx with
  | none => .error sample.tctx
  | some counter =>
      if counter < sample.tctx.runStartFillCtr.get idx then .error sample.tctx
      else
        let deltaCtr := counter - sample.tctx.runStartFillCtr.get idx
        let last := sliceBandwidth deltaCtr deltaNs
        let ewma := ewmaNext firstSample (sample.tctx.ewmaFillBwMibSX100.get idx) last
        .ok {
          tctx := sample.tctx.writeFill idx last ewma
          totalLast := wrapAdd64 sample.totalLast last
          totalEwma := wrapAdd64 sample.totalEwma ewma }

def sampleFill (perf : PerfEvents) (tctx : SampleCtx) (deltaNs : Nat) (firstSample : Bool) :
    Except SampleCtx (Bool × SampleCtx) :=
  if tctx.runStartFillValidMask = fillValidMask then do
    let sample ← (List.finRange memSourceCount).foldlM (sampleFillSource perf deltaNs firstSample)
      { tctx }
    return (true, { sample.tctx with
      lastL2BwMibSX100 := min sample.totalLast u32Max
      ewmaL2BwMibSX100 := min sample.totalEwma u32Max })
  else .ok (false, tctx)

/-! ## The stall counters -/

/-- Both counters are read and checked before anything is written. -/
def sampleStall (perf : PerfEvents) (tctx : SampleCtx) (firstSample : Bool) : Option SampleCtx :=
  if tctx.runStartStallValidMask ≠ stallCounterValidMask then none
  else do
    let instCtr ← perf.readInstructionsCounter (asU32 tctx.currentCpu)
    if instCtr < tctx.runStartInstCtr then none
    else
      let cycleCtr ← perf.readCpuCyclesCounter (asU32 tctx.currentCpu)
      if cycleCtr < tctx.runStartCycleCtr then none
      else
        let deltaInst := instCtr - tctx.runStartInstCtr
        let deltaCycles := cycleCtr - tctx.runStartCycleCtr
        if deltaCycles = 0 then none
        else
          let ipcX1000 := wrapMul64 deltaInst 1000 / deltaCycles
          let clampedIpcX1000 := min ipcX1000 stallIpcCapX1000
          let lastIpc := min ipcX1000 u32Max
          let lastStall := (stallIpcCapX1000 - clampedIpcX1000) * 10000 / stallIpcCapX1000
          some { tctx with
            lastIpcX1000 := lastIpc
            lastStallPctX100 := lastStall
            ewmaIpcX1000 := ewmaNext firstSample tctx.ewmaIpcX1000 lastIpc
            ewmaStallPctX100 := ewmaNext firstSample tctx.ewmaStallPctX100 lastStall }

/-! ## The sample -/

def finishSample (updated : Bool) (tctx : SampleCtx) (now : Nat) : Bool × SampleCtx :=
  (updated, if updated then { tctx with lastUpdateNs := now } else tctx)

def sampleSliceMetrics (perf : PerfEvents) (tctx : SampleCtx) (now : Nat) : Bool × SampleCtx :=
  if tctx.runStartNs = 0 ∨ tctx.currentCpu < 0 then (false, tctx)
  else
    let deltaNs := wrapSub64 now tctx.runStartNs
    if deltaNs < minValidRunNs then (false, tctx)
    else
      let firstSample := tctx.lastUpdateNs == 0
      match sampleFill perf tctx deltaNs firstSample with
      | .error torn => (false, torn)
      | .ok (updated, filled) =>
          match sampleStall perf filled firstSample with
          | none => finishSample updated filled now
          | some stalled => finishSample true stalled now

/-! ## What a call writes -/

structure SliceMetrics where
  lastL2BwMibSX100 : Nat
  ewmaL2BwMibSX100 : Nat
  lastFillBwMibSX100 : Vector Nat memSourceCount
  ewmaFillBwMibSX100 : Vector Nat memSourceCount
  lastIpcX1000 : Nat
  ewmaIpcX1000 : Nat
  lastStallPctX100 : Nat
  ewmaStallPctX100 : Nat
  lastUpdateNs : Nat
  deriving DecidableEq

def SampleCtx.metrics (tctx : SampleCtx) : SliceMetrics where
  lastL2BwMibSX100 := tctx.lastL2BwMibSX100
  ewmaL2BwMibSX100 := tctx.ewmaL2BwMibSX100
  lastFillBwMibSX100 := tctx.lastFillBwMibSX100
  ewmaFillBwMibSX100 := tctx.ewmaFillBwMibSX100
  lastIpcX1000 := tctx.lastIpcX1000
  ewmaIpcX1000 := tctx.ewmaIpcX1000
  lastStallPctX100 := tctx.lastStallPctX100
  ewmaStallPctX100 := tctx.ewmaStallPctX100
  lastUpdateNs := tctx.lastUpdateNs

section Sources

variable (perf : PerfEvents) (tctx : SampleCtx)

/-- The counter of a source can be read and did not fall since the slice began. -/
def SourceReads (idx : Fin memSourceCount) : Prop :=
  ∃ counter, perf.readFillCounter (asU32 tctx.currentCpu) idx = some counter ∧
    tctx.runStartFillCtr.get idx ≤ counter

/-- The counts of a source in the slice. -/
def sourceDelta (idx : Fin memSourceCount) : Nat :=
  (perf.readFillCounter (asU32 tctx.currentCpu) idx).getD 0 - tctx.runStartFillCtr.get idx

variable (deltaNs : Nat) (firstSample : Bool)

def sourceLast (idx : Fin memSourceCount) : Nat := sliceBandwidth (sourceDelta perf tctx idx) deltaNs

def sourceEwma (idx : Fin memSourceCount) : Nat :=
  ewmaNext firstSample (tctx.ewmaFillBwMibSX100.get idx) (sourceLast perf tctx deltaNs idx)

/-- The loop has gone through some sources, and has written those only. -/
structure SourcesWritten (done : List (Fin memSourceCount)) (sample : FillSample) : Prop where
  reads : ∀ idx ∈ done, SourceReads perf tctx idx
  last : ∀ idx, sample.tctx.lastFillBwMibSX100.get idx =
    if idx ∈ done then sourceLast perf tctx deltaNs idx else tctx.lastFillBwMibSX100.get idx
  ewma : ∀ idx, sample.tctx.ewmaFillBwMibSX100.get idx =
    if idx ∈ done then sourceEwma perf tctx deltaNs firstSample idx
    else tctx.ewmaFillBwMibSX100.get idx
  frame : ∃ lastFill ewmaFill, sample.tctx = { tctx with
    lastFillBwMibSX100 := lastFill
    ewmaFillBwMibSX100 := ewmaFill }
  totalLast : sample.totalLast = (done.map (sourceLast perf tctx deltaNs)).sum
  totalEwma : sample.totalEwma = (done.map (sourceEwma perf tctx deltaNs firstSample)).sum

end Sources

section Loop

variable {perf : PerfEvents} {tctx : SampleCtx} {deltaNs : Nat} {firstSample : Bool}

theorem sliceBandwidth_le (deltaCtr deltaNs : Nat) : sliceBandwidth deltaCtr deltaNs ≤ u32Max :=
  Nat.le_of_lt_succ (Nat.mod_lt _ (Nat.succ_pos _))

theorem ewmaNext_le {ewma last : Nat} (fits : last ≤ u32Max) :
    ewmaNext firstSample ewma last ≤ u32Max := by
  unfold ewmaNext
  split
  · exact fits
  · apply (Nat.div_le_self _ _).trans
    exact Nat.le_of_lt_succ (Nat.mod_lt _ (Nat.succ_pos _))

/-- The totals over the sources stay far below the `u64` range. -/
theorem wrapAdd64_total {done : List (Fin memSourceCount)} {value : Fin memSourceCount → Nat}
    {idx : Fin memSourceCount} (short : done.length < memSourceCount)
    (fits : ∀ idx, value idx ≤ u32Max) :
    wrapAdd64 (done.map value).sum (value idx) = ((done ++ [idx]).map value).sum := by
  have bound : (done.map value).sum ≤ done.length * u32Max := by
    have each := List.sum_le_card_nsmul (done.map value) u32Max (by
      intro total member
      obtain ⟨source, _, rfl⟩ := List.mem_map.mp member
      exact fits source)
    simpa using each
  have own := fits idx
  have room : done.length * u32Max ≤ 2 * u32Max :=
    Nat.mul_le_mul_right _ (Nat.le_of_lt_succ short)
  rw [List.map_append, List.sum_append, List.map_singleton, List.sum_singleton]
  apply wrapAdd64_of_lt
  unfold u32Max at bound own room
  unfold u64Max
  omega

theorem writeFill_last (tctx : SampleCtx) (idx other : Fin memSourceCount) (last ewma : Nat) :
    (tctx.writeFill idx last ewma).lastFillBwMibSX100.get other =
      if other = idx then last else tctx.lastFillBwMibSX100.get other := by
  simp only [SampleCtx.writeFill, Vector.get_eq_getElem, Vector.getElem_set, Fin.val_inj, eq_comm]

theorem writeFill_ewma (tctx : SampleCtx) (idx other : Fin memSourceCount) (last ewma : Nat) :
    (tctx.writeFill idx last ewma).ewmaFillBwMibSX100.get other =
      if other = idx then ewma else tctx.ewmaFillBwMibSX100.get other := by
  simp only [SampleCtx.writeFill, Vector.get_eq_getElem, Vector.getElem_set, Fin.val_inj, eq_comm]

theorem SourcesWritten.write {sample : FillSample} {idx : Fin memSourceCount}
    {done : List (Fin memSourceCount)} (short : done.length < memSourceCount)
    (written : SourcesWritten perf tctx deltaNs firstSample done sample)
    (reads : SourceReads perf tctx idx) :
    SourcesWritten perf tctx deltaNs firstSample (done ++ [idx]) {
      tctx := sample.tctx.writeFill idx (sourceLast perf tctx deltaNs idx)
        (sourceEwma perf tctx deltaNs firstSample idx)
      totalLast := wrapAdd64 sample.totalLast (sourceLast perf tctx deltaNs idx)
      totalEwma := wrapAdd64 sample.totalEwma (sourceEwma perf tctx deltaNs firstSample idx) } := by
  constructor
  · intro other member
    rcases List.mem_append.mp member with earlier | new
    · exact written.reads other earlier
    · exact List.mem_singleton.mp new ▸ reads
  · intro other
    rw [writeFill_last, written.last]
    by_cases same : other = idx
    · simp [same]
    · simp [same]
  · intro other
    rw [writeFill_ewma, written.ewma]
    by_cases same : other = idx
    · simp [same]
    · simp [same]
  · obtain ⟨lastFill, ewmaFill, frame⟩ := written.frame
    rw [frame]
    exact ⟨_, _, rfl⟩
  · rw [written.totalLast]
    exact wrapAdd64_total short fun source => sliceBandwidth_le _ _
  · rw [written.totalEwma]
    exact wrapAdd64_total short fun source => ewmaNext_le (sliceBandwidth_le _ _)

theorem sampleFillSource_ok {sample next : FillSample} {idx : Fin memSourceCount}
    {done : List (Fin memSourceCount)} (fresh : idx ∉ done) (short : done.length < memSourceCount)
    (written : SourcesWritten perf tctx deltaNs firstSample done sample)
    (result : sampleFillSource perf deltaNs firstSample sample idx = .ok next) :
    SourcesWritten perf tctx deltaNs firstSample (done ++ [idx]) next := by
  obtain ⟨lastFill, ewmaFill, frame⟩ := written.frame
  have cpu : sample.tctx.currentCpu = tctx.currentCpu := by rw [frame]
  have start : sample.tctx.runStartFillCtr = tctx.runStartFillCtr := by rw [frame]
  have stored : sample.tctx.ewmaFillBwMibSX100.get idx = tctx.ewmaFillBwMibSX100.get idx := by
    rw [written.ewma, if_neg fresh]
  unfold sampleFillSource at result
  rw [cpu, start] at result
  split at result
  · cases result
  next counter read =>
    split at result
    · cases result
    next risen =>
      have delta : counter - tctx.runStartFillCtr.get idx = sourceDelta perf tctx idx := by
        rw [sourceDelta, read, Option.getD_some]
      dsimp only at result
      rw [delta, stored] at result
      obtain rfl := Except.ok.inj result
      exact written.write short ⟨counter, read, Nat.le_of_not_lt risen⟩

theorem sampleFillSource_error {sample : FillSample} {torn : SampleCtx} {idx : Fin memSourceCount}
    {done : List (Fin memSourceCount)}
    (written : SourcesWritten perf tctx deltaNs firstSample done sample)
    (result : sampleFillSource perf deltaNs firstSample sample idx = .error torn) :
    torn = sample.tctx ∧ ¬ SourceReads perf tctx idx := by
  obtain ⟨lastFill, ewmaFill, frame⟩ := written.frame
  have cpu : sample.tctx.currentCpu = tctx.currentCpu := by rw [frame]
  have start : sample.tctx.runStartFillCtr = tctx.runStartFillCtr := by rw [frame]
  unfold sampleFillSource at result
  rw [cpu, start] at result
  split at result
  next unread =>
    refine ⟨(Except.error.inj result).symm, fun reads => ?_⟩
    obtain ⟨counter, read, _⟩ := reads
    rw [unread] at read
    cases read
  next counter read =>
    split at result
    next fell =>
      refine ⟨(Except.error.inj result).symm, fun reads => ?_⟩
      obtain ⟨other, same, risen⟩ := reads
      obtain rfl := Option.some.inj (read.symm.trans same)
      exact absurd fell (Nat.not_lt.mpr risen)
    · cases result

/-! ## The outcome of the loop -/

inductive FillOutcome (perf : PerfEvents) (tctx : SampleCtx) (deltaNs : Nat) (firstSample : Bool) :
    Except SampleCtx (Bool × SampleCtx) → Prop where
  | uncounted (missing : tctx.runStartFillValidMask ≠ fillValidMask) :
      FillOutcome perf tctx deltaNs firstSample (.ok (false, tctx))
  | torn (counted : tctx.runStartFillValidMask = fillValidMask) {done : List (Fin memSourceCount)}
      {failing : Fin memSourceCount} {sample : FillSample}
      (before : ∀ idx, idx ∈ done ↔ idx < failing)
      (written : SourcesWritten perf tctx deltaNs firstSample done sample)
      (fails : ¬ SourceReads perf tctx failing) :
      FillOutcome perf tctx deltaNs firstSample (.error sample.tctx)
  | filled (counted : tctx.runStartFillValidMask = fillValidMask) {sample : FillSample}
      (written : SourcesWritten perf tctx deltaNs firstSample (List.finRange memSourceCount)
        sample) :
      FillOutcome perf tctx deltaNs firstSample (.ok (true, { sample.tctx with
        lastL2BwMibSX100 := min sample.totalLast u32Max
        ewmaL2BwMibSX100 := min sample.totalEwma u32Max }))

theorem sampleFill_outcome (perf : PerfEvents) (tctx : SampleCtx) (deltaNs : Nat)
    (firstSample : Bool) :
    FillOutcome perf tctx deltaNs firstSample (sampleFill perf tctx deltaNs firstSample) := by
  unfold sampleFill
  split
  next counted =>
    have start : SourcesWritten perf tctx deltaNs firstSample [] { tctx } :=
      ⟨by simp, by simp, by simp, ⟨_, _, rfl⟩, rfl, rfl⟩
    have step : ∀ done element rest sample next,
        List.finRange memSourceCount = done ++ element :: rest →
        SourcesWritten perf tctx deltaNs firstSample done sample →
        sampleFillSource perf deltaNs firstSample sample element = .ok next →
        SourcesWritten perf tctx deltaNs firstSample (done ++ [element]) next := by
      intro done element rest sample next split written result
      have distinct := List.nodup_finRange memSourceCount
      have total := List.length_finRange (n := memSourceCount)
      rw [split] at distinct total
      apply sampleFillSource_ok ?fresh ?short written result
      case fresh =>
        intro member
        exact (List.nodup_append.mp distinct).2.2 element member element List.mem_cons_self rfl
      case short =>
        rw [List.length_append, List.length_cons] at total
        omega
    rcases foldlM_prefix_cases _ start step with ⟨sample, result, written⟩ |
      ⟨done, failing, rest, sample, stopped, split, written, result, folded⟩
    · rw [result]
      exact .filled counted written
    · rw [folded]
      obtain ⟨rfl, fails⟩ := sampleFillSource_error written result
      exact .torn counted (mem_before_iff split) written fails
  next missing => exact .uncounted missing

end Loop

/-! ## The outcome of a call -/

/-- The totals of a context are the saturated sums over its sources. -/
def FillsSummed (tctx : SampleCtx) : Prop :=
  tctx.lastL2BwMibSX100 = min (∑ idx, tctx.lastFillBwMibSX100.get idx) u32Max ∧
    tctx.ewmaL2BwMibSX100 = min (∑ idx, tctx.ewmaFillBwMibSX100.get idx) u32Max

section Call

variable (perf : PerfEvents) (tctx : SampleCtx) (now : Nat)

/-- The loop is entered and fails at a source, having sampled those before it. -/
structure TornAt (failing : Fin memSourceCount) : Prop where
  started : tctx.runStartNs ≠ 0
  placed : 0 ≤ tctx.currentCpu
  long : minValidRunNs ≤ wrapSub64 now tctx.runStartNs
  counted : tctx.runStartFillValidMask = fillValidMask
  before : ∀ idx < failing, SourceReads perf tctx idx
  fails : ¬ SourceReads perf tctx failing

/-- The bandwidths that the slice gives a source are those it already has. -/
def SourceSettled (idx : Fin memSourceCount) : Prop :=
  tctx.lastFillBwMibSX100.get idx =
      sourceLast perf tctx (wrapSub64 now tctx.runStartNs) idx ∧
    tctx.ewmaFillBwMibSX100.get idx =
      sourceEwma perf tctx (wrapSub64 now tctx.runStartNs) (tctx.lastUpdateNs == 0) idx

/-- A source fails after one whose bandwidths change. -/
def TornSample : Prop :=
  ∃ failing, TornAt perf tctx now failing ∧ ∃ idx < failing, ¬ SourceSettled perf tctx now idx

inductive SampleOutcome : Bool × SampleCtx → Prop where
  | skipped (whole : ∀ failing, ¬ TornAt perf tctx now failing) : SampleOutcome (false, tctx)
  | torn {failing : Fin memSourceCount} {done : List (Fin memSourceCount)} {sample : FillSample}
      (tornAt : TornAt perf tctx now failing) (before : ∀ idx, idx ∈ done ↔ idx < failing)
      (written : SourcesWritten perf tctx (wrapSub64 now tctx.runStartNs) (tctx.lastUpdateNs == 0)
        done sample) : SampleOutcome (false, sample.tctx)
  | sampled {after : SampleCtx} (whole : ∀ failing, ¬ TornAt perf tctx now failing)
      (summed : FillsSummed tctx → FillsSummed after) : SampleOutcome (true, after)

end Call

section Outcome

variable {perf : PerfEvents} {tctx : SampleCtx} {now : Nat}

theorem TornAt.unique {left right : Fin memSourceCount} (first : TornAt perf tctx now left)
    (second : TornAt perf tctx now right) : left = right := by
  rcases lt_trichotomy left right with less | same | greater
  · exact absurd (second.before left less) first.fails
  · exact same
  · exact absurd (first.before right greater) second.fails

theorem fillsSummed_sampleStall {firstSample : Bool} {stalled : SampleCtx}
    (summed : FillsSummed tctx) (sampled : sampleStall perf tctx firstSample = some stalled) :
    FillsSummed stalled := by
  unfold sampleStall at sampled
  split at sampled
  · cases sampled
  · obtain ⟨instCtr, _, sampled⟩ := Option.bind_eq_some_iff.mp sampled
    split at sampled
    · cases sampled
    · obtain ⟨cycleCtr, _, sampled⟩ := Option.bind_eq_some_iff.mp sampled
      split at sampled
      · cases sampled
      · dsimp only at sampled
        split at sampled
        · cases sampled
        · obtain rfl := Option.some.inj sampled
          exact summed

theorem fillsSummed_filled {deltaNs : Nat} {firstSample : Bool} {sample : FillSample}
    (written : SourcesWritten perf tctx deltaNs firstSample (List.finRange memSourceCount) sample) :
    FillsSummed { sample.tctx with
      lastL2BwMibSX100 := min sample.totalLast u32Max
      ewmaL2BwMibSX100 := min sample.totalEwma u32Max } := by
  constructor
  · have each : ∀ idx, sample.tctx.lastFillBwMibSX100.get idx = sourceLast perf tctx deltaNs idx :=
      fun idx => (written.last idx).trans (if_pos (List.mem_finRange idx))
    change min sample.totalLast u32Max = min (∑ idx, sample.tctx.lastFillBwMibSX100.get idx) u32Max
    rw [written.totalLast, Finset.sum_congr rfl fun idx _ => each idx, Fin.sum_univ_def]
  · have each : ∀ idx, sample.tctx.ewmaFillBwMibSX100.get idx =
        sourceEwma perf tctx deltaNs firstSample idx :=
      fun idx => (written.ewma idx).trans (if_pos (List.mem_finRange idx))
    change min sample.totalEwma u32Max = min (∑ idx, sample.tctx.ewmaFillBwMibSX100.get idx) u32Max
    rw [written.totalEwma, Finset.sum_congr rfl fun idx _ => each idx, Fin.sum_univ_def]

/-- The stall counters write nothing before they have passed. -/
theorem sampleOutcome_stall {filled : SampleCtx} {updated : Bool}
    (whole : ∀ failing, ¬ TornAt perf tctx now failing) (kept : updated = false → filled = tctx)
    (summed : FillsSummed tctx → FillsSummed filled) :
    SampleOutcome perf tctx now (match sampleStall perf filled (tctx.lastUpdateNs == 0) with
      | none => finishSample updated filled now
      | some stalled => finishSample true stalled now) := by
  cases stall : sampleStall perf filled (tctx.lastUpdateNs == 0) with
  | some stalled =>
      apply SampleOutcome.sampled whole
      intro before
      have kept : FillsSummed stalled := fillsSummed_sampleStall (summed before) stall
      exact kept
  | none =>
      cases updated with
      | false =>
          rw [kept rfl]
          exact .skipped whole
      | true => exact .sampled whole summed

theorem sampleSliceMetrics_outcome (perf : PerfEvents) (tctx : SampleCtx) (now : Nat) :
    SampleOutcome perf tctx now (sampleSliceMetrics perf tctx now) := by
  unfold sampleSliceMetrics
  split
  next idle =>
    apply SampleOutcome.skipped
    intro failing torn
    rcases idle with unstarted | unplaced
    · exact torn.started unstarted
    · exact absurd torn.placed (Int.not_le.mpr unplaced)
  next running =>
    obtain ⟨started, placed⟩ := not_or.mp running
    dsimp only
    split
    next short => exact .skipped fun failing torn => absurd torn.long (Nat.not_le.mpr short)
    next long =>
      have loop := sampleFill_outcome perf tctx (wrapSub64 now tctx.runStartNs)
        (tctx.lastUpdateNs == 0)
      revert loop
      generalize sampleFill perf tctx (wrapSub64 now tctx.runStartNs) (tctx.lastUpdateNs == 0) =
        result
      intro loop
      cases loop with
      | uncounted missing =>
          apply sampleOutcome_stall
          · exact fun failing torn => missing torn.counted
          · exact fun _ => rfl
          · exact fun summed => summed
      | torn counted before written fails =>
          refine .torn ⟨started, Int.not_lt.mp placed, Nat.not_lt.mp long, counted, ?_, fails⟩
            before written
          exact fun idx less => written.reads idx ((before idx).mpr less)
      | filled counted written =>
          apply sampleOutcome_stall
          · exact fun failing torn => torn.fails (written.reads failing (List.mem_finRange failing))
          · intro impossible
            cases impossible
          · exact fun _ => fillsSummed_filled written

/-- Sources given the bandwidths that they have leave no trace of the loop. -/
theorem SourcesWritten.eq_of_settled {done : List (Fin memSourceCount)} {sample : FillSample}
    (written : SourcesWritten perf tctx (wrapSub64 now tctx.runStartNs) (tctx.lastUpdateNs == 0)
      done sample)
    (settled : ∀ idx ∈ done, SourceSettled perf tctx now idx) : sample.tctx = tctx := by
  have last : sample.tctx.lastFillBwMibSX100 = tctx.lastFillBwMibSX100 := by
    apply Vector.ext
    intro place bound
    refine (written.last ⟨place, bound⟩).trans ?_
    split
    next member => exact (settled _ member).1.symm
    · rfl
  have ewma : sample.tctx.ewmaFillBwMibSX100 = tctx.ewmaFillBwMibSX100 := by
    apply Vector.ext
    intro place bound
    refine (written.ewma ⟨place, bound⟩).trans ?_
    split
    next member => exact (settled _ member).2.symm
    · rfl
  obtain ⟨lastFill, ewmaFill, frame⟩ := written.frame
  rw [frame] at last ewma ⊢
  obtain rfl : lastFill = tctx.lastFillBwMibSX100 := last
  obtain rfl : ewmaFill = tctx.ewmaFillBwMibSX100 := ewma
  rfl

/-- A call that returns false leaves the metrics as they were, unless a source
fails after one whose bandwidths change. -/
theorem sampleSliceMetrics_unchanged_iff :
    ((sampleSliceMetrics perf tctx now).1 = false →
      (sampleSliceMetrics perf tctx now).2.metrics = tctx.metrics) ↔
      ¬ TornSample perf tctx now := by
  have outcome := sampleSliceMetrics_outcome perf tctx now
  revert outcome
  generalize sampleSliceMetrics perf tctx now = result
  intro outcome
  cases outcome with
  | skipped whole => exact iff_of_true (fun _ => rfl) fun ⟨failing, torn, _⟩ => whole failing torn
  | sampled whole summed =>
      refine iff_of_true (fun impossible => ?_) fun ⟨failing, torn, _⟩ => whole failing torn
      cases impossible
  | @torn failing done sample tornAt before written =>
      constructor
      · intro unchanged ⟨other, torn, idx, less, moved⟩
        obtain rfl := tornAt.unique torn
        have same := unchanged rfl
        apply moved
        constructor
        · have last := congrArg (fun metrics => metrics.lastFillBwMibSX100.get idx) same
          exact last.symm.trans ((written.last idx).trans (if_pos ((before idx).mpr less)))
        · have ewma := congrArg (fun metrics => metrics.ewmaFillBwMibSX100.get idx) same
          exact ewma.symm.trans ((written.ewma idx).trans (if_pos ((before idx).mpr less)))
      · intro whole _
        have settled : ∀ idx ∈ done, SourceSettled perf tctx now idx := by
          intro idx member
          by_contra moved
          exact whole ⟨failing, tornAt, idx, (before idx).mp member, moved⟩
        exact congrArg SampleCtx.metrics (written.eq_of_settled settled)

/-- The metrics are all that the totals depend on. -/
theorem FillsSummed.of_metrics {other : SampleCtx} (summed : FillsSummed tctx)
    (same : other.metrics = tctx.metrics) : FillsSummed other := by
  simp only [SampleCtx.metrics, SliceMetrics.mk.injEq] at same
  unfold FillsSummed
  rw [same.1, same.2.1, same.2.2.1, same.2.2.2.1]
  exact summed

theorem fillsSummed_sampleSliceMetrics (summed : FillsSummed tctx)
    (whole : ¬ TornSample perf tctx now) : FillsSummed (sampleSliceMetrics perf tctx now).2 := by
  have unchanged := sampleSliceMetrics_unchanged_iff.mpr whole
  have outcome := sampleSliceMetrics_outcome perf tctx now
  revert outcome unchanged
  generalize sampleSliceMetrics perf tctx now = result
  intro unchanged outcome
  cases outcome with
  | skipped _ => exact summed
  | sampled _ kept => exact kept summed
  | torn tornAt before written => exact summed.of_metrics (unchanged rfl)

end Outcome

end CSwitch.Bpf
