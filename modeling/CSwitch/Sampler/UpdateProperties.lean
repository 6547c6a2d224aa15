import CSwitch.Sampler.Updates

/-! What the scheduler and the BPF side know of the samples, in every interleaving
of the samplers and the main loop: the state of a domain is that of the filter
over all the samples of the domain that were received, and no change of it is
missed. -/

set_option autoImplicit false

namespace CSwitch.Sampler

open Std (TreeSet)
open CSwitch.Filter

/-! ## One stream of updates -/

section Stream

variable {ω α : Type} (domain : ω → Nat) (metric : ω → FilteredMetric) (value : ω → α)

/-- The updates of one domain. -/
def updatesOf (domainId : Nat) (updates : List ω) : List ω :=
  updates.filter fun update => domain update == domainId

def samplesOf (domainId : Nat) (updates : List ω) : List Sample :=
  (updatesOf domain domainId updates).map fun update =>
    ⟨(metric update).rawX100, (metric update).sampleTsNs⟩

/-- The table after some updates. -/
def writeStates (states : List (Option α)) (updates : List ω) : List (Option α) :=
  updates.foldl (fun states update => writeState states (domain update) (value update)) states

variable {domain metric value}

theorem updatesOf_append (domainId : Nat) (updates : List ω) (update : ω) :
    updatesOf domain domainId (updates ++ [update]) =
      if domain update = domainId then updatesOf domain domainId updates ++ [update]
      else updatesOf domain domainId updates := by
  unfold updatesOf
  rw [List.filter_append]
  split
  next same => simp [same]
  next different => simp [different]

theorem writeStates_append (states : List (Option α)) (updates : List ω) (update : ω) :
    writeStates domain value states (updates ++ [update]) =
      writeState (writeStates domain value states updates) (domain update) (value update) := by
  simp [writeStates]

theorem writeStates_append_list (states : List (Option α)) (first second : List ω) :
    writeStates domain value states (first ++ second) =
      writeStates domain value (writeStates domain value states first) second := by
  simp [writeStates]

@[simp] theorem writeStates_length (states : List (Option α)) (updates : List ω) :
    (writeStates domain value states updates).length = states.length := by
  induction updates using List.reverseRecOn with
  | nil => rfl
  | append_singleton updates update ih => rw [writeStates_append, writeState, List.length_set, ih]

theorem getFlat_writeState (states : List (Option α)) (written domainId : Nat) (value : α) :
    getFlat (writeState states written value) domainId =
      if written = domainId ∧ domainId < states.length then some value
      else getFlat states domainId := by
  unfold getFlat writeState
  rw [List.getElem?_set]
  by_cases same : written = domainId
  · subst same
    by_cases within : written < states.length
    · simp [within]
    · simp [within]
  · simp [same]

/-- An entry holds the last update of its domain. -/
theorem getFlat_writeStates (states : List (Option α)) (updates : List ω) {domainId : Nat}
    (within : domainId < states.length) :
    getFlat (writeStates domain value states updates) domainId =
      ((updatesOf domain domainId updates).getLast?.map value).or (getFlat states domainId) := by
  induction updates using List.reverseRecOn with
  | nil => simp [writeStates, updatesOf]
  | append_singleton updates update ih =>
    rw [writeStates_append, getFlat_writeState, writeStates_length, updatesOf_append]
    by_cases same : domain update = domainId
    · rw [if_pos ⟨same, within⟩, if_pos same]
      simp
    · rw [if_neg fun both => same both.1, if_neg same, ih]

/-- Every update carries the metric of the filter after the samples of its domain so far. -/
structure Filtered (domain : ω → Nat) (metric : ω → FilteredMetric) (cfg : FilterConfig)
    (metrics : Nat → FilteredMetric) (sent : List ω) : Prop where
  current : ∀ domainId, metrics domainId =
    (metricRun cfg (samplesOf domain metric domainId sent)).metric
  updates : ∀ before update after, sent = before ++ update :: after →
    metric update =
      (metricRun cfg (samplesOf domain metric (domain update) (before ++ [update]))).metric

theorem filtered_nil (cfg : FilterConfig) :
    Filtered domain metric cfg (fun _ => {}) ([] : List ω) where
  current domainId := rfl
  updates before update after none := absurd none (by simp)

theorem samplesOf_append (domainId : Nat) (updates : List ω) (update : ω) :
    samplesOf domain metric domainId (updates ++ [update]) =
      if domain update = domainId then
        samplesOf domain metric domainId updates ++
          [⟨(metric update).rawX100, (metric update).sampleTsNs⟩]
      else samplesOf domain metric domainId updates := by
  unfold samplesOf
  rw [updatesOf_append]
  split <;> simp

@[simp] theorem updateMetric_rawX100 (prev : FilteredMetric) (rawX100 sampleTsNs : Nat)
    (cfg : FilterConfig) : (updateMetric prev rawX100 sampleTsNs cfg).rawX100 = rawX100 := by
  unfold updateMetric
  dsimp only
  split
  · rfl
  · split <;> rfl

/-- The thread of a domain sends its next sample. -/
theorem Filtered.send {cfg : FilterConfig} {metrics : Nat → FilteredMetric} {sent : List ω}
    (filtered : Filtered domain metric cfg metrics sent) (update : ω) {rawX100 sampleTsNs : Nat}
    (own : metric update = updateMetric (metrics (domain update)) rawX100 sampleTsNs cfg) :
    Filtered domain metric cfg (Function.update metrics (domain update) (metric update))
      (sent ++ [update]) := by
  have next : metric update =
      (metricRun cfg (samplesOf domain metric (domain update) (sent ++ [update]))).metric := by
    rw [samplesOf_append, if_pos rfl, metricRun_append, own, filtered.current (domain update)]
    simp [MetricRun.step]
  refine ⟨fun domainId => ?_, fun before last after split => ?_⟩
  · by_cases same : domainId = domain update
    · subst same
      rw [Function.update_self]
      exact next
    · rw [Function.update_of_ne same, filtered.current domainId, samplesOf_append,
        if_neg (Ne.symm same)]
  · rcases List.eq_nil_or_concat after with rfl | ⟨init, tail, rfl⟩
    · obtain ⟨rfl, lasts⟩ := List.append_inj' split rfl
      obtain rfl := List.singleton_inj.mp lasts
      exact next
    · rw [List.concat_eq_append, ← List.cons_append, ← List.append_assoc] at split
      exact filtered.updates before last init (List.append_inj' split rfl).1

/-- The last update of a domain in a prefix of the stream. -/
theorem Filtered.last {cfg : FilterConfig} {metrics : Nat → FilteredMetric}
    {received channel : List ω}
    (filtered : Filtered domain metric cfg metrics (received ++ channel)) {domainId : Nat}
    {update : ω} (last : (updatesOf domain domainId received).getLast? = some update) :
    metric update = (metricRun cfg (samplesOf domain metric domainId received)).metric := by
  induction received using List.reverseRecOn generalizing channel with
  | nil => simp [updatesOf] at last
  | append_singleton received newest ih =>
    rw [updatesOf_append] at last
    rw [samplesOf_append]
    split at last
    next same =>
      obtain rfl : newest = update := by simpa using last
      have own := filtered.updates received newest channel (by simp)
      rw [if_pos same]
      rwa [same, samplesOf_append, if_pos same] at own
    next different =>
      rw [if_neg different]
      have later : Filtered domain metric cfg metrics (received ++ ([newest] ++ channel)) := by
        rwa [← List.append_assoc]
      exact ih later last

end Stream

/-! ## The flips of a drain -/

section Flips

variable {ω α : Type} {domain : ω → Nat} {value : ω → α} {code : α → Nat}

/-- Some update of the domain had another state than the table before it. -/
def FlipsIn (domain : ω → Nat) (value : ω → α) (code : α → Nat) (states : List (Option α))
    (updates : List ω) (domainId : Nat) : Prop :=
  ∃ before update after, updates = before ++ update :: after ∧ domain update = domainId ∧
    domainId < states.length ∧
    (getFlat (writeStates domain value states before) domainId).map code ≠
      some (code (value update))

def noteFlips (domain : ω → Nat) (value : ω → α) (code : α → Nat) :
    List (Option α) → List ω → TreeSet Nat → TreeSet Nat
  | _, [], flips => flips
  | states, update :: rest, flips =>
      noteFlips domain value code (writeState states (domain update) (value update)) rest
        (noteFlip code states (domain update) (value update) flips)

theorem mem_noteFlip (states : List (Option α)) (written domainId : Nat) (value : α)
    (flips : TreeSet Nat) : domainId ∈ noteFlip code states written value flips ↔
      domainId ∈ flips ∨ written = domainId ∧ domainId < states.length ∧
        (getFlat states domainId).map code ≠ some (code value) := by
  unfold noteFlip
  split
  next flipped =>
    rw [TreeSet.mem_insert, compare_eq_iff_eq]
    constructor
    · rintro (rfl | member)
      · exact .inr ⟨rfl, flipped⟩
      · exact .inl member
    · rintro (member | ⟨same, _⟩)
      · exact .inr member
      · exact .inl same
  next unflipped =>
    constructor
    · exact .inl
    · rintro (member | ⟨rfl, flipped⟩)
      · exact member
      · exact absurd flipped unflipped

/-- Exactly the domains with an update of another state are noted. -/
theorem mem_noteFlips (states : List (Option α)) (updates : List ω) (flips : TreeSet Nat)
    (domainId : Nat) : domainId ∈ noteFlips domain value code states updates flips ↔
      domainId ∈ flips ∨ FlipsIn domain value code states updates domainId := by
  induction updates generalizing states flips with
  | nil =>
    simp [noteFlips, FlipsIn]
  | cons update rest ih =>
    rw [noteFlips, ih, mem_noteFlip, or_assoc]
    refine or_congr Iff.rfl ⟨?_, ?_⟩
    · rintro (⟨same, within, changed⟩ | ⟨before, later, after, rfl, same, within, changed⟩)
      · exact ⟨[], update, rest, rfl, same, within, changed⟩
      · exact ⟨update :: before, later, after, rfl, same, by simpa [writeState] using within, changed⟩
    · rintro ⟨before, later, after, split, same, within, changed⟩
      cases before with
      | nil =>
        obtain ⟨rfl, rfl⟩ := List.cons.inj split
        exact .inl ⟨same, within, changed⟩
      | cons first before =>
        obtain ⟨rfl, rfl⟩ := List.cons.inj split
        exact .inr ⟨before, later, after, rfl, same, by simpa [writeState] using within, changed⟩

/-- A domain that did not flip is in the state that it was in. -/
theorem state_of_not_flipsIn {states : List (Option α)} {updates : List ω} {domainId : Nat}
    (unflipped : ¬ FlipsIn domain value code states updates domainId) :
    (getFlat (writeStates domain value states updates) domainId).map code =
      (getFlat states domainId).map code := by
  induction updates using List.reverseRecOn with
  | nil => rfl
  | append_singleton updates update ih =>
    have earlier : ¬ FlipsIn domain value code states updates domainId := by
      rintro ⟨before, later, after, rfl, same, within, changed⟩
      exact unflipped ⟨before, later, after ++ [update], by simp, same, within, changed⟩
    rw [writeStates_append, getFlat_writeState, writeStates_length]
    split
    next written =>
      by_contra changed
      refine unflipped ⟨updates, update, [], rfl, written.1, written.2, fun same => changed ?_⟩
      rw [← ih earlier, same, Option.map_some]
    · exact ih earlier

end Flips

/-! ## `apply_sample_updates` -/

def DfSamplerEvent.update? : DfSamplerEvent → Option DfSampleUpdate
  | .sample update => some update
  | .sweepComplete _ _ => none

def DfSamplerEvent.epoch? : DfSamplerEvent → Option Nat
  | .sample _ => none
  | .sweepComplete epoch _ => some epoch

def dfUpdates (events : List DfSamplerEvent) : List DfSampleUpdate :=
  events.filterMap DfSamplerEvent.update?

def sweepEpochs (events : List DfSamplerEvent) : List Nat := events.filterMap DfSamplerEvent.epoch?

abbrev writeLlc := writeStates LlcSampleUpdate.domainId LlcSampleUpdate.value

abbrev writeDf := writeStates DfSampleUpdate.domainId DfSampleUpdate.value

theorem foldl_applyLlc (updates : List LlcSampleUpdate) (state : UpdateState) :
    updates.foldl UpdateState.applyLlc state =
      { states := { state.states with llcStates := writeLlc state.states.llcStates updates }
        summary := { state.summary with
          domainStateFlips := noteFlips LlcSampleUpdate.domainId LlcSampleUpdate.value (·.state)
            state.states.llcStates updates state.summary.domainStateFlips } } := by
  induction updates generalizing state with
  | nil => rfl
  | cons update rest ih =>
    rw [List.foldl_cons, ih]
    rfl

theorem foldl_applyDf (events : List DfSamplerEvent) (state : UpdateState) :
    events.foldl UpdateState.applyDf state =
      { states := { state.states with
          dfStates := writeDf state.states.dfStates (dfUpdates events) }
        summary :=
          { latestDfSweepEpoch :=
              (sweepEpochs events).getLast?.or state.summary.latestDfSweepEpoch
            domainStateFlips := noteFlips DfSampleUpdate.domainId DfSampleUpdate.value (·.state)
              state.states.dfStates (dfUpdates events) state.summary.domainStateFlips } } := by
  induction events generalizing state with
  | nil => rfl
  | cons event rest ih =>
    rw [List.foldl_cons, ih]
    cases event with
    | sample update => rfl
    | sweepComplete epoch sampledDomains =>
      have last : (sweepEpochs rest).getLast?.or (some epoch) =
          (sweepEpochs (.sweepComplete epoch sampledDomains :: rest)).getLast?.or
            state.summary.latestDfSweepEpoch := by
        have more : sweepEpochs (.sweepComplete epoch sampledDomains :: rest) =
            epoch :: sweepEpochs rest := rfl
        rw [more, List.getLast?_cons]
        cases (sweepEpochs rest).getLast? <;> rfl
      simp only [UpdateState.applyDf, last]
      rfl

theorem foldl_applyCs (updates : List DfSampleUpdate) (state : UpdateState) :
    updates.foldl UpdateState.applyCs state = { state with
      states := { state.states with dfCsStates := writeDf state.states.dfCsStates updates } } := by
  induction updates generalizing state with
  | nil => rfl
  | cons update rest ih =>
    rw [List.foldl_cons, ih]
    rfl

/-- The flips are exactly the domains for which some message had another state
than the table before it, and every other domain is in the state that it was in. -/
theorem applySampleUpdates_flips (llc : List LlcSampleUpdate) (df : List DfSamplerEvent)
    (dfCs : List DfSampleUpdate) (states : SampleStates) (domainId : Nat) :
    let after := applySampleUpdates llc df dfCs states
    (domainId ∈ after.summary.domainStateFlips ↔
      FlipsIn LlcSampleUpdate.domainId LlcSampleUpdate.value (·.state) states.llcStates llc
          domainId ∨
        FlipsIn DfSampleUpdate.domainId DfSampleUpdate.value (·.state) states.dfStates
          (dfUpdates df) domainId) ∧
      (domainId ∉ after.summary.domainStateFlips →
        (getFlat after.states.llcStates domainId).map (·.state) =
            (getFlat states.llcStates domainId).map (·.state) ∧
          (getFlat after.states.dfStates domainId).map (·.state) =
            (getFlat states.dfStates domainId).map (·.state)) := by
  have flips : domainId ∈ (applySampleUpdates llc df dfCs states).summary.domainStateFlips ↔
      FlipsIn LlcSampleUpdate.domainId LlcSampleUpdate.value (·.state) states.llcStates llc
          domainId ∨
        FlipsIn DfSampleUpdate.domainId DfSampleUpdate.value (·.state) states.dfStates
          (dfUpdates df) domainId := by
    simp only [applySampleUpdates, foldl_applyLlc, foldl_applyDf, foldl_applyCs, mem_noteFlips]
    simp
  refine ⟨flips, fun unflipped => ?_⟩
  rw [flips, not_or] at unflipped
  simp only [applySampleUpdates, foldl_applyLlc, foldl_applyDf, foldl_applyCs]
  exact ⟨state_of_not_flipsIn unflipped.1, state_of_not_flipsIn unflipped.2⟩

/-! ## Runs -/

/-- The epochs of the first sweeps. -/
def sweepNumbers (count : Nat) : List Nat :=
  (List.range count).map fun index => min (index + 1) u64Max

/-- What the main loop has of the sweeps, by where it is. -/
def SweepsSeen (flow : SampleFlow) : Prop :=
  let seen := min (sweepEpochs flow.dfReceived).length u64Max
  match flow.phase with
  | .llc => flow.latestDfSweepEpoch = seen
  | .df => flow.latestDfSweepEpoch = seen ∧ flow.update.summary.latestDfSweepEpoch = none
  | .cs | .publish =>
      (flow.update.summary.latestDfSweepEpoch = none ∧ flow.latestDfSweepEpoch = seen) ∨
        (flow.update.summary.latestDfSweepEpoch = some seen ∧ flow.latestDfSweepEpoch ≤ seen)

structure SampleInvariant (config : SampleConfig) (flow : SampleFlow) : Prop where
  llc : Filtered LlcSampleUpdate.domainId LlcSampleUpdate.metric config.llcFilter
    flow.metrics.llc (flow.llcReceived ++ flow.llcChannel)
  ccm : Filtered DfSampleUpdate.domainId DfSampleUpdate.metric config.ccmFilter
    flow.metrics.ccm (dfUpdates flow.dfReceived ++ dfUpdates flow.dfChannel)
  cs : Filtered DfSampleUpdate.domainId DfSampleUpdate.metric config.csFilter
    flow.metrics.cs (flow.csReceived ++ flow.csChannel)
  llcTable : flow.update.states.llcStates =
    writeLlc (List.replicate config.topo.domains.length none) flow.llcReceived
  dfTable : flow.update.states.dfStates =
    writeDf (List.replicate config.topo.domains.length none) (dfUpdates flow.dfReceived)
  csTable : flow.update.states.dfCsStates =
    writeDf (List.replicate (csLinkCount config.mapping) none) flow.csReceived
  sweeps : ∃ count, sweepEpochs (flow.dfReceived ++ flow.dfChannel) = sweepNumbers count ∧
    flow.epoch = min count u64Max
  seen : SweepsSeen flow
  maps : flow.phase = .llc → flow.maps =
    updateDomainStateMaps flow.update.states.llcStates flow.update.states.dfStates

@[simp] theorem sweepNumbers_length (count : Nat) : (sweepNumbers count).length = count := by
  simp [sweepNumbers]

theorem sweepNumbers_succ (count : Nat) :
    sweepNumbers (count + 1) = sweepNumbers count ++ [min (count + 1) u64Max] := by
  simp [sweepNumbers, List.range_succ]

@[simp] theorem dfUpdates_append (first second : List DfSamplerEvent) :
    dfUpdates (first ++ second) = dfUpdates first ++ dfUpdates second := by
  simp [dfUpdates]

@[simp] theorem sweepEpochs_append (first second : List DfSamplerEvent) :
    sweepEpochs (first ++ second) = sweepEpochs first ++ sweepEpochs second := by
  simp [sweepEpochs]

@[simp] theorem dfUpdates_sample (update : DfSampleUpdate) : dfUpdates [.sample update] = [update] :=
  rfl

@[simp] theorem dfUpdates_sweepComplete (epoch sampledDomains : Nat) :
    dfUpdates [.sweepComplete epoch sampledDomains] = [] := rfl

@[simp] theorem sweepEpochs_sample (update : DfSampleUpdate) : sweepEpochs [.sample update] = [] :=
  rfl

@[simp] theorem sweepEpochs_sweepComplete (epoch sampledDomains : Nat) :
    sweepEpochs [.sweepComplete epoch sampledDomains] = [epoch] := rfl

theorem sampleInvariant_start (config : SampleConfig) : SampleInvariant config config.start where
  llc := filtered_nil _
  ccm := filtered_nil _
  cs := filtered_nil _
  llcTable := rfl
  dfTable := rfl
  csTable := rfl
  sweeps := ⟨0, rfl, rfl⟩
  seen := rfl
  maps _ := by
    have none (α : Type) (size domain : Nat) :
        getFlat (List.replicate size (none : Option α)) domain = none := by
      unfold getFlat
      rw [List.getElem?_replicate]
      split <;> rfl
    simp only [SampleConfig.start, updateDomainStateMaps, none, Option.getD_none]
    rfl

/-- The last epoch that the main loop takes out of the channel is the number of all sweeps. -/
theorem getLast?_sweepEpochs {received channel : List DfSamplerEvent} {count : Nat}
    (sweeps : sweepEpochs (received ++ channel) = sweepNumbers count)
    (some : sweepEpochs channel ≠ []) :
    (sweepEpochs channel).getLast? =
      .some (min (sweepEpochs (received ++ channel)).length u64Max) := by
  have last : (sweepEpochs (received ++ channel)).getLast? = (sweepEpochs channel).getLast? := by
    rw [sweepEpochs_append, List.getLast?_append_of_ne_nil _ some]
  rw [← last, sweeps, sweepNumbers_length]
  cases count with
  | zero =>
    rw [sweepEpochs_append] at sweeps
    exact absurd (List.append_eq_nil_iff.mp sweeps).2 some
  | succ count => rw [sweepNumbers_succ]; simp

theorem SampleInvariant.drainDf {config : SampleConfig} {flow : SampleFlow}
    (holds : SampleInvariant config flow) (here : flow.phase = .df) :
    SampleInvariant config flow.drainDf := by
  obtain ⟨count, sweeps, epoch⟩ := holds.sweeps
  have seen := holds.seen
  simp only [SweepsSeen, here] at seen
  refine { llc := holds.llc, ccm := ?_, cs := holds.cs, llcTable := ?_, dfTable := ?_, csTable := ?_
           sweeps := ⟨count, by simpa [SampleFlow.drainDf] using sweeps, epoch⟩, seen := ?_
           maps := fun rest => by cases rest }
  · simpa [SampleFlow.drainDf, dfUpdates] using holds.ccm
  · simpa only [SampleFlow.drainDf, foldl_applyDf] using holds.llcTable
  · simp only [SampleFlow.drainDf, foldl_applyDf, holds.dfTable, dfUpdates_append]
    exact (writeStates_append_list _ _ _).symm
  · simpa only [SampleFlow.drainDf, foldl_applyDf] using holds.csTable
  · simp only [SweepsSeen, SampleFlow.drainDf, foldl_applyDf]
    by_cases none : sweepEpochs flow.dfChannel = []
    · refine .inl ⟨by simp [none, seen.2], ?_⟩
      simpa [none] using seen.1
    · refine .inr ⟨by rw [getLast?_sweepEpochs sweeps none]; rfl, ?_⟩
      rw [seen.1, sweepEpochs_append, List.length_append]
      omega

theorem sampleInvariant_step {config : SampleConfig} {flow next : SampleFlow}
    (step : SampleStep config flow next) (holds : SampleInvariant config flow) :
    SampleInvariant config next := by
  cases step with
  | sendLlc raw sampleTsNs listed =>
    refine { holds with llc := ?_ }
    simp only [SampleFlow.sendLlc, ← List.append_assoc]
    let metric := updateMetric (flow.metrics.llc raw.domainId) raw.metric.rawX100 sampleTsNs
      config.llcFilter
    exact holds.llc.send { raw with metric } rfl
  | sendCcm resource raw tsNs here =>
    refine { holds with ccm := ?_, sweeps := ?_ }
    · simp only [SampleFlow.sendCcm, dfUpdates_append, dfUpdates_sample, ← List.append_assoc]
      exact holds.ccm.send ⟨_, _, _, _, _, _⟩ rfl
    · simpa [SampleFlow.sendCcm] using holds.sweeps
  | skipCcm here => exact { holds with }
  | sweepComplete =>
    obtain ⟨count, sweeps, epoch⟩ := holds.sweeps
    refine { holds with ccm := ?_, sweeps := ⟨count + 1, ?_, ?_⟩ }
    · simpa [SampleFlow.sendSweepComplete] using holds.ccm
    · simp only [SampleFlow.sendSweepComplete, ← List.append_assoc]
      rw [sweepEpochs_append, sweeps, sweepNumbers_succ, epoch, sweepEpochs_sweepComplete, satAdd64]
      congr 2
      omega
    · simp only [SampleFlow.sendSweepComplete, satAdd64, epoch]
      omega
  | sendCs resource raw tsNs listed =>
    refine { holds with cs := ?_ }
    simp only [SampleFlow.sendCs, ← List.append_assoc]
    exact holds.cs.send ⟨_, _, _, _, _, _⟩ rfl
  | drainLlc here =>
    have seen := holds.seen
    simp only [SweepsSeen, here] at seen
    refine { holds with llc := ?_, llcTable := ?_, dfTable := ?_, csTable := ?_
                        seen := ?_, maps := fun rest => by cases rest }
    · simpa [SampleFlow.drainLlc] using holds.llc
    · simp only [SampleFlow.drainLlc, foldl_applyLlc, holds.llcTable]
      exact (writeStates_append_list _ _ _).symm
    · simpa only [SampleFlow.drainLlc, foldl_applyLlc] using holds.dfTable
    · simpa only [SampleFlow.drainLlc, foldl_applyLlc] using holds.csTable
    · exact ⟨seen, by simp [SampleFlow.drainLlc, foldl_applyLlc]⟩
  | drainDf here => exact holds.drainDf here
  | drainCs here =>
    have seen := holds.seen
    simp only [SweepsSeen, here] at seen
    refine { holds with cs := ?_, llcTable := ?_, dfTable := ?_, csTable := ?_
                        seen := ?_, maps := fun rest => by cases rest }
    · simpa [SampleFlow.drainCs] using holds.cs
    · simpa only [SampleFlow.drainCs, foldl_applyCs] using holds.llcTable
    · simpa only [SampleFlow.drainCs, foldl_applyCs] using holds.dfTable
    · simp only [SampleFlow.drainCs, foldl_applyCs, holds.csTable]
      exact (writeStates_append_list _ _ _).symm
    · simpa only [SweepsSeen, SampleFlow.drainCs, foldl_applyCs] using seen
  | publish here =>
    have seen := holds.seen
    simp only [SweepsSeen, here] at seen
    refine { holds with seen := ?_, maps := fun _ => rfl }
    simp only [SweepsSeen, SampleFlow.publish]
    rcases seen with ⟨none, latest⟩ | ⟨some, latest⟩
    · rw [none]
      exact latest
    · rw [some]
      exact max_eq_right latest

theorem SampleReachable.invariant {config : SampleConfig} {flow : SampleFlow}
    (reachable : SampleReachable config flow) : SampleInvariant config flow := by
  induction reachable with
  | refl => exact sampleInvariant_start config
  | tail _ step holds => exact sampleInvariant_step step holds

/-- A table follows a filter: the entry of a domain is the last sample received
for it, with the metric over all its samples received, and is empty before. -/
def Follows {ω α : Type} (domain : ω → Nat) (metric : ω → FilteredMetric) (value : ω → α)
    (cfg : FilterConfig) (states : List (Option α)) (received : List ω) : Prop :=
  ∀ domainId < states.length,
    getFlat states domainId = (updatesOf domain domainId received).getLast?.map value ∧
      ∀ update, (updatesOf domain domainId received).getLast? = some update →
        metric update = (metricRun cfg (samplesOf domain metric domainId received)).metric

theorem Filtered.follows {ω α : Type} {domain : ω → Nat} {metric : ω → FilteredMetric}
    {value : ω → α} {cfg : FilterConfig} {metrics : Nat → FilteredMetric} {received channel : List ω}
    (filtered : Filtered domain metric cfg metrics (received ++ channel)) (size : Nat) :
    Follows domain metric value cfg
      (writeStates domain value (List.replicate size none) received) received := by
  intro domainId within
  rw [writeStates_length] at within
  refine ⟨?_, fun update last => filtered.last last⟩
  rw [getFlat_writeStates _ _ within]
  have empty : getFlat (List.replicate size (none : Option α)) domainId = none := by
    rw [List.length_replicate] at within
    simp [getFlat, within]
  rw [empty, Option.or_none]

/-- In every interleaving of the samplers with the main loop, the three tables
follow the filters of their samplers. -/
theorem SampleReachable.tables_follow {config : SampleConfig} {flow : SampleFlow}
    (reachable : SampleReachable config flow) :
    Follows LlcSampleUpdate.domainId LlcSampleUpdate.metric LlcSampleUpdate.value config.llcFilter
        flow.update.states.llcStates flow.llcReceived ∧
      Follows DfSampleUpdate.domainId DfSampleUpdate.metric DfSampleUpdate.value config.ccmFilter
        flow.update.states.dfStates (dfUpdates flow.dfReceived) ∧
      Follows DfSampleUpdate.domainId DfSampleUpdate.metric DfSampleUpdate.value config.csFilter
        flow.update.states.dfCsStates flow.csReceived := by
  have holds := reachable.invariant
  refine ⟨?_, ?_, ?_⟩
  · rw [holds.llcTable]
    exact holds.llc.follows _
  · rw [holds.dfTable]
    exact holds.ccm.follows _
  · rw [holds.csTable]
    exact holds.cs.follows _

/-- One domain with one CCM. -/
def oneDomain : SampleConfig where
  llcFilter := ⟨50, 8000, 4000, 2, 2⟩
  ccmFilter := ⟨50, 8000, 4000, 2, 2⟩
  csFilter := ⟨50, 8000, 4000, 2, 2⟩
  topo := { nrCpuIds := 1, domains := [⟨0, 0, 0, [0]⟩], cpuToDomain := [some 0] }
  mapping :=
    { domainToCcx := [0]
      domainToCcm := [some 0]
      domainToDfCapacityMibSX100 := [none]
      csLinkCapacityMibSX100 := [none]
      eligibleDomains := .ofList [0]
      excludedDomains := ∅
      eligibleCpus := .ofList [0] }

/-- A sweep with one sample, from the sampler to the maps of the BPF side. -/
def oneSweep : SampleFlow :=
  let sampled := oneDomain.start.sendCcm oneDomain
    ⟨0, 0, 0, 16, defaultDfCapacityMibSX100⟩ ⟨90000, 50000⟩ 5
  sampled.sendSweepComplete.drainLlc.drainDf.drainCs.publish

theorem oneSweep_reachable : SampleReachable oneDomain oneSweep := by
  have sampled : SampleReachable oneDomain _ :=
    .single (.sendCcm oneDomain.start ⟨0, 0, 0, 16, defaultDfCapacityMibSX100⟩ ⟨90000, 50000⟩ 5 rfl)
  have drained := ((sampled.tail (.sweepComplete _)).tail (.drainLlc _ rfl)).tail (.drainDf _ rfl)
  exact (drained.tail (.drainCs _ rfl)).tail (.publish _ rfl)

theorem tables_follow_oneSweep :
    (dfUpdates oneSweep.dfReceived).length = 1 ∧
      Follows DfSampleUpdate.domainId DfSampleUpdate.metric DfSampleUpdate.value oneDomain.ccmFilter
        oneSweep.update.states.dfStates (dfUpdates oneSweep.dfReceived) :=
  ⟨rfl, oneSweep_reachable.tables_follow.2.1⟩

/-- While the main loop plans and dispatches, its sweep epoch is the number of
sweeps whose end it received, every sample that is still on its way was sent after
the end of that sweep, and the maps of the BPF side hold its tables. -/
theorem SampleReachable.rests {config : SampleConfig} {flow : SampleFlow}
    (reachable : SampleReachable config flow) (here : flow.phase = .llc) :
    flow.latestDfSweepEpoch = min (sweepEpochs flow.dfReceived).length u64Max ∧
      (∀ before update after, flow.dfChannel = before ++ .sample update :: after →
        flow.latestDfSweepEpoch ≤ (sweepEpochs (flow.dfReceived ++ before)).length) ∧
      flow.maps =
        updateDomainStateMaps flow.update.states.llcStates flow.update.states.dfStates := by
  have holds := reachable.invariant
  have seen := holds.seen
  simp only [SweepsSeen, here] at seen
  refine ⟨seen, fun before update after _ => ?_, holds.maps here⟩
  rw [seen, sweepEpochs_append, List.length_append]
  omega

theorem rests_oneSweep :
    oneSweep.latestDfSweepEpoch = 1 ∧
      oneSweep.latestDfSweepEpoch = min (sweepEpochs oneSweep.dfReceived).length u64Max ∧
      oneSweep.maps =
        updateDomainStateMaps oneSweep.update.states.llcStates oneSweep.update.states.dfStates :=
  have rest := oneSweep_reachable.rests rfl
  ⟨rfl, rest.1, rest.2.2⟩

end CSwitch.Sampler
