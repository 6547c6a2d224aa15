import CSwitch.Dispatch.Overflow
import CSwitch.Filter.Metric

/-! From the samplers to the scheduler: the threads that filter the samples of
their resources and send them, the main loop that takes them out of the channels
into its state tables, and the maps of the BPF side that are written from these. -/

set_option autoImplicit false

namespace CSwitch.Sampler

open Std (TreeSet)
open CSwitch.Filter

/-! ## Messages -/

structure LlcSampleUpdate where
  domainId : Nat
  rawL3ToL3NsX100 : Nat
  rawDramLatNsX100 : Nat
  rawL3BwMibSX100 : Nat
  rawMissRatioPpm : Nat
  rawL3ReqPerS : Nat
  rawL3MissPerS : Nat
  metric : FilteredMetric

structure DfSampleUpdate where
  domainId : Nat
  ccxId : Nat
  ccmId : Nat
  rawReadBwMibSX100 : Nat
  rawWriteBwMibSX100 : Nat
  metric : FilteredMetric

inductive DfSamplerEvent where
  | sample (update : DfSampleUpdate)
  | sweepComplete (epoch sampledDomains : Nat)

def LlcSampleUpdate.value (update : LlcSampleUpdate) : LlcStateValue where
  sampleTsNs := update.metric.sampleTsNs
  rawL3ToL3NsX100 := update.rawL3ToL3NsX100
  rawDramLatNsX100 := update.rawDramLatNsX100
  rawL3BwMibSX100 := update.rawL3BwMibSX100
  rawMissRatioPpm := update.rawMissRatioPpm
  rawL3ReqPerS := update.rawL3ReqPerS
  rawL3MissPerS := update.rawL3MissPerS
  rawPressurePctX100 := update.metric.rawX100
  ewmaPressurePctX100 := update.metric.ewmaX100
  state := update.metric.state.code
  hotCount := update.metric.hotCount
  coolCount := update.metric.coolCount
  valid := update.metric.valid.toNat

def DfSampleUpdate.value (update : DfSampleUpdate) : CcmDfStateValue where
  sampleTsNs := update.metric.sampleTsNs
  ccxId := update.ccxId
  ccmId := update.ccmId
  rawReadBwMibSX100 := update.rawReadBwMibSX100
  rawWriteBwMibSX100 := update.rawWriteBwMibSX100
  rawPressurePctX100 := update.metric.rawX100
  ewmaPressurePctX100 := update.metric.ewmaX100
  state := update.metric.state.code
  hotCount := update.metric.hotCount
  coolCount := update.metric.coolCount
  valid := update.metric.valid.toNat

/-! ## The main loop -/

structure SampleUpdateSummary where
  latestDfSweepEpoch : Option Nat := none
  domainStateFlips : TreeSet Nat := ∅

structure SampleStates where
  llcStates : List (Option LlcStateValue)
  dfStates : List (Option CcmDfStateValue)
  dfCsStates : List (Option CcmDfStateValue)

/-- A table after an update. A domain that the table does not have is skipped. -/
def writeState {α : Type} (states : List (Option α)) (domainId : Nat) (value : α) :
    List (Option α) :=
  states.set domainId (some value)

/-- The state of the domain is noted as flipped when it was another one before, or none. -/
def noteFlip {α : Type} (code : α → Nat) (states : List (Option α)) (domainId : Nat) (value : α)
    (flips : TreeSet Nat) : TreeSet Nat :=
  if domainId < states.length ∧ (getFlat states domainId).map code ≠ some (code value) then
    flips.insert domainId
  else flips

structure UpdateState where
  states : SampleStates
  summary : SampleUpdateSummary := {}

namespace UpdateState

def applyLlc (state : UpdateState) (update : LlcSampleUpdate) : UpdateState where
  states := { state.states with
    llcStates := writeState state.states.llcStates update.domainId update.value }
  summary := { state.summary with
    domainStateFlips := noteFlip (·.state) state.states.llcStates update.domainId update.value
      state.summary.domainStateFlips }

def applyDf (state : UpdateState) (event : DfSamplerEvent) : UpdateState :=
  match event with
  | .sample update =>
      { states := { state.states with
          dfStates := writeState state.states.dfStates update.domainId update.value }
        summary := { state.summary with
          domainStateFlips := noteFlip (·.state) state.states.dfStates update.domainId update.value
            state.summary.domainStateFlips } }
  | .sweepComplete epoch _ =>
      { state with summary := { state.summary with latestDfSweepEpoch := some epoch } }

def applyCs (state : UpdateState) (update : DfSampleUpdate) : UpdateState :=
  { state with states := { state.states with
      dfCsStates := writeState state.states.dfCsStates update.domainId update.value } }

end UpdateState

/-- What `apply_sample_updates` makes of the messages that it finds in the channels. -/
def applySampleUpdates (llc : List LlcSampleUpdate) (df : List DfSamplerEvent)
    (dfCs : List DfSampleUpdate) (states : SampleStates) : UpdateState :=
  let state := llc.foldl UpdateState.applyLlc { states }
  let state := df.foldl UpdateState.applyDf state
  dfCs.foldl UpdateState.applyCs state

structure DomainStateMaps where
  llcStateMap : List LlcStateValue := List.replicate maxDomains {}
  dfStateMap : List CcmDfStateValue := List.replicate maxDomains {}

def updateDomainStateMaps (llcStates : List (Option LlcStateValue))
    (dfStates : List (Option CcmDfStateValue)) : DomainStateMaps where
  llcStateMap := (List.range maxDomains).map fun domain => (getFlat llcStates domain).getD {}
  dfStateMap := (List.range maxDomains).map fun domain => (getFlat dfStates domain).getD {}

/-! ## The samplers -/

structure CcmResource where
  domainId : Nat
  ccxId : Nat
  ccmId : Nat
  instanceId : Nat
  capacityMibSX100 : Nat

structure CsResource where
  domainId : Nat
  instanceId : Nat
  capacityMibSX100 : Nat

def resourcesFromMapping (mapping : MappingInfo) : List CcmResource :=
  mapping.domainToCcm.zipIdx.filterMap fun (ccm, domainIdx) =>
    ccm.map fun ccmId =>
      { domainId := domainIdx
        ccxId := mapping.domainToCcx.getD domainIdx 0
        ccmId
        instanceId := 0x10 + ccmId
        capacityMibSX100 := mapping.dfCapacityMibSX100 domainIdx }

def csLinkCount (mapping : MappingInfo) : Nat :=
  min (max mapping.domainToCcx.length mapping.csLinkCapacityMibSX100.length) maxDomains

def resourcesFromTopology (topo : TopologyLayout) (mapping : MappingInfo) : List CsResource :=
  (List.range (min (max topo.domains.length (csLinkCount mapping)) maxDomains)).map fun linkId =>
    { domainId := linkId
      instanceId := linkId
      capacityMibSX100 := mapping.csCapacityMibSX100 linkId }

/-- The bandwidths that a sample of the fabric measured. -/
structure DfRawSample where
  readBwMibSX100 : Nat
  writeBwMibSX100 : Nat

def DfRawSample.rawPressureX100 (raw : DfRawSample) (capacityMibSX100 : Nat) : Nat :=
  Dispatch.pressureFromBwX100 raw.readBwMibSX100 raw.writeBwMibSX100 capacityMibSX100

structure SamplerMetrics where
  llc : Nat → FilteredMetric := fun _ => {}
  ccm : Nat → FilteredMetric := fun _ => {}
  cs : Nat → FilteredMetric := fun _ => {}

/-- The configurations of the three filters, the resources, and the sizes of the tables. -/
structure SampleConfig where
  llcFilter : FilterConfig
  ccmFilter : FilterConfig
  csFilter : FilterConfig
  topo : TopologyLayout
  mapping : MappingInfo

/-- What the main loop does next with its samples. It is at `llc` while it plans
and dispatches. -/
inductive ReceivePhase where
  | llc
  | df
  | cs
  | publish
deriving DecidableEq

structure SampleFlow where
  metrics : SamplerMetrics := {}
  /-- Where `df_ccm_sampler` is in its sweep. -/
  position : Nat := 0
  sampledDomains : Nat := 0
  epoch : Nat := 0
  llcChannel : List LlcSampleUpdate := []
  dfChannel : List DfSamplerEvent := []
  csChannel : List DfSampleUpdate := []
  phase : ReceivePhase := .llc
  update : UpdateState
  latestDfSweepEpoch : Nat := 0
  maps : DomainStateMaps := {}
  /-- The messages that the main loop took out of the channels so far. -/
  llcReceived : List LlcSampleUpdate := []
  dfReceived : List DfSamplerEvent := []
  csReceived : List DfSampleUpdate := []

namespace SampleFlow

variable (config : SampleConfig) (flow : SampleFlow)

/-- A thread of `llc_sampler`; `raw` holds what `sample_domain` measured. -/
def sendLlc (raw : LlcSampleUpdate) (sampleTsNs : Nat) : SampleFlow :=
  let metric := updateMetric (flow.metrics.llc raw.domainId) raw.metric.rawX100 sampleTsNs
    config.llcFilter
  { flow with
    metrics := { flow.metrics with llc := Function.update flow.metrics.llc raw.domainId metric }
    llcChannel := flow.llcChannel ++ [{ raw with metric }] }

/-- The next resource of a sweep of `df_ccm_sampler`. -/
def sendCcm (resource : CcmResource) (raw : DfRawSample) (tsNs : Nat) : SampleFlow :=
  let metric := updateMetric (flow.metrics.ccm resource.domainId)
    (raw.rawPressureX100 resource.capacityMibSX100) tsNs config.ccmFilter
  { flow with
    metrics := { flow.metrics with ccm := Function.update flow.metrics.ccm resource.domainId metric }
    position := flow.position + 1
    sampledDomains := flow.sampledDomains + 1
    dfChannel := flow.dfChannel ++ [.sample
      { domainId := resource.domainId
        ccxId := resource.ccxId
        ccmId := resource.ccmId
        rawReadBwMibSX100 := raw.readBwMibSX100
        rawWriteBwMibSX100 := raw.writeBwMibSX100
        metric }] }

/-- A sample failed; the sweep goes on. -/
def skipCcm : SampleFlow := { flow with position := flow.position + 1 }

/-- The end of a sweep. -/
def sendSweepComplete : SampleFlow :=
  let epoch := satAdd64 flow.epoch 1
  { flow with
    position := 0
    sampledDomains := 0
    epoch
    dfChannel := flow.dfChannel ++ [.sweepComplete epoch flow.sampledDomains] }

def sendCs (resource : CsResource) (raw : DfRawSample) (tsNs : Nat) : SampleFlow :=
  let metric := updateMetric (flow.metrics.cs resource.domainId)
    (raw.rawPressureX100 resource.capacityMibSX100) tsNs config.csFilter
  { flow with
    metrics := { flow.metrics with cs := Function.update flow.metrics.cs resource.domainId metric }
    csChannel := flow.csChannel ++ [
      { domainId := resource.domainId
        ccxId := resource.domainId
        ccmId := resource.instanceId
        rawReadBwMibSX100 := raw.readBwMibSX100
        rawWriteBwMibSX100 := raw.writeBwMibSX100
        metric }] }

/-- The start of an iteration, and the first `while let` of `apply_sample_updates`. -/
def drainLlc : SampleFlow :=
  { flow with
    update := flow.llcChannel.foldl UpdateState.applyLlc { states := flow.update.states }
    llcChannel := []
    llcReceived := flow.llcReceived ++ flow.llcChannel
    phase := .df }

def drainDf : SampleFlow :=
  { flow with
    update := flow.dfChannel.foldl UpdateState.applyDf flow.update
    dfChannel := []
    dfReceived := flow.dfReceived ++ flow.dfChannel
    phase := .cs }

def drainCs : SampleFlow :=
  { flow with
    update := flow.csChannel.foldl UpdateState.applyCs flow.update
    csChannel := []
    csReceived := flow.csReceived ++ flow.csChannel
    phase := .publish }

/-- `latest_df_sweep_epoch` and the maps, right after the samples are applied. -/
def publish : SampleFlow :=
  { flow with
    latestDfSweepEpoch :=
      match flow.update.summary.latestDfSweepEpoch with
      | some epoch => max flow.latestDfSweepEpoch epoch
      | none => flow.latestDfSweepEpoch
    maps := updateDomainStateMaps flow.update.states.llcStates flow.update.states.dfStates
    phase := .llc }

end SampleFlow

def SampleConfig.start (config : SampleConfig) : SampleFlow where
  update := { states :=
    { llcStates := List.replicate config.topo.domains.length none
      dfStates := List.replicate config.topo.domains.length none
      dfCsStates := List.replicate (csLinkCount config.mapping) none } }

/-- One step of a sampler or of the main loop. A channel is drained at the moment
when the loop finds it empty. -/
inductive SampleStep (config : SampleConfig) : SampleFlow → SampleFlow → Prop where
  | sendLlc (flow : SampleFlow) (raw : LlcSampleUpdate) (sampleTsNs : Nat)
      (listed : raw.domainId ∈ config.topo.domains.map DomainInfo.domainId) :
      SampleStep config flow (flow.sendLlc config raw sampleTsNs)
  | sendCcm (flow : SampleFlow) (resource : CcmResource) (raw : DfRawSample) (tsNs : Nat)
      (here : (resourcesFromMapping config.mapping)[flow.position]? = some resource) :
      SampleStep config flow (flow.sendCcm config resource raw tsNs)
  | skipCcm (flow : SampleFlow)
      (here : flow.position < (resourcesFromMapping config.mapping).length) :
      SampleStep config flow flow.skipCcm
  | sweepComplete (flow : SampleFlow) :
      -- also in the middle of a sweep, when the thread is stopped
      SampleStep config flow flow.sendSweepComplete
  | sendCs (flow : SampleFlow) (resource : CsResource) (raw : DfRawSample) (tsNs : Nat)
      (listed : resource ∈ resourcesFromTopology config.topo config.mapping) :
      SampleStep config flow (flow.sendCs config resource raw tsNs)
  | drainLlc (flow : SampleFlow) (here : flow.phase = .llc) : SampleStep config flow flow.drainLlc
  | drainDf (flow : SampleFlow) (here : flow.phase = .df) : SampleStep config flow flow.drainDf
  | drainCs (flow : SampleFlow) (here : flow.phase = .cs) : SampleStep config flow flow.drainCs
  | publish (flow : SampleFlow) (here : flow.phase = .publish) : SampleStep config flow flow.publish

def SampleReachable (config : SampleConfig) : SampleFlow → Prop :=
  Relation.ReflTransGen (SampleStep config) config.start

end CSwitch.Sampler
