import CSwitch.Policy.Signature

/-! Signatures of threads. A run between two snapshots of the link bandwidths is
one sample of what the thread adds to the links; attribution to a plan adds its
own samples. Every field is averaged on its own. -/

set_option autoImplicit false

namespace CSwitch.Attribution

open Policy

def minValidRunNs : Nat := 200000

/-- A field that is zero takes the sample as it is. -/
def ewmaU32 (previous sample : Nat) : Nat :=
  if previous = 0 then sample else (previous * 3 + sample) / 4

def saturatingRatioU32 (value numerator denominator : Nat) : Nat :=
  if denominator = 0 then u32Max else min (value * numerator / denominator) u32Max

/-- `fold(0u32, |acc, value| acc.saturating_add(value))`. -/
def satSum32 (values : List Nat) : Nat := values.foldl satAdd32 0

def taskTotalFillBwX100 (task : QueuedTask) : Nat := satSum32 task.lastFillBwMibSX100.toList

/-! ## Caps of the attribution signature -/

def ioCsSignatureFillCapNumerator : Nat := 5
def ioCsSignatureFillCapDenominator : Nat := 4
def ioCsSignatureFillCapHeadroomX100 : Nat := 50000
def ioCsSignatureStartupCapDivisor : Nat := 4
def ioCsSignatureStartupCapFloorX100 : Nat := 500000
def ioCsSignatureHistoryGrowthNumerator : Nat := 2
def ioCsSignatureHistoryGrowthDenominator : Nat := 1
def planCsNegativeDecayDivisor : Nat := 16

def ioCsTaskFillCapX100 (task : QueuedTask) : Nat :=
  let totalFill := taskTotalFillBwX100 task
  if totalFill = 0 then 0
  else
    satAdd32
      (saturatingRatioU32 totalFill ioCsSignatureFillCapNumerator ioCsSignatureFillCapDenominator)
      ioCsSignatureFillCapHeadroomX100

def ioCsStartupLinkCapX100 (mapping : MappingInfo) (linkId : Nat) : Nat :=
  max (mapping.csCapacityMibSX100 linkId / ioCsSignatureStartupCapDivisor)
    ioCsSignatureStartupCapFloorX100

def ioCsHistoryLinkCapX100 (previousSignature : ThreadSignature) (mapping : MappingInfo)
    (linkId : Nat) : Nat :=
  let startupCap := ioCsStartupLinkCapX100 mapping linkId
  if !previousSignature.valid then startupCap
  else
    let previous := previousSignature.dfDomainDeltaX100[linkId]?.getD 0
    if previous = 0 then startupCap
    else
      max (satAdd32
          (saturatingRatioU32 previous ioCsSignatureHistoryGrowthNumerator
            ioCsSignatureHistoryGrowthDenominator)
          ioCsSignatureFillCapHeadroomX100)
        startupCap

def clampIoCsSignatureDeltas (dfDomainDeltaX100 : Vector Nat maxDomains)
    (previousSignature : ThreadSignature) (task : QueuedTask) (mapping : MappingInfo)
    (validDomains : Nat) : Vector Nat maxDomains :=
  let fillCap := ioCsTaskFillCapX100 task
  dfDomainDeltaX100.mapIdx fun idx delta =>
    if min validDomains maxDomains ≤ idx ∨ delta = 0 then delta
    else if fillCap = 0 then 0
    else min (min delta fillCap) (ioCsHistoryLinkCapX100 previousSignature mapping idx)

/-! ## Samples -/

def rawDfSnapshot (dfStates : List (Option CcmDfStateValue)) (nowNs staleMs : Nat) :
    Option (Vector Nat maxDomains × Nat) :=
  let validDomains := min dfStates.length maxDomains
  if validDomains = 0 then none
  else
    let snapshot := Vector.ofFn fun idx : Fin maxDomains =>
      match getFlat dfStates idx with
      | none => 0
      | some state =>
          if state.valid = 0 ∨ isStale state.sampleTsNs nowNs staleMs then 0 else state.bwX100
    some (snapshot, validDomains)

/-- `((u64::from(delta) * 10_000) / u64::from(previous)) as u32`: the deviation of
a sample in hundredths of a percent, cut to 32 bits. -/
def deviationPctU32 (previous sample : Nat) : Nat :=
  ((previous - sample) + (sample - previous)) * 10000 / previous % (u32Max + 1)

def signatureConfidenceX100 (previous : ThreadSignature) (sampleDfX100 sampleLlcX100 : Nat) : Nat :=
  if !previous.valid then 7000
  else
    let dfPct := deviationPctU32 (max previous.projectedDfPressureX100 1) sampleDfX100
    let llcPct := deviationPctU32 (max previous.projectedLlcPressureX100 1) sampleLlcX100
    let deltaPct := max dfPct llcPct
    if deltaPct ≤ 2500 then min (satAdd32 previous.confidenceX100 1000) 10000
    else if deltaPct ≤ 5000 then min (satAdd32 previous.confidenceX100 300) 10000
    else if deltaPct ≤ 10000 then max (previous.confidenceX100 - 1500) 1000
    else max (previous.confidenceX100 - 2500) 500

def fillShareX100 (fillBw : Vector Nat memSourceCount) : Vector Nat memSourceCount :=
  let total := fillBw.toList.foldl satAdd64 0
  if total = 0 then Vector.replicate memSourceCount 0
  else fillBw.map fun value => min (value * 10000 / total) u32Max

inductive SignatureUpdateKind where
  | placement
  | ioCs
  deriving DecidableEq

/-- What the run of a task says about the links. -/
structure LinkSample where
  validDomains : Nat
  rawDfDomainDeltaX100 : Vector Nat maxDomains
  dfDomainDeltaX100 : Vector Nat maxDomains
  projectedDfPressureX100 : Nat
  projectedLlcPressureX100 : Nat

/-- The first part of `update_signature_state`: the sample, none where it returns
early. -/
def linkSample (previousSignature : ThreadSignature) (snapshotSlot : Option DispatchSnapshot)
    (task : QueuedTask) (mapping : MappingInfo) (dfStates : List (Option CcmDfStateValue))
    (nowNs staleMs : Nat) (kind : SignatureUpdateKind) : Option LinkSample := do
  let snapshot ← snapshotSlot
  if task.stopTs ≤ task.startTs then none
  else if task.stopTs - task.startTs < minValidRunNs then none
  else
    let (currentDf, validDomains) ← rawDfSnapshot dfStates nowNs staleMs
    if validDomains ≠ snapshot.validDomains then none
    else
      let rawDfDomainDeltaX100 := Vector.ofFn fun idx : Fin maxDomains =>
        if idx < validDomains then currentDf.get idx - snapshot.dfRawBwMibSX100.get idx else 0
      let dfDomainDeltaX100 :=
        match kind with
        | .placement => rawDfDomainDeltaX100
        | .ioCs =>
            clampIoCsSignatureDeltas rawDfDomainDeltaX100 previousSignature task mapping validDomains
      let projectedDfPressureX100 := satSum32 (dfDomainDeltaX100.toList.take validDomains)
      let capacityMibSX100 := (snapshot.selectedDomain.map mapping.dfCapacityMibSX100).getD
        mapping.maxDfCapacityMibSX100
      let projectedLlcPressureX100 := l2BwToPressureX100 (taskTotalFillBwX100 task) capacityMibSX100
      let hasSignal := decide (projectedDfPressureX100 > 0) ||
        task.lastFillBwMibSX100.toList.any fun value => decide (value > 0)
      if !hasSignal then none
      else
        some
          { validDomains
            rawDfDomainDeltaX100
            dfDomainDeltaX100
            projectedDfPressureX100
            projectedLlcPressureX100 }

def signatureStable (sampleCount confidenceX100 : Nat) : Bool :=
  decide (sampleCount ≥ signatureStableSamples) &&
    decide (confidenceX100 ≥ signatureConfidenceThresholdX100)

/-- The second part: every field takes its share of the sample. -/
def recordLinkSample (signature : ThreadSignature) (task : QueuedTask) (nowNs : Nat)
    (sample : LinkSample) : ThreadSignature :=
  let confidenceX100 := signatureConfidenceX100 signature sample.projectedDfPressureX100
    sample.projectedLlcPressureX100
  let sampleCount := satAdd32 signature.sampleCount 1
  let fillShare := fillShareX100 task.lastFillBwMibSX100
  { valid := true
    stable := signatureStable sampleCount confidenceX100
    sampleCount
    lastUpdateNs := nowNs
    confidenceX100
    fillBwMibSX100 := signature.fillBwMibSX100.zipWith ewmaU32 task.lastFillBwMibSX100
    fillShareX100 := signature.fillShareX100.zipWith ewmaU32 fillShare
    projectedDfPressureX100 := ewmaU32 signature.projectedDfPressureX100
      sample.projectedDfPressureX100
    projectedLlcPressureX100 := ewmaU32 signature.projectedLlcPressureX100
      sample.projectedLlcPressureX100
    dfDomainDeltaX100 := Vector.ofFn fun idx : Fin maxDomains =>
      if idx < sample.validDomains then
        ewmaU32 (signature.dfDomainDeltaX100.get idx) (sample.dfDomainDeltaX100.get idx)
      else signature.dfDomainDeltaX100.get idx
    rawDfDomainDeltaX100 := Vector.ofFn fun idx : Fin maxDomains =>
      if idx < sample.validDomains then sample.rawDfDomainDeltaX100.get idx
      else signature.rawDfDomainDeltaX100.get idx }

/-- `update_signature_state`: the signature after the call, and the snapshot
slot, which it always empties. -/
def updateSignatureState (signature : ThreadSignature) (snapshotSlot : Option DispatchSnapshot)
    (task : QueuedTask) (mapping : MappingInfo) (dfStates : List (Option CcmDfStateValue))
    (nowNs staleMs : Nat) (kind : SignatureUpdateKind) :
    ThreadSignature × Option DispatchSnapshot :=
  match linkSample signature snapshotSlot task mapping dfStates nowNs staleMs kind with
  | none => (signature, none)
  | some sample => (recordLinkSample signature task nowNs sample, none)

/-! ## Attribution to a plan -/

/-- `raw_share_x100 == 0 || link_id >= MAX_DOMAINS`: the update returns early. -/
def planCsShareIgnored (linkId rawShareX100 : Nat) : Bool :=
  decide (rawShareX100 = 0) || decide (linkId ≥ maxDomains)

def updatePlanCsThreadSignature (thread : ManagedThreadState) (linkId linkCount rawShareX100 : Nat)
    (linkDeltaX100 : Int) (nowNs : Nat) : ManagedThreadState :=
  if planCsShareIgnored linkId rawShareX100 then thread
  else
    let signature := thread.ioCsSignature
    let fillShare := fillShareX100 thread.lastFillBwMibSX100
    let sampleCount := satAdd32 signature.sampleCount 1
    let confidenceX100 :=
      if signature.valid then min (satAdd32 signature.confidenceX100 500) 10000 else 7000
    let previousLink := signature.dfDomainDeltaX100[linkId]?.getD 0
    let (rawLink, filteredLink) :=
      if linkDeltaX100 > 0 then (rawShareX100, ewmaU32 previousLink rawShareX100)
      else (0, previousLink - divCeil rawShareX100 planCsNegativeDecayDivisor)
    let dfDomainDeltaX100 := signature.dfDomainDeltaX100.setIfInBounds linkId filteredLink
    { thread with
      ioCsSignature :=
        { valid := true
          stable := signatureStable sampleCount confidenceX100
          sampleCount
          lastUpdateNs := nowNs
          confidenceX100
          fillBwMibSX100 := signature.fillBwMibSX100.zipWith ewmaU32 thread.lastFillBwMibSX100
          fillShareX100 := signature.fillShareX100.zipWith ewmaU32 fillShare
          projectedDfPressureX100 := satSum32
            (dfDomainDeltaX100.toList.take (min linkCount maxDomains))
          projectedLlcPressureX100 := ewmaU32 signature.projectedLlcPressureX100
            thread.lastL2BwMibSX100
          dfDomainDeltaX100
          rawDfDomainDeltaX100 := signature.rawDfDomainDeltaX100.setIfInBounds linkId rawLink } }

end CSwitch.Attribution
