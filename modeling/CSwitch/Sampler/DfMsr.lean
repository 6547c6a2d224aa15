import CSwitch.Types

/-! The samplers of the data fabric. Both program the same two performance
counters through `/dev/cpu/0/msr` and take turns under one lock, but disable the
counters without it after an error and at their end. -/

set_option autoImplicit false

namespace CSwitch.Sampler

/-! ## Control words -/

def packDfPerfCtl (eventSel unitMask en : Nat) : Nat :=
  ((eventSel >>> 12) &&& 0x3) <<< 36 ||| ((eventSel >>> 8) &&& 0xF) <<< 32 |||
    ((unitMask >>> 8) &&& 0xF) <<< 24 ||| (en &&& 0x1) <<< 22 |||
    (unitMask &&& 0xFF) <<< 8 ||| (eventSel &&& 0xFF)

/-- `MASK_48`. -/
def mask48 : Nat := 2 ^ 48 - 1

inductive DfSampler where
  | ccm
  | cs
deriving DecidableEq

/-- The counters 0 and 1, for what is read and what is written. -/
inductive PerfSlot where
  | read
  | write
deriving DecidableEq

/-- The event of a resource; the shift is one of `u32`. -/
def DfSampler.eventSel (sampler : DfSampler) (instanceId : Nat) : Nat :=
  (instanceId <<< 6) % 2 ^ 32 ||| match sampler with
    | .ccm => 0x1e
    | .cs => 0x1f

def PerfSlot.unitMask : PerfSlot → Nat
  | .read => 0xffe
  | .write => 0xfff

/-- `read_cfg` and `write_cfg` of `sample_resource`. -/
def DfSampler.control (sampler : DfSampler) (instanceId : Nat) (slot : PerfSlot) : Nat :=
  packDfPerfCtl (sampler.eventSel instanceId) slot.unitMask 1

/-! ## The registers -/

structure DfPmc where
  ctl : PerfSlot → Nat := fun _ => 0
  ctr : PerfSlot → Nat := fun _ => 0

/-- A beat on the fabric is counted in both counters whose control word selects
it; the counters have 48 bits. -/
def DfPmc.count {β : Type} (counts : Nat → β → Bool) (beat : β) (pmc : DfPmc) : DfPmc :=
  { pmc with
    ctr := fun slot =>
      if counts (pmc.ctl slot) beat then (pmc.ctr slot + 1) % 2 ^ 48 else pmc.ctr slot }

def DfPmc.writeCtl (pmc : DfPmc) (slot : PerfSlot) (value : Nat) : DfPmc :=
  { pmc with ctl := Function.update pmc.ctl slot value }

def DfPmc.writeCtr (pmc : DfPmc) (slot : PerfSlot) (value : Nat) : DfPmc :=
  { pmc with ctr := Function.update pmc.ctr slot value }

/-! ## A sampler -/

/-- What a sampler does next. The phases from `control` to `disable` are those
of `sample_resource` under the lock. -/
inductive SamplerPhase where
  | idle
  | control (slot : PerfSlot)
  | reset (slot : PerfSlot)
  | window
  | readout (slot : PerfSlot)
  | disable (slot : PerfSlot)
  | cleanup (slot : PerfSlot) (final : Bool)
  | exited
deriving DecidableEq

namespace SamplerPhase

def locked : SamplerPhase → Bool
  | .control _ | .reset _ | .window | .readout _ | .disable _ => true
  | .idle | .cleanup _ _ | .exited => false

/-- The steps that return early with `?`. -/
def fallible : SamplerPhase → Bool
  | .control _ | .reset _ | .readout _ => true
  | .idle | .window | .disable _ | .cleanup _ _ | .exited => false

/-- The phase after a step that succeeded. -/
def next : SamplerPhase → SamplerPhase
  | .control .read => .control .write
  | .control .write => .reset .read
  | .reset .read => .reset .write
  | .reset .write => .window
  | .window => .readout .read
  | .readout .read => .readout .write
  | .readout .write => .disable .read
  | .disable .read => .disable .write
  | .cleanup .read final => .cleanup .write final
  | .cleanup .write true => .exited
  | .disable .write | .cleanup .write false | .idle => .idle
  | .exited => .exited

end SamplerPhase

/-- What has happened to one counter in the current sample. -/
inductive SlotStage where
  | before
  | programmed
  | counting
  | done
deriving DecidableEq

def SamplerPhase.stage : SamplerPhase → PerfSlot → SlotStage
  | .control .write, .read => .programmed
  | .reset .read, _ => .programmed
  | .reset .write, .read => .counting
  | .reset .write, .write => .programmed
  | .window, _ => .counting
  | .readout .read, _ => .counting
  | .readout .write, .read => .done
  | .readout .write, .write => .counting
  | .disable _, _ => .done
  | .control .read, _ | .control .write, .write | .idle, _ | .cleanup _ _, _ | .exited, _ => .before

/-- A sample with what it should have read: the beats that its own control word
selects between the reset and the readout of the counter, and whether the other
sampler disabled the counter between its programming and the readout. -/
structure DfReading where
  instanceId : Nat
  beats : PerfSlot → Nat
  own : PerfSlot → Nat
  disturbed : PerfSlot → Bool

structure SamplerState where
  phase : SamplerPhase := .idle
  reading : DfReading := ⟨0, fun _ => 0, fun _ => 0, fun _ => false⟩

structure DfSystem where
  pmc : DfPmc := {}
  /-- `DF_MSR_LOCK`. -/
  lock : Option DfSampler := none
  samplers : DfSampler → SamplerState := fun _ => {}
  samples : List (DfSampler × DfReading) := []
  /-- How often `disable_counters` was called without the lock. -/
  cleanups : Nat := 0

namespace DfSystem

variable (system : DfSystem)

def setSampler (sampler : DfSampler) (state : SamplerState) : DfSystem :=
  { system with samplers := Function.update system.samplers sampler state }

def advance (sampler : DfSampler) (reading : DfReading) : DfSystem :=
  system.setSampler sampler ⟨(system.samplers sampler).phase.next, reading⟩

/-- The beat is also noted for a sampler that counts in its window. -/
def beat {β : Type} (counts : Nat → β → Bool) (beat : β) : DfSystem :=
  { system with
    pmc := system.pmc.count counts beat
    samplers := fun sampler =>
      let state := system.samplers sampler
      { state with reading := { state.reading with
          own := fun slot =>
            if state.phase.stage slot = .counting ∧
                counts (sampler.control state.reading.instanceId slot) beat then
              state.reading.own slot + 1
            else state.reading.own slot } } }

def acquire (sampler : DfSampler) (instanceId : Nat) : DfSystem :=
  { system.setSampler sampler
      ⟨.control .read, ⟨instanceId, fun _ => 0, fun _ => 0, fun _ => false⟩⟩ with
    lock := some sampler }

/-- `wrmsr` of a control register. -/
def program (sampler : DfSampler) (slot : PerfSlot) : DfSystem :=
  let reading := (system.samplers sampler).reading
  { system.advance sampler
      { reading with disturbed := Function.update reading.disturbed slot false } with
    pmc := system.pmc.writeCtl slot (sampler.control reading.instanceId slot) }

/-- `wrmsr` of a counter. -/
def clear (sampler : DfSampler) (slot : PerfSlot) : DfSystem :=
  let reading := (system.samplers sampler).reading
  { system.advance sampler { reading with own := Function.update reading.own slot 0 } with
    pmc := system.pmc.writeCtr slot 0 }

def sleep (sampler : DfSampler) : DfSystem :=
  system.advance sampler (system.samplers sampler).reading

def readCtr (sampler : DfSampler) (slot : PerfSlot) : DfSystem :=
  let reading := (system.samplers sampler).reading
  system.advance sampler
    { reading with beats := Function.update reading.beats slot (system.pmc.ctr slot &&& mask48) }

/-- A write of `disable_counters`, whose errors are ignored. -/
def disable (slot : PerfSlot) (ok : Bool) : DfPmc :=
  if ok then system.pmc.writeCtl slot 0 else system.pmc

def disableLocked (sampler : DfSampler) (slot : PerfSlot) (ok : Bool) : DfSystem :=
  { system.advance sampler (system.samplers sampler).reading with pmc := system.disable slot ok }

/-- The guard is dropped and the sample is returned. -/
def finish (sampler : DfSampler) (ok : Bool) : DfSystem :=
  { system.disableLocked sampler .write ok with
    lock := none
    samples := system.samples ++ [(sampler, (system.samplers sampler).reading)] }

/-- A register access failed: the guard is dropped before `disable_counters`. -/
def fail (sampler : DfSampler) : DfSystem :=
  { system.setSampler sampler ⟨.cleanup .read false, (system.samplers sampler).reading⟩ with
    lock := none
    cleanups := system.cleanups + 1 }

/-- The end of the thread. -/
def stop (sampler : DfSampler) : DfSystem :=
  { system.setSampler sampler ⟨.cleanup .read true, (system.samplers sampler).reading⟩ with
    cleanups := system.cleanups + 1 }

/-- A write of `disable_counters` without the lock. It disturbs a sample whose
counter is programmed and not read yet. -/
def cleanupWrite (sampler : DfSampler) (slot : PerfSlot) (ok : Bool) : DfSystem :=
  let disturbs := fun state : SamplerState =>
    ok ∧ (state.phase.stage slot = .programmed ∨ state.phase.stage slot = .counting)
  { system with
    pmc := system.disable slot ok
    samplers := fun other =>
      let state := system.samplers other
      if other = sampler then { state with phase := state.phase.next }
      else if disturbs state then
        { state with reading := { state.reading with
            disturbed := Function.update state.reading.disturbed slot true } }
      else state }

end DfSystem

/-- One step of the fabric or of a sampler. `counts` is how the hardware reads a
control word. -/
inductive DfStep {β : Type} (counts : Nat → β → Bool) (resources : DfSampler → List Nat) :
    DfSystem → DfSystem → Prop where
  | beat (system : DfSystem) (beat : β) : DfStep counts resources system (system.beat counts beat)
  | acquire (system : DfSystem) (sampler : DfSampler) (instanceId : Nat)
      (here : (system.samplers sampler).phase = .idle) (free : system.lock = none)
      (listed : instanceId ∈ resources sampler) :
      DfStep counts resources system (system.acquire sampler instanceId)
  | program (system : DfSystem) (sampler : DfSampler) (slot : PerfSlot)
      (here : (system.samplers sampler).phase = .control slot) :
      DfStep counts resources system (system.program sampler slot)
  | clear (system : DfSystem) (sampler : DfSampler) (slot : PerfSlot)
      (here : (system.samplers sampler).phase = .reset slot) :
      DfStep counts resources system (system.clear sampler slot)
  | sleep (system : DfSystem) (sampler : DfSampler)
      (here : (system.samplers sampler).phase = .window) :
      DfStep counts resources system (system.sleep sampler)
  | readCtr (system : DfSystem) (sampler : DfSampler) (slot : PerfSlot)
      (here : (system.samplers sampler).phase = .readout slot) :
      DfStep counts resources system (system.readCtr sampler slot)
  | disable (system : DfSystem) (sampler : DfSampler) (ok : Bool)
      (here : (system.samplers sampler).phase = .disable .read) :
      DfStep counts resources system (system.disableLocked sampler .read ok)
  | finish (system : DfSystem) (sampler : DfSampler) (ok : Bool)
      (here : (system.samplers sampler).phase = .disable .write) :
      DfStep counts resources system (system.finish sampler ok)
  | fail (system : DfSystem) (sampler : DfSampler)
      (here : (system.samplers sampler).phase.fallible = true) :
      DfStep counts resources system (system.fail sampler)
  | stop (system : DfSystem) (sampler : DfSampler)
      (here : (system.samplers sampler).phase = .idle) :
      DfStep counts resources system (system.stop sampler)
  | cleanup (system : DfSystem) (sampler : DfSampler) (slot : PerfSlot) (final ok : Bool)
      (here : (system.samplers sampler).phase = .cleanup slot final) :
      DfStep counts resources system (system.cleanupWrite sampler slot ok)

def DfReachable {β : Type} (counts : Nat → β → Bool) (resources : DfSampler → List Nat) :
    DfSystem → Prop :=
  Relation.ReflTransGen (DfStep counts resources) {}

end CSwitch.Sampler
