import CSwitch.Sampler.DfMsr

/-! What the samples of the two samplers mean in every interleaving: only the
beats of the sampler's own resource are counted, and all of them unless the other
sampler disables the counters in the window. -/

set_option autoImplicit false

namespace CSwitch.Sampler

variable {β : Type} {counts : Nat → β → Bool} {resources : DfSampler → List Nat}
  {system next : DfSystem}

/-! ## Control words -/

/-- A field below the lowest bit of the rest is added. -/
theorem or_eq_add (rest field shift : Nat) (above : 2 ^ shift ∣ rest) (small : field < 2 ^ shift) :
    rest ||| field = rest + field := by
  obtain ⟨high, rfl⟩ := above
  exact (Nat.two_pow_add_eq_or_of_lt small high).symm

/-- The fields of a control word, joined. -/
theorem or_fields {high middle mask en low event : Nat} (middleFits : middle < 16)
    (maskFits : mask < 16) (enFits : en < 2) (lowFits : low < 256) (eventFits : event < 256) :
    high * 68719476736 ||| middle * 4294967296 ||| mask * 16777216 ||| en * 4194304 |||
        low * 256 ||| event =
      high * 68719476736 + middle * 4294967296 + mask * 16777216 + en * 4194304 + low * 256 +
        event := by
  rw [or_eq_add (high * 68719476736) _ 36 (by omega) (by omega),
    or_eq_add (high * 68719476736 + middle * 4294967296) _ 32 (by omega) (by omega),
    or_eq_add (high * 68719476736 + middle * 4294967296 + mask * 16777216) _ 24 (by omega)
      (by omega),
    or_eq_add (high * 68719476736 + middle * 4294967296 + mask * 16777216 + en * 4194304) _ 16
      (by omega) (by omega),
    or_eq_add (high * 68719476736 + middle * 4294967296 + mask * 16777216 + en * 4194304 +
      low * 256) _ 8 (by omega) (by omega)]

theorem packDfPerfCtl_eq (eventSel unitMask en : Nat) :
    packDfPerfCtl eventSel unitMask en =
      eventSel / 4096 % 4 * 68719476736 + eventSel / 256 % 16 * 4294967296 +
        unitMask / 256 % 16 * 16777216 + en % 2 * 4194304 + unitMask % 256 * 256 +
        eventSel % 256 := by
  have two (value : Nat) : value &&& 0x3 = value % 4 := Nat.and_two_pow_sub_one_eq_mod value 2
  have four (value : Nat) : value &&& 0xF = value % 16 := Nat.and_two_pow_sub_one_eq_mod value 4
  have eight (value : Nat) : value &&& 0xFF = value % 256 :=
    Nat.and_two_pow_sub_one_eq_mod value 8
  have one (value : Nat) : value &&& 0x1 = value % 2 := Nat.and_two_pow_sub_one_eq_mod value 1
  simp only [packDfPerfCtl, two, four, eight, one, Nat.shiftRight_eq_div_pow, Nat.shiftLeft_eq,
    Nat.reducePow]
  exact or_fields (by omega) (by omega) (by omega) (by omega) (by omega)

/-- The fields can be read back: 14 bits of the event, 12 of the mask, and the enable bit. -/
theorem packDfPerfCtl_eq_iff (event mask en event' mask' en' : Nat) :
    packDfPerfCtl event mask en = packDfPerfCtl event' mask' en' ↔
      event % 16384 = event' % 16384 ∧ mask % 4096 = mask' % 4096 ∧ en % 2 = en' % 2 := by
  rw [packDfPerfCtl_eq, packDfPerfCtl_eq]
  omega

/-- The number of the unit in the low bits of the event. -/
def DfSampler.unit : DfSampler → Nat
  | .ccm => 0x1e
  | .cs => 0x1f

theorem eventSel_eq (sampler : DfSampler) (instanceId : Nat) :
    sampler.eventSel instanceId = instanceId * 64 % 4294967296 + sampler.unit := by
  unfold DfSampler.eventSel
  rw [Nat.shiftLeft_eq]
  cases sampler with
  | ccm => exact or_eq_add _ _ 6 (by omega) (by decide)
  | cs => exact or_eq_add _ _ 6 (by omega) (by decide)

/-- Two control words are the same only for the same sampler, counter and
resource; of the number of the resource they hold 8 bits. -/
theorem control_eq_iff (sampler other : DfSampler) (first second : Nat) (slot slot' : PerfSlot) :
    sampler.control first slot = other.control second slot' ↔
      sampler = other ∧ slot = slot' ∧ first % 256 = second % 256 := by
  rw [DfSampler.control, DfSampler.control, packDfPerfCtl_eq_iff, eventSel_eq, eventSel_eq]
  have event : (first * 64 % 4294967296 + sampler.unit) % 16384 =
      (second * 64 % 4294967296 + other.unit) % 16384 ↔
        sampler = other ∧ first % 256 = second % 256 := by
    have field (instanceId unit : Nat) (small : unit < 64) :
        (instanceId * 64 % 4294967296 + unit) % 16384 = instanceId % 256 * 64 + unit := by omega
    rw [field first _ (by cases sampler <;> decide), field second _ (by cases other <;> decide)]
    cases sampler <;> cases other <;> simp only [DfSampler.unit, reduceCtorEq, true_and, false_and,
      iff_false] <;> omega
  have mask : slot.unitMask % 4096 = slot'.unitMask % 4096 ↔ slot = slot' := by
    cases slot <;> cases slot' <;> simp [PerfSlot.unitMask]
  rw [event, mask]
  constructor
  · rintro ⟨⟨same, id⟩, slots, _⟩
    exact ⟨same, slots, id⟩
  · rintro ⟨same, slots, id⟩
    exact ⟨⟨same, id⟩, slots, rfl⟩

/-! ## Phases -/

theorem SamplerPhase.stage_unlocked {phase : SamplerPhase} (unlocked : phase.locked = false)
    (slot : PerfSlot) : phase.stage slot = .before := by
  cases phase with
  | idle => rfl
  | cleanup => rfl
  | exited => rfl
  | control => cases unlocked
  | reset => cases unlocked
  | window => cases unlocked
  | readout => cases unlocked
  | disable => cases unlocked

/-- What a counter holds: a part of the beats, or all of them when it was not disturbed. -/
def Tallied (value own : Nat) (disturbed : Bool) : Prop :=
  ∃ counted, value = counted % 2 ^ 48 ∧ counted ≤ own ∧ (disturbed = false → counted = own)

theorem tallied_zero (disturbed : Bool) : Tallied 0 0 disturbed := ⟨0, rfl, le_rfl, fun _ => rfl⟩

theorem Tallied.count {value own : Nat} {disturbed : Bool} (tallied : Tallied value own disturbed) :
    Tallied ((value + 1) % 2 ^ 48) (own + 1) disturbed := by
  obtain ⟨counted, rfl, bound, exact'⟩ := tallied
  exact ⟨counted + 1, by omega, by omega, fun quiet => by rw [exact' quiet]⟩

theorem Tallied.disturb {value own later : Nat} {disturbed : Bool}
    (tallied : Tallied value own disturbed) (more : own ≤ later) : Tallied value later true := by
  obtain ⟨counted, same, bound, _⟩ := tallied
  exact ⟨counted, same, bound.trans more, fun quiet => Bool.noConfusion quiet⟩

theorem Tallied.masked {value own : Nat} {disturbed : Bool} (tallied : Tallied value own disturbed) :
    Tallied (value &&& mask48) own disturbed := by
  obtain ⟨counted, rfl, bound, exact'⟩ := tallied
  refine ⟨counted, ?_, bound, exact'⟩
  rw [mask48, Nat.and_two_pow_sub_one_eq_mod, Nat.mod_mod]

/-! ## The invariant -/

/-- The counters are as the sample of one sampler needs them. -/
structure SamplerCoherent (pmc : DfPmc) (sampler : DfSampler) (state : SamplerState) : Prop where
  programmed : ∀ slot, state.phase.stage slot = .programmed ∨ state.phase.stage slot = .counting →
    pmc.ctl slot = sampler.control state.reading.instanceId slot ∨
      pmc.ctl slot = 0 ∧ state.reading.disturbed slot = true
  counting : ∀ slot, state.phase.stage slot = .counting →
    Tallied (pmc.ctr slot) (state.reading.own slot) (state.reading.disturbed slot)
  done : ∀ slot, state.phase.stage slot = .done →
    Tallied (state.reading.beats slot) (state.reading.own slot) (state.reading.disturbed slot)

structure DfCoherent (system : DfSystem) : Prop where
  lock : ∀ sampler, (system.samplers sampler).phase.locked = true ↔ system.lock = some sampler
  samplers : ∀ sampler, SamplerCoherent system.pmc sampler (system.samplers sampler)
  samples : ∀ sample ∈ system.samples, ∀ slot,
    Tallied (sample.2.beats slot) (sample.2.own slot) (sample.2.disturbed slot)

theorem samplerCoherent_before {sampler : DfSampler} {state : SamplerState} (pmc : DfPmc)
    (before : ∀ slot, state.phase.stage slot = .before) : SamplerCoherent pmc sampler state where
  programmed slot staged := by
    rw [before slot] at staged
    rcases staged with staged | staged <;> cases staged
  counting slot staged := by
    rw [before slot] at staged
    cases staged
  done slot staged := by
    rw [before slot] at staged
    cases staged

theorem samplerCoherent_unlocked {sampler : DfSampler} {state : SamplerState} (pmc : DfPmc)
    (unlocked : state.phase.locked = false) : SamplerCoherent pmc sampler state :=
  samplerCoherent_before pmc (SamplerPhase.stage_unlocked unlocked)

theorem dfCoherent_start : DfCoherent {} where
  lock sampler := by simp [SamplerPhase.locked]
  samplers sampler := samplerCoherent_unlocked _ rfl
  samples sample member := absurd member List.not_mem_nil

theorem SamplerCoherent.beat {pmc : DfPmc} {sampler : DfSampler} {state : SamplerState}
    (disabled : ∀ beat, counts 0 beat = false) (coherent : SamplerCoherent pmc sampler state)
    (beat : β) :
    SamplerCoherent (pmc.count counts beat) sampler { state with reading := { state.reading with
      own := fun slot =>
        if state.phase.stage slot = .counting ∧
            counts (sampler.control state.reading.instanceId slot) beat then
          state.reading.own slot + 1
        else state.reading.own slot } } where
  programmed slot staged := coherent.programmed slot staged
  counting slot staged := by
    have tallied := coherent.counting slot staged
    simp only [DfPmc.count, show state.phase.stage slot = .counting from staged, true_and]
    rcases coherent.programmed slot (.inr staged) with same | ⟨off, disturbed⟩
    · rw [same]
      split
      · exact tallied.count
      · exact tallied
    · rw [off, disabled, if_neg (by simp), disturbed]
      exact tallied.disturb (by split <;> omega)
  done slot staged := by
    simp only [show state.phase.stage slot = .done from staged, reduceCtorEq, false_and, if_false]
    exact coherent.done slot staged

/-! ## Steps -/

/-- While one sampler holds the lock the other is outside of it. -/
theorem DfCoherent.unlocked (coherent : DfCoherent system) {sampler other : DfSampler}
    (held : (system.samplers sampler).phase.locked = true) (different : other ≠ sampler) :
    (system.samplers other).phase.locked = false := by
  have lock := (coherent.lock sampler).mp held
  cases locked : (system.samplers other).phase.locked with
  | false => rfl
  | true =>
    rw [(coherent.lock other).mp locked] at lock
    exact absurd (Option.some.inj lock) different

/-- A step of the sampler that holds the lock, or releases it. -/
theorem DfCoherent.replace (coherent : DfCoherent system) {sampler : DfSampler}
    {state : SamplerState} (held : (system.samplers sampler).phase.locked = true)
    (samplers : next.samplers = Function.update system.samplers sampler state)
    (lock : next.lock = if state.phase.locked then some sampler else none)
    (own : SamplerCoherent next.pmc sampler state)
    (samples : ∀ sample ∈ next.samples, sample ∈ system.samples ∨ ∀ slot,
      Tallied (sample.2.beats slot) (sample.2.own slot) (sample.2.disturbed slot)) :
    DfCoherent next where
  lock other := by
    rw [samplers, lock]
    by_cases same : other = sampler
    · subst same
      rw [Function.update_self]
      cases state.phase.locked <;> simp
    · rw [Function.update_of_ne same, coherent.unlocked held same]
      split <;> simp [Ne.symm same]
  samplers other := by
    rw [samplers]
    by_cases same : other = sampler
    · subst same
      rw [Function.update_self]
      exact own
    · rw [Function.update_of_ne same]
      exact samplerCoherent_unlocked _ (coherent.unlocked held same)
  samples sample member := (samples sample member).elim (coherent.samples sample) id

section Locked

variable {pmc : DfPmc} {sampler : DfSampler} {state : SamplerState} {slot : PerfSlot}

theorem SamplerCoherent.program (coherent : SamplerCoherent pmc sampler state)
    (here : state.phase = .control slot) :
    SamplerCoherent (pmc.writeCtl slot (sampler.control state.reading.instanceId slot)) sampler
      ⟨state.phase.next,
        { state.reading with disturbed := Function.update state.reading.disturbed slot false }⟩ := by
  obtain ⟨phase, reading⟩ := state
  obtain rfl : phase = .control slot := here
  refine ⟨fun other staged => ?_, fun other staged => ?_, fun other staged => ?_⟩
  · by_cases same : other = slot
    · subst same
      exact .inl (Function.update_self ..)
    · cases slot with
      | read => cases other <;> simp [SamplerPhase.next, SamplerPhase.stage] at staged same
      | write =>
        cases other with
        | write => exact absurd rfl same
        | read => simpa [DfPmc.writeCtl] using coherent.programmed .read (.inl rfl)
  · cases slot <;> cases other <;> simp [SamplerPhase.next, SamplerPhase.stage] at staged
  · cases slot <;> cases other <;> simp [SamplerPhase.next, SamplerPhase.stage] at staged

theorem SamplerCoherent.clear (coherent : SamplerCoherent pmc sampler state)
    (here : state.phase = .reset slot) :
    SamplerCoherent (pmc.writeCtr slot 0) sampler
      ⟨state.phase.next,
        { state.reading with own := Function.update state.reading.own slot 0 }⟩ := by
  obtain ⟨phase, reading⟩ := state
  obtain rfl : phase = .reset slot := here
  refine ⟨fun other staged => ?_, fun other staged => ?_, fun other staged => ?_⟩
  · cases slot with
    | read => exact coherent.programmed other (.inl (by cases other <;> rfl))
    | write =>
      cases other with
      | read => exact coherent.programmed .read (.inr rfl)
      | write => exact coherent.programmed .write (.inl rfl)
  · by_cases same : other = slot
    · subst same
      simpa [DfPmc.writeCtr] using tallied_zero _
    · cases slot with
      | read => cases other <;> simp [SamplerPhase.next, SamplerPhase.stage] at staged same
      | write =>
        cases other with
        | write => exact absurd rfl same
        | read => simpa [DfPmc.writeCtr] using coherent.counting .read rfl
  · cases slot <;> cases other <;> simp [SamplerPhase.next, SamplerPhase.stage] at staged

theorem SamplerCoherent.sleep (coherent : SamplerCoherent pmc sampler state)
    (here : state.phase = .window) :
    SamplerCoherent pmc sampler ⟨state.phase.next, state.reading⟩ := by
  obtain ⟨phase, reading⟩ := state
  obtain rfl : phase = .window := here
  refine ⟨fun other staged => ?_, fun other staged => ?_, fun other staged => ?_⟩
  · exact coherent.programmed other (.inr rfl)
  · exact coherent.counting other rfl
  · simp [SamplerPhase.next, SamplerPhase.stage] at staged

theorem SamplerCoherent.readCtr (coherent : SamplerCoherent pmc sampler state)
    (here : state.phase = .readout slot) :
    SamplerCoherent pmc sampler ⟨state.phase.next, { state.reading with
      beats := Function.update state.reading.beats slot (pmc.ctr slot &&& mask48) }⟩ := by
  obtain ⟨phase, reading⟩ := state
  obtain rfl : phase = .readout slot := here
  refine ⟨fun other staged => ?_, fun other staged => ?_, fun other staged => ?_⟩
  · cases slot <;> cases other <;> simp [SamplerPhase.next, SamplerPhase.stage] at staged
    exact coherent.programmed .write (.inr rfl)
  · cases slot <;> cases other <;> simp [SamplerPhase.next, SamplerPhase.stage] at staged
    exact coherent.counting .write rfl
  · by_cases same : other = slot
    · subst same
      have tallied := coherent.counting other (by cases other <;> rfl)
      simpa only [Function.update_self] using tallied.masked
    · cases slot with
      | read => cases other <;> simp [SamplerPhase.next, SamplerPhase.stage] at staged same
      | write =>
        cases other with
        | write => exact absurd rfl same
        | read => simpa using coherent.done .read rfl

theorem SamplerCoherent.disable (coherent : SamplerCoherent pmc sampler state)
    (here : state.phase = .disable .read) (after : DfPmc) :
    SamplerCoherent after sampler ⟨state.phase.next, state.reading⟩ := by
  obtain ⟨phase, reading⟩ := state
  obtain rfl : phase = .disable .read := here
  refine ⟨fun other staged => ?_, fun other staged => ?_, fun other staged => ?_⟩
  · simp [SamplerPhase.next, SamplerPhase.stage] at staged
  · simp [SamplerPhase.next, SamplerPhase.stage] at staged
  · exact coherent.done other rfl

/-- The other sampler writes a control register: the counter stops. -/
theorem SamplerCoherent.disturb {state : SamplerState} (coherent : SamplerCoherent pmc sampler state)
    (staged : state.phase.stage slot = .programmed ∨ state.phase.stage slot = .counting) :
    SamplerCoherent (pmc.writeCtl slot 0) sampler { state with reading := { state.reading with
      disturbed := Function.update state.reading.disturbed slot true } } where
  programmed other later := by
    by_cases same : other = slot
    · subst same
      exact .inr ⟨Function.update_self .., Function.update_self ..⟩
    · simpa [DfPmc.writeCtl, same] using coherent.programmed other later
  counting other later := by
    by_cases same : other = slot
    · subst same
      simpa only [DfPmc.writeCtl, Function.update_self] using
        (coherent.counting other later).disturb le_rfl
    · simpa only [DfPmc.writeCtl, Function.update_of_ne same] using coherent.counting other later
  done other later := by
    by_cases same : other = slot
    · subst same
      rcases staged with staged | staged <;> rw [staged] at later <;> cases later
    · simpa only [Function.update_of_ne same] using coherent.done other later

theorem SamplerCoherent.of_unstaged {state : SamplerState} {value : Nat}
    (coherent : SamplerCoherent pmc sampler state)
    (unstaged : ¬ (state.phase.stage slot = .programmed ∨ state.phase.stage slot = .counting)) :
    SamplerCoherent (pmc.writeCtl slot value) sampler state where
  programmed other staged := by
    have different : other ≠ slot := by
      rintro rfl
      exact unstaged staged
    simpa [DfPmc.writeCtl, different] using coherent.programmed other staged
  counting other staged := coherent.counting other staged
  done other staged := coherent.done other staged

end Locked

/-- `disable_counters` without the lock keeps the samples of the other sampler coherent. -/
theorem DfCoherent.cleanupWrite (coherent : DfCoherent system) {sampler : DfSampler}
    {slot : PerfSlot} {final : Bool} (here : (system.samplers sampler).phase = .cleanup slot final)
    (ok : Bool) : DfCoherent (system.cleanupWrite sampler slot ok) where
  lock other := by
    have lock := coherent.lock other
    simp only [DfSystem.cleanupWrite]
    by_cases same : other = sampler
    · subst same
      rw [if_pos rfl, ← lock, here]
      cases slot <;> cases final <;> exact Iff.rfl
    · rw [if_neg same]
      split <;> exact lock
  samplers other := by
    have own := coherent.samplers other
    simp only [DfSystem.cleanupWrite, DfSystem.disable]
    by_cases same : other = sampler
    · subst same
      rw [if_pos rfl, here]
      exact samplerCoherent_unlocked _ (by cases slot <;> cases final <;> rfl)
    · rw [if_neg same]
      cases ok with
      | false => simpa using own
      | true =>
        simp only [if_true, true_and]
        split
        next staged => exact own.disturb staged
        next unstaged => exact own.of_unstaged unstaged
  samples := coherent.samples

theorem dfCoherent_step (disabled : ∀ beat, counts 0 beat = false)
    (step : DfStep counts resources system next) (coherent : DfCoherent system) :
    DfCoherent next := by
  cases step with
  | beat beat =>
    exact ⟨coherent.lock, fun sampler => (coherent.samplers sampler).beat disabled beat,
      coherent.samples⟩
  | acquire sampler instanceId here free listed =>
    have outside (other : DfSampler) : (system.samplers other).phase.locked = false := by
      cases locked : (system.samplers other).phase.locked with
      | false => rfl
      | true => exact absurd (free.symm.trans ((coherent.lock other).mp locked)) (by simp)
    refine ⟨fun other => ?_, fun other => ?_, coherent.samples⟩
    · by_cases same : other = sampler
      · subst same
        simp [DfSystem.acquire, DfSystem.setSampler, SamplerPhase.locked]
      · simp [DfSystem.acquire, DfSystem.setSampler, same, outside other, Ne.symm same]
    · by_cases same : other = sampler
      · subst same
        simp only [DfSystem.acquire, DfSystem.setSampler, Function.update_self]
        exact samplerCoherent_before _ fun slot => by cases slot <;> rfl
      · simp only [DfSystem.acquire, DfSystem.setSampler, Function.update_of_ne same]
        exact samplerCoherent_unlocked _ (outside other)
  | program sampler slot here =>
    have held : (system.samplers sampler).phase.locked = true := by rw [here]; rfl
    refine coherent.replace held rfl ?_ ((coherent.samplers sampler).program here)
      fun sample member => .inl member
    rw [here]
    cases slot <;> exact (coherent.lock sampler).mp held
  | clear sampler slot here =>
    have held : (system.samplers sampler).phase.locked = true := by rw [here]; rfl
    refine coherent.replace held rfl ?_ ((coherent.samplers sampler).clear here)
      fun sample member => .inl member
    rw [here]
    cases slot <;> exact (coherent.lock sampler).mp held
  | sleep sampler here =>
    have held : (system.samplers sampler).phase.locked = true := by rw [here]; rfl
    refine coherent.replace held rfl ?_ ((coherent.samplers sampler).sleep here)
      fun sample member => .inl member
    rw [here]
    exact (coherent.lock sampler).mp held
  | readCtr sampler slot here =>
    have held : (system.samplers sampler).phase.locked = true := by rw [here]; rfl
    refine coherent.replace held rfl ?_ ((coherent.samplers sampler).readCtr here)
      fun sample member => .inl member
    rw [here]
    cases slot <;> exact (coherent.lock sampler).mp held
  | disable sampler ok here =>
    have held : (system.samplers sampler).phase.locked = true := by rw [here]; rfl
    refine coherent.replace held rfl ?_ ((coherent.samplers sampler).disable here _)
      fun sample member => .inl member
    rw [here]
    exact (coherent.lock sampler).mp held
  | finish sampler ok here =>
    have held : (system.samplers sampler).phase.locked = true := by rw [here]; rfl
    refine coherent.replace held rfl (by rw [here]; rfl)
      (samplerCoherent_unlocked _ (by rw [here]; rfl)) fun sample member => ?_
    rcases List.mem_append.mp member with earlier | new
    · exact .inl earlier
    · obtain rfl := List.mem_singleton.mp new
      exact .inr fun slot => (coherent.samplers sampler).done slot (by rw [here]; rfl)
  | fail sampler here =>
    have held : (system.samplers sampler).phase.locked = true := by
      cases phase : (system.samplers sampler).phase <;> simp [phase, SamplerPhase.fallible] at here
        <;> rfl
    exact coherent.replace held rfl rfl (samplerCoherent_unlocked _ rfl)
      fun sample member => .inl member
  | stop sampler here =>
    refine ⟨fun other => ?_, fun other => ?_, coherent.samples⟩
    · have lock := coherent.lock other
      by_cases same : other = sampler
      · subst same
        rw [here] at lock
        simpa [DfSystem.stop, DfSystem.setSampler, SamplerPhase.locked] using lock
      · simpa [DfSystem.stop, DfSystem.setSampler, same] using lock
    · by_cases same : other = sampler
      · subst same
        simp only [DfSystem.stop, DfSystem.setSampler, Function.update_self]
        exact samplerCoherent_unlocked _ rfl
      · simp only [DfSystem.stop, DfSystem.setSampler, Function.update_of_ne same]
        exact coherent.samplers other
  | cleanup sampler slot final ok here => exact coherent.cleanupWrite here ok

theorem DfReachable.coherent (disabled : ∀ beat, counts 0 beat = false)
    (reachable : DfReachable counts resources system) : DfCoherent system := by
  induction reachable with
  | refl => exact dfCoherent_start
  | tail _ step coherent => exact dfCoherent_step disabled step coherent

/-! ## Runs without errors -/

def SamplerPhase.cleaning : SamplerPhase → Bool
  | .cleanup _ _ => true
  | _ => false

/-- Nothing was disabled without the lock so far. -/
structure DfQuiet (system : DfSystem) : Prop where
  phase : ∀ sampler, (system.samplers sampler).phase.cleaning = false
  reading : ∀ sampler slot, (system.samplers sampler).reading.disturbed slot = false
  samples : ∀ sample ∈ system.samples, ∀ slot, sample.2.disturbed slot = false

/-- A step that changes one sampler only. -/
theorem DfQuiet.replace (quiet : DfQuiet system) {sampler : DfSampler} {state : SamplerState}
    (samplers : next.samplers = Function.update system.samplers sampler state)
    (phase : state.phase.cleaning = false) (reading : ∀ slot, state.reading.disturbed slot = false)
    (samples : ∀ sample ∈ next.samples, sample ∈ system.samples ∨
      ∀ slot, sample.2.disturbed slot = false) : DfQuiet next where
  phase other := by
    rw [samplers]
    by_cases same : other = sampler
    · rw [same, Function.update_self]
      exact phase
    · rw [Function.update_of_ne same]
      exact quiet.phase other
  reading other slot := by
    rw [samplers]
    by_cases same : other = sampler
    · rw [same, Function.update_self]
      exact reading slot
    · rw [Function.update_of_ne same]
      exact quiet.reading other slot
  samples sample member := (samples sample member).elim (quiet.samples sample) id

theorem dfQuiet_step (step : DfStep counts resources system next)
    (quiet : system.cleanups = 0 → DfQuiet system) (none : next.cleanups = 0) : DfQuiet next := by
  cases step with
  | beat beat => exact ⟨(quiet none).phase, (quiet none).reading, (quiet none).samples⟩
  | acquire sampler instanceId here free listed =>
    exact (quiet none).replace rfl rfl (fun _ => rfl) fun sample member => .inl member
  | program sampler slot here =>
    refine (quiet none).replace rfl (by rw [here]; cases slot <;> rfl) (fun other => ?_)
      fun sample member => .inl member
    have before := (quiet none).reading sampler other
    by_cases same : other = slot
    · simp [same]
    · simpa [same] using before
  | clear sampler slot here =>
    exact (quiet none).replace rfl (by rw [here]; cases slot <;> rfl)
      ((quiet none).reading sampler) fun sample member => .inl member
  | sleep sampler here =>
    exact (quiet none).replace rfl (by rw [here]; rfl) ((quiet none).reading sampler)
      fun sample member => .inl member
  | readCtr sampler slot here =>
    exact (quiet none).replace rfl (by rw [here]; cases slot <;> rfl)
      ((quiet none).reading sampler) fun sample member => .inl member
  | disable sampler ok here =>
    exact (quiet none).replace rfl (by rw [here]; rfl) ((quiet none).reading sampler)
      fun sample member => .inl member
  | finish sampler ok here =>
    refine (quiet none).replace rfl (by rw [here]; rfl) ((quiet none).reading sampler)
      fun sample member => ?_
    rcases List.mem_append.mp member with earlier | new
    · exact .inl earlier
    · obtain rfl := List.mem_singleton.mp new
      exact .inr ((quiet none).reading sampler)
  | fail sampler here => exact absurd none (Nat.succ_ne_zero _)
  | stop sampler here => exact absurd none (Nat.succ_ne_zero _)
  | cleanup sampler slot final ok here =>
    have phase := (quiet none).phase sampler
    rw [here] at phase
    cases phase

theorem DfReachable.quiet (reachable : DfReachable counts resources system)
    (none : system.cleanups = 0) : DfQuiet system := by
  induction reachable with
  | refl => exact ⟨fun _ => rfl, fun _ _ => rfl, fun _ member => absurd member List.not_mem_nil⟩
  | tail _ step ih => exact dfQuiet_step step ih none

/-- A sample never counts a beat that its own control word does not select, in
any interleaving. It counts all of them when the other sampler did not disable the
counter in the window, as in a run in which no access fails and no sampler ends. -/
theorem DfReachable.samples_exact (disabled : ∀ beat, counts 0 beat = false)
    (reachable : DfReachable counts resources system) {sampler : DfSampler} {reading : DfReading}
    (member : (sampler, reading) ∈ system.samples) (slot : PerfSlot) :
    ∃ counted, reading.beats slot = counted % 2 ^ 48 ∧ counted ≤ reading.own slot ∧
      (reading.disturbed slot = false ∨ system.cleanups = 0 → counted = reading.own slot) := by
  obtain ⟨counted, same, bound, exact'⟩ := (reachable.coherent disabled).samples _ member slot
  refine ⟨counted, same, bound, fun quiet => exact' ?_⟩
  rcases quiet with quiet | none
  · exact quiet
  · exact (reachable.quiet none).samples _ member slot

/-- One sample of the first CCM, with one beat in its window. -/
theorem samples_exact_one_beat :
    ∃ (system : DfSystem) (reading : DfReading), (DfSampler.ccm, reading) ∈ system.samples ∧
      reading.own .read = 1 ∧ ∃ counted, reading.beats .read = counted % 2 ^ 48 ∧ counted ≤ 1 ∧
        (system.cleanups = 0 → counted = 1) := by
  let counts : Nat → Nat → Bool := fun word beat => word != 0 && word == beat
  let listed : DfSampler → List Nat := fun _ => [16]
  have start : DfReachable counts listed {} := .refl
  have acquired := start.tail (.acquire _ .ccm 16 rfl rfl (by decide))
  have programmed := (acquired.tail (.program _ .ccm .read rfl)).tail (.program _ .ccm .write rfl)
  have cleared := (programmed.tail (.clear _ .ccm .read rfl)).tail (.clear _ .ccm .write rfl)
  have counted := cleared.tail (.beat _ (DfSampler.ccm.control 16 .read))
  have slept := counted.tail (.sleep _ .ccm rfl)
  have read := (slept.tail (.readCtr _ .ccm .read rfl)).tail (.readCtr _ .ccm .write rfl)
  have finished := (read.tail (.disable _ .ccm true rfl)).tail (.finish _ .ccm true rfl)
  have disabled (beat : Nat) : counts 0 beat = false := rfl
  obtain ⟨count, same, bound, all⟩ :=
    DfReachable.samples_exact disabled finished (List.mem_singleton.mpr rfl) .read
  exact ⟨_, _, List.mem_singleton.mpr rfl, by rfl, count, same, bound, fun none => all (.inr none)⟩

/-- The exception is real: after an error of the other sampler a beat is missed. -/
theorem sample_misses_beat :
    ∃ (system : DfSystem) (reading : DfReading),
      DfReachable (fun word beat : Nat => word != 0 && word == beat) (fun _ => [16]) system ∧
      (DfSampler.ccm, reading) ∈ system.samples ∧ reading.own .read = 1 ∧ reading.beats .read = 0 := by
  have start : DfReachable (fun word beat : Nat => word != 0 && word == beat) (fun _ => [16]) {} :=
    .refl
  have failed := (start.tail (.acquire _ .cs 16 rfl rfl (by decide))).tail (.fail _ .cs rfl)
  have acquired := failed.tail (.acquire _ .ccm 16 rfl rfl (by decide))
  have programmed := (acquired.tail (.program _ .ccm .read rfl)).tail (.program _ .ccm .write rfl)
  have cleared := (programmed.tail (.clear _ .ccm .read rfl)).tail (.clear _ .ccm .write rfl)
  have disabled := cleared.tail (.cleanup _ .cs .read false true rfl)
  have counted := disabled.tail (.beat _ (DfSampler.ccm.control 16 .read))
  have slept := counted.tail (.sleep _ .ccm rfl)
  have read := (slept.tail (.readCtr _ .ccm .read rfl)).tail (.readCtr _ .ccm .write rfl)
  have finished := (read.tail (.disable _ .ccm true rfl)).tail (.finish _ .ccm true rfl)
  exact ⟨_, _, finished, List.mem_singleton.mpr rfl, by rfl, by rfl⟩

end CSwitch.Sampler
