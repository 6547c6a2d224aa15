import CSwitch.Attribution.Confidence
import CSwitch.Attribution.EvidenceDecay
import CSwitch.Attribution.FillShares

/-! The writers of signatures, called in any order on the threads of a map: the
update after a run, attribution to a plan and decay share one record, and every one
of them leaves it sound. An update empties the slot of the snapshot that it reads. -/

set_option autoImplicit false

namespace CSwitch.Attribution

open Library
open Std (TreeMap)

def updateThreadSignature (thread : ManagedThreadState) (task : QueuedTask) (mapping : MappingInfo)
    (dfStates : List (Option CcmDfStateValue)) (nowNs staleMs : Nat) : ManagedThreadState :=
  let (signature, dispatchSnapshot) := updateSignatureState thread.signature
    thread.dispatchSnapshot task mapping dfStates nowNs staleMs .placement
  { thread with signature, dispatchSnapshot }

def updateThreadIoCsSignature (thread : ManagedThreadState) (task : QueuedTask)
    (mapping : MappingInfo) (dfStates : List (Option CcmDfStateValue)) (nowNs staleMs : Nat) :
    ManagedThreadState :=
  let (ioCsSignature, villainDispatchSnapshot) := updateSignatureState thread.ioCsSignature
    thread.villainDispatchSnapshot task mapping dfStates nowNs staleMs .ioCs
  { thread with ioCsSignature, villainDispatchSnapshot }

/-! ## Sound signatures -/

/-- An invalid signature is the empty one, and a valid one has a sample, a confidence
within its bounds and the stability that both give it. -/
structure SignatureSound (signature : ThreadSignature) : Prop where
  empty : signature.valid = false → signature = {}
  sampled : signature.valid = true → 1 ≤ signature.sampleCount
  confident : signature.valid = true →
    500 ≤ signature.confidenceX100 ∧ signature.confidenceX100 ≤ 10000
  stable : signature.valid = true → (signature.stable = true ↔
    signatureStableSamples ≤ signature.sampleCount ∧
      signatureConfidenceThresholdX100 ≤ signature.confidenceX100)

theorem signatureSound_default : SignatureSound {} where
  empty _ := rfl
  sampled valid := Bool.noConfusion valid
  confident valid := Bool.noConfusion valid
  stable valid := Bool.noConfusion valid

theorem signatureStable_iff {sampleCount confidenceX100 : Nat} :
    signatureStable sampleCount confidenceX100 = true ↔
      signatureStableSamples ≤ sampleCount ∧ signatureConfidenceThresholdX100 ≤ confidenceX100 := by
  simp [signatureStable]

theorem one_le_satAdd32 (count : Nat) : 1 ≤ satAdd32 count 1 := by
  unfold satAdd32 u32Max
  omega

section Writers

variable {signature : ThreadSignature}

/-- Every band of the deviation keeps the confidence within its bounds. -/
theorem confidenceAt_bounds {confidenceX100 : Nat} (low : 500 ≤ confidenceX100)
    (high : confidenceX100 ≤ 10000) (deltaPct : Nat) :
    500 ≤ confidenceAt confidenceX100 deltaPct ∧ confidenceAt confidenceX100 deltaPct ≤ 10000 := by
  unfold confidenceAt satAdd32 u32Max
  split
  · omega
  · split
    · omega
    · split
      · omega
      · omega

theorem signatureConfidenceX100_bounds (sound : SignatureSound signature)
    (sampleDfX100 sampleLlcX100 : Nat) :
    500 ≤ signatureConfidenceX100 signature sampleDfX100 sampleLlcX100 ∧
      signatureConfidenceX100 signature sampleDfX100 sampleLlcX100 ≤ 10000 := by
  cases valid : signature.valid with
  | false => simp [signatureConfidenceX100, valid]
  | true =>
      obtain ⟨low, high⟩ := sound.confident valid
      rw [signatureConfidenceX100_eq valid]
      exact confidenceAt_bounds low high _

theorem SignatureSound.recordLinkSample (sound : SignatureSound signature) (task : QueuedTask)
    (nowNs : Nat) (sample : LinkSample) :
    SignatureSound (recordLinkSample signature task nowNs sample) where
  empty invalid := Bool.noConfusion invalid
  sampled _ := one_le_satAdd32 _
  confident _ := signatureConfidenceX100_bounds sound _ _
  stable _ := signatureStable_iff

theorem SignatureSound.updateSignatureState (sound : SignatureSound signature)
    (snapshotSlot : Option DispatchSnapshot) (task : QueuedTask) (mapping : MappingInfo)
    (dfStates : List (Option CcmDfStateValue)) (nowNs staleMs : Nat) (kind : SignatureUpdateKind) :
    SignatureSound
      (updateSignatureState signature snapshotSlot task mapping dfStates nowNs staleMs kind).1 := by
  unfold Attribution.updateSignatureState
  cases linkSample signature snapshotSlot task mapping dfStates nowNs staleMs kind with
  | none => exact sound
  | some sample => exact sound.recordLinkSample task nowNs sample

theorem SignatureSound.updatePlanCs {thread : ManagedThreadState}
    (sound : SignatureSound thread.ioCsSignature) (linkId linkCount rawShareX100 : Nat)
    (linkDeltaX100 : Int) (nowNs : Nat) :
    SignatureSound (updatePlanCsThreadSignature thread linkId linkCount rawShareX100 linkDeltaX100
      nowNs).ioCsSignature := by
  unfold updatePlanCsThreadSignature
  split
  · exact sound
  · refine
      { empty := fun invalid => Bool.noConfusion invalid
        sampled := fun _ => one_le_satAdd32 _
        confident := fun _ => ?_
        stable := fun _ => signatureStable_iff }
    dsimp only
    split
    · next valid =>
        have bounds := sound.confident valid
        unfold satAdd32 u32Max
        omega
    · decide

/-- Decay leaves the confidence and counts a sample. -/
theorem SignatureSound.writeContribution {thread : ManagedThreadState}
    (sound : SignatureSound thread.ioCsSignature) (valid : thread.ioCsSignature.valid = true)
    (linkId linkCount nowNs newContribution : Nat) :
    SignatureSound
      (writeContribution linkId linkCount nowNs newContribution thread).ioCsSignature where
  empty invalid := Bool.noConfusion (valid.symm.trans invalid)
  sampled _ := one_le_satAdd32 _
  confident _ := sound.confident valid
  stable _ := signatureStable_iff

end Writers

/-! ## Averages against caps -/

theorem ewmaU32_le (previous sample : Nat) : ewmaU32 previous sample ≤ max previous sample := by
  unfold ewmaU32
  split
  · exact Nat.le_max_right _ _
  · omega

/-- A link of a sample fits both caps of the attribution signature. -/
theorem clampIoCsSignatureDeltas_le (dfDomainDeltaX100 : Vector Nat maxDomains)
    (previousSignature : ThreadSignature) (task : QueuedTask) (mapping : MappingInfo)
    {validDomains : Nat} {link : Fin maxDomains} (within : link < validDomains) :
    (clampIoCsSignatureDeltas dfDomainDeltaX100 previousSignature task mapping validDomains).get
        link ≤
      min (ioCsTaskFillCapX100 task) (ioCsHistoryLinkCapX100 previousSignature mapping link) := by
  have inside : ¬min validDomains maxDomains ≤ link := by
    have bound := link.isLt
    omega
  unfold clampIoCsSignatureDeltas
  simp only [Vector.get_eq_getElem, Vector.getElem_mapIdx, inside, false_or]
  split
  · next none =>
      rw [none]
      exact Nat.zero_le _
  · split
    · exact Nat.zero_le _
    · omega

theorem linkSample_ioCs {previousSignature : ThreadSignature}
    {snapshotSlot : Option DispatchSnapshot} {task : QueuedTask} {mapping : MappingInfo}
    {dfStates : List (Option CcmDfStateValue)} {nowNs staleMs : Nat} {sample : LinkSample}
    (found : linkSample previousSignature snapshotSlot task mapping dfStates nowNs staleMs .ioCs =
      some sample) :
    sample.dfDomainDeltaX100 = clampIoCsSignatureDeltas sample.rawDfDomainDeltaX100
      previousSignature task mapping sample.validDomains := by
  unfold linkSample at found
  cases snapshotSlot with
  | none => cases found
  | some snapshot =>
      simp only [Option.bind_eq_bind, Option.bind_some] at found
      split at found
      · cases found
      · split at found
        · cases found
        · cases raw : rawDfSnapshot dfStates nowNs staleMs with
          | none =>
              rw [raw] at found
              cases found
          | some captured =>
              rw [raw, Option.bind_some] at found
              split at found
              · cases found
              · split at found
                · cases found
                · cases found
                  rfl

/-- An update of the attribution signature does not raise what a thread adds to a
link above the caps of its sample. -/
theorem updateThreadIoCsSignature_le (thread : ManagedThreadState) (task : QueuedTask)
    (mapping : MappingInfo) (dfStates : List (Option CcmDfStateValue)) (nowNs staleMs : Nat)
    (link : Fin maxDomains) :
    (updateThreadIoCsSignature thread task mapping dfStates nowNs
        staleMs).ioCsSignature.dfDomainDeltaX100.get link ≤
      max (thread.ioCsSignature.dfDomainDeltaX100.get link)
        (min (ioCsTaskFillCapX100 task)
          (ioCsHistoryLinkCapX100 thread.ioCsSignature mapping link)) := by
  unfold updateThreadIoCsSignature updateSignatureState
  cases found : linkSample thread.ioCsSignature thread.villainDispatchSnapshot task mapping dfStates
      nowNs staleMs .ioCs with
  | none => exact Nat.le_max_left _ _
  | some sample =>
      simp only [recordLinkSample, Vector.get_eq_getElem, Vector.getElem_ofFn]
      split
      · next within =>
          have capped := clampIoCsSignatureDeltas_le sample.rawDfDomainDeltaX100
            thread.ioCsSignature task mapping within
          rw [← linkSample_ioCs found] at capped
          exact (ewmaU32_le _ _).trans (max_le_max le_rfl capped)
      · exact Nat.le_max_left _ _

/-! ## Runs -/

/-- A call that writes signatures, or what the writers read of a thread: its slots
of snapshots and its last samples. -/
inductive SignatureCall where
  | capture (tid : Nat) (kind : SignatureUpdateKind) (snapshot : Option DispatchSnapshot)
  | observe (tid : Nat) (lastFillBwMibSX100 : Vector Nat memSourceCount) (lastL2BwMibSX100 : Nat)
  | update (tid : Nat) (kind : SignatureUpdateKind) (task : QueuedTask) (mapping : MappingInfo)
      (dfStates : List (Option CcmDfStateValue)) (nowNs staleMs : Nat)
  | planCs (tid linkId linkCount rawShareX100 : Nat) (linkDeltaX100 : Int) (nowNs : Nat)
  | decay (linkId linkCount currentBwX100 nowNs : Nat)

/-- `threads.get_mut(&tid)`, and a change of what it finds. -/
def changeThread (threads : ThreadMap) (tid : Nat)
    (change : ManagedThreadState → ManagedThreadState) : ThreadMap :=
  writeAt (fun change thread => change thread) threads tid change

def storeSnapshot (kind : SignatureUpdateKind) (snapshot : Option DispatchSnapshot)
    (thread : ManagedThreadState) : ManagedThreadState :=
  match kind with
  | .placement => { thread with dispatchSnapshot := snapshot }
  | .ioCs => { thread with villainDispatchSnapshot := snapshot }

def updateThread (kind : SignatureUpdateKind) (task : QueuedTask) (mapping : MappingInfo)
    (dfStates : List (Option CcmDfStateValue)) (nowNs staleMs : Nat)
    (thread : ManagedThreadState) : ManagedThreadState :=
  match kind with
  | .placement => updateThreadSignature thread task mapping dfStates nowNs staleMs
  | .ioCs => updateThreadIoCsSignature thread task mapping dfStates nowNs staleMs

def SignatureCall.apply (threads : ThreadMap) : SignatureCall → ThreadMap
  | capture tid kind snapshot => changeThread threads tid (storeSnapshot kind snapshot)
  | observe tid lastFillBwMibSX100 lastL2BwMibSX100 =>
      changeThread threads tid fun thread => { thread with lastFillBwMibSX100, lastL2BwMibSX100 }
  | update tid kind task mapping dfStates nowNs staleMs =>
      changeThread threads tid (updateThread kind task mapping dfStates nowNs staleMs)
  | planCs tid linkId linkCount rawShareX100 linkDeltaX100 nowNs =>
      changeThread threads tid fun thread =>
        updatePlanCsThreadSignature thread linkId linkCount rawShareX100 linkDeltaX100 nowNs
  | decay linkId linkCount currentBwX100 nowNs =>
      (decayIoCsLinkEvidenceToCurrent threads linkId linkCount currentBwX100 nowNs).1

def callRun (threads : ThreadMap) (calls : List SignatureCall) : ThreadMap :=
  calls.foldl SignatureCall.apply threads

/-- What a call does to one thread of the map. -/
inductive ThreadChange (call : SignatureCall) (tid : Nat) (thread : ManagedThreadState) :
    ManagedThreadState → Prop where
  | none : ThreadChange call tid thread thread
  | capture {kind snapshot} (called : call = .capture tid kind snapshot) :
      ThreadChange call tid thread (storeSnapshot kind snapshot thread)
  | observe (lastFillBwMibSX100 : Vector Nat memSourceCount) (lastL2BwMibSX100 : Nat) :
      ThreadChange call tid thread { thread with lastFillBwMibSX100, lastL2BwMibSX100 }
  | update {kind task mapping dfStates nowNs staleMs}
      (called : call = .update tid kind task mapping dfStates nowNs staleMs) :
      ThreadChange call tid thread (updateThread kind task mapping dfStates nowNs staleMs thread)
  | planCs (linkId linkCount rawShareX100 : Nat) (linkDeltaX100 : Int) (nowNs : Nat) :
      ThreadChange call tid thread
        (updatePlanCsThreadSignature thread linkId linkCount rawShareX100 linkDeltaX100 nowNs)
  | decay (valid : thread.ioCsSignature.valid = true)
      (linkId linkCount nowNs newContribution : Nat) :
      ThreadChange call tid thread
        (writeContribution linkId linkCount nowNs newContribution thread)

section Runs

variable {threads : ThreadMap} {tid : Nat}

theorem changeThread_getElem? {other : Nat} (change : ManagedThreadState → ManagedThreadState) :
    (changeThread threads tid change)[other]? =
      if tid = other then threads[other]?.map change else threads[other]? := by
  unfold changeThread
  split
  · next same =>
      subst same
      exact writeAt_getElem?_self
  · next apart => exact writeAt_getElem?_of_ne apart

/-- A call changes the threads that are in the map, each in one way of its own. -/
theorem SignatureCall.apply_cases (threads : ThreadMap) (call : SignatureCall) (tid : Nat) :
    (threads[tid]? = none ∧ (call.apply threads)[tid]? = none) ∨
      ∃ thread after, threads[tid]? = some thread ∧ (call.apply threads)[tid]? = some after ∧
        ThreadChange call tid thread after := by
  -- a change of one thread leaves the others
  have changed : ∀ (changedTid : Nat) (change : ManagedThreadState → ManagedThreadState),
      call.apply threads = changeThread threads changedTid change →
      (∀ thread, changedTid = tid → ThreadChange call tid thread (change thread)) →
      (threads[tid]? = none ∧ (call.apply threads)[tid]? = none) ∨
        ∃ thread after, threads[tid]? = some thread ∧ (call.apply threads)[tid]? = some after ∧
          ThreadChange call tid thread after := by
    intro changedTid change applied step
    rw [applied, changeThread_getElem?]
    cases found : threads[tid]? with
    | none => exact .inl ⟨rfl, by simp⟩
    | some thread =>
        refine .inr ⟨thread, if changedTid = tid then change thread else thread, rfl, ?_, ?_⟩
        · split <;> rfl
        · split
          · next same => exact step thread same
          · exact .none
  cases call with
  | capture changedTid kind snapshot =>
      refine changed changedTid _ rfl ?_
      rintro thread rfl
      exact .capture rfl
  | observe changedTid lastFillBwMibSX100 lastL2BwMibSX100 =>
      exact changed changedTid _ rfl fun _ _ => .observe lastFillBwMibSX100 lastL2BwMibSX100
  | update changedTid kind task mapping dfStates nowNs staleMs =>
      refine changed changedTid _ rfl ?_
      rintro thread rfl
      exact .update rfl
  | planCs changedTid linkId linkCount rawShareX100 linkDeltaX100 nowNs =>
      exact changed changedTid _ rfl fun _ _ => .planCs linkId linkCount rawShareX100 linkDeltaX100 nowNs
  | decay linkId linkCount currentBwX100 nowNs =>
      cases decayIoCsLinkEvidenceToCurrent_getElem? threads linkId linkCount currentBwX100 nowNs tid with
      | inl same =>
          cases found : threads[tid]? with
          | none => exact .inl ⟨rfl, same.trans found⟩
          | some thread => exact .inr ⟨thread, thread, rfl, same.trans found, .none⟩
      | inr written =>
          obtain ⟨thread, newContribution, found, valid, stored⟩ := written
          exact .inr ⟨thread, _, found, stored, .decay valid linkId linkCount nowNs newContribution⟩

/-- Both signatures of a thread are sound. -/
structure ThreadSound (thread : ManagedThreadState) : Prop where
  placement : SignatureSound thread.signature
  ioCs : SignatureSound thread.ioCsSignature

theorem ThreadSound.change {call : SignatureCall} {thread after : ManagedThreadState}
    (sound : ThreadSound thread) (change : ThreadChange call tid thread after) :
    ThreadSound after := by
  cases change with
  | none => exact sound
  | @capture kind snapshot =>
      cases kind with
      | placement => exact ⟨sound.placement, sound.ioCs⟩
      | ioCs => exact ⟨sound.placement, sound.ioCs⟩
  | observe => exact ⟨sound.placement, sound.ioCs⟩
  | @update kind task mapping dfStates nowNs staleMs =>
      cases kind with
      | placement =>
          exact ⟨sound.placement.updateSignatureState _ task mapping dfStates nowNs staleMs _,
            sound.ioCs⟩
      | ioCs =>
          exact ⟨sound.placement,
            sound.ioCs.updateSignatureState _ task mapping dfStates nowNs staleMs _⟩
  | planCs linkId linkCount rawShareX100 linkDeltaX100 nowNs =>
      refine ⟨?_, sound.ioCs.updatePlanCs linkId linkCount rawShareX100 linkDeltaX100 nowNs⟩
      unfold updatePlanCsThreadSignature
      split
      · exact sound.placement
      · exact sound.placement
  | decay valid linkId linkCount nowNs newContribution =>
      exact ⟨sound.placement, sound.ioCs.writeContribution valid linkId linkCount nowNs newContribution⟩

variable (threads) in
theorem callRun_sound (calls : List SignatureCall)
    (sound : ∀ (tid : Nat) (thread : ManagedThreadState),
      threads[tid]? = some thread → ThreadSound thread) :
    ∀ (tid : Nat) (thread : ManagedThreadState), (callRun threads calls)[tid]? = some thread → ThreadSound thread := by
  induction calls generalizing threads with
  | nil => exact sound
  | cons call rest ih =>
      refine @ih (call.apply threads) ?_
      intro tid after stored
      cases call.apply_cases threads tid with
      | inl absent => cases absent.2.symm.trans stored
      | inr present =>
          obtain ⟨thread, changed, found, result, change⟩ := present
          obtain rfl : changed = after := Option.some.inj (result.symm.trans stored)
          exact (sound tid thread found).change change

/-! ## Snapshots -/

def snapshotOf (kind : SignatureUpdateKind) (thread : ManagedThreadState) :
    Option DispatchSnapshot :=
  match kind with
  | .placement => thread.dispatchSnapshot
  | .ioCs => thread.villainDispatchSnapshot

/-- The snapshot that an update of the thread would read. -/
def snapshotAt (threads : ThreadMap) (tid : Nat) (kind : SignatureUpdateKind) :
    Option DispatchSnapshot :=
  threads[tid]?.bind (snapshotOf kind)

/-- An update leaves its slot empty, whatever it does to the signature. -/
theorem snapshotOf_updateThread (kind : SignatureUpdateKind) (task : QueuedTask)
    (mapping : MappingInfo) (dfStates : List (Option CcmDfStateValue)) (nowNs staleMs : Nat)
    (thread : ManagedThreadState) :
    snapshotOf kind (updateThread kind task mapping dfStates nowNs staleMs thread) = none := by
  have emptied : ∀ signature slot, (updateSignatureState signature slot task mapping dfStates nowNs
      staleMs kind).2 = none := by
    intro signature slot
    unfold updateSignatureState
    cases linkSample signature slot task mapping dfStates nowNs staleMs kind with
    | none => rfl
    | some sample => rfl
  cases kind with
  | placement => exact emptied thread.signature thread.dispatchSnapshot
  | ioCs => exact emptied thread.ioCsSignature thread.villainDispatchSnapshot

/-- A snapshot in a slot was there before, or has just been captured into it. -/
theorem ThreadChange.snapshotOf_cases {call : SignatureCall} {thread after : ManagedThreadState}
    {kind : SignatureUpdateKind} {snapshot : DispatchSnapshot}
    (change : ThreadChange call tid thread after) (held : snapshotOf kind after = some snapshot) :
    snapshotOf kind thread = some snapshot ∨ call = .capture tid kind (some snapshot) := by
  cases change with
  | none => exact .inl held
  | @capture other stored called =>
      cases kind with
      | placement =>
          cases other with
          | placement =>
              obtain rfl : stored = some snapshot := held
              exact .inr called
          | ioCs => exact .inl held
      | ioCs =>
          cases other with
          | placement => exact .inl held
          | ioCs =>
              obtain rfl : stored = some snapshot := held
              exact .inr called
  | observe => exact .inl (by cases kind <;> exact held)
  | @update other task mapping dfStates nowNs staleMs =>
      cases kind with
      | placement =>
          cases other with
          | placement => cases (snapshotOf_updateThread _ _ _ _ _ _ _).symm.trans held
          | ioCs => exact .inl held
      | ioCs =>
          cases other with
          | placement => exact .inl held
          | ioCs => cases (snapshotOf_updateThread _ _ _ _ _ _ _).symm.trans held
  | planCs linkId linkCount rawShareX100 linkDeltaX100 nowNs =>
      unfold updatePlanCsThreadSignature at held
      split at held
      · exact .inl held
      · exact .inl (by cases kind <;> exact held)
  | decay => exact .inl (by cases kind <;> exact held)

variable (threads) in
theorem snapshotAt_callRun {calls : List SignatureCall} {kind : SignatureUpdateKind}
    {snapshot : DispatchSnapshot}
    (held : snapshotAt (callRun threads calls) tid kind = some snapshot) :
    snapshotAt threads tid kind = some snapshot ∨ .capture tid kind (some snapshot) ∈ calls := by
  induction calls generalizing threads with
  | nil => exact .inl held
  | cons call rest ih =>
      cases ih (call.apply threads) held with
      | inr later => exact .inr (List.mem_cons_of_mem call later)
      | inl next =>
          unfold snapshotAt at next
          cases call.apply_cases threads tid with
          | inl absent =>
              rw [absent.2] at next
              cases next
          | inr present =>
              obtain ⟨thread, after, found, result, change⟩ := present
              rw [result] at next
              cases change.snapshotOf_cases next with
              | inl before => exact .inl (by rw [snapshotAt, found]; exact before)
              | inr captured => exact .inr (captured ▸ List.mem_cons_self)

/-- A snapshot that is in a slot some time after an update of it has been captured
since: the update has taken the one before. -/
theorem snapshotAt_after_update {middle : List SignatureCall} {kind : SignatureUpdateKind}
    {task : QueuedTask} {mapping : MappingInfo} {dfStates : List (Option CcmDfStateValue)}
    {nowNs staleMs : Nat} {snapshot : DispatchSnapshot}
    (held : snapshotAt (callRun threads (.update tid kind task mapping dfStates nowNs staleMs ::
      middle)) tid kind = some snapshot) :
    .capture tid kind (some snapshot) ∈ middle := by
  cases snapshotAt_callRun (SignatureCall.apply threads
      (.update tid kind task mapping dfStates nowNs staleMs)) held with
  | inr captured => exact captured
  | inl kept =>
      rw [snapshotAt, SignatureCall.apply, changeThread_getElem?, if_pos rfl] at kept
      cases found : threads[tid]? with
      | none =>
          rw [found] at kept
          cases kept
      | some thread =>
          rw [found] at kept
          cases (snapshotOf_updateThread _ _ _ _ _ _ _).symm.trans kept

/-- Whatever the writers are called with and in whichever order, every signature stays
sound, every snapshot is read by one update at most, and an update of the attribution
signature does not raise a link above the caps of its sample. -/
theorem callRun_signatures (start : ThreadMap)
    (fresh : ∀ (tid : Nat) (thread : ManagedThreadState), start[tid]? = some thread →
      thread.signature = {} ∧ thread.ioCsSignature = {})
    (calls : List SignatureCall) :
    (∀ (tid : Nat) (thread : ManagedThreadState), (callRun start calls)[tid]? = some thread →
        SignatureSound thread.signature ∧ SignatureSound thread.ioCsSignature) ∧
      (∀ done middle tid kind task mapping dfStates nowNs staleMs snapshot,
        calls = done ++ .update tid kind task mapping dfStates nowNs staleMs :: middle →
        snapshotAt (callRun start calls) tid kind = some snapshot →
        .capture tid kind (some snapshot) ∈ middle) ∧
      ∀ (tid : Nat) (thread : ManagedThreadState) task mapping dfStates nowNs staleMs,
        ∀ link : Fin maxDomains, (callRun start calls)[tid]? = some thread →
        ∃ after, (callRun start (calls ++
            [.update tid .ioCs task mapping dfStates nowNs staleMs]))[tid]? = some after ∧
          after.ioCsSignature.dfDomainDeltaX100.get link ≤
            max (thread.ioCsSignature.dfDomainDeltaX100.get link)
              (min (ioCsTaskFillCapX100 task)
                (ioCsHistoryLinkCapX100 thread.ioCsSignature mapping link)) := by
  refine ⟨?_, ?_, ?_⟩
  · intro tid thread found
    have sound := callRun_sound start calls ?_ tid thread found
    · exact ⟨sound.placement, sound.ioCs⟩
    · intro tid thread found
      obtain ⟨placement, ioCs⟩ := fresh tid thread found
      exact ⟨placement ▸ signatureSound_default, ioCs ▸ signatureSound_default⟩
  · rintro done middle tid kind task mapping dfStates nowNs staleMs snapshot rfl held
    rw [callRun, List.foldl_append] at held
    exact snapshotAt_after_update held
  · intro tid thread task mapping dfStates nowNs staleMs link found
    refine ⟨updateThreadIoCsSignature thread task mapping dfStates nowNs staleMs, ?_,
      updateThreadIoCsSignature_le thread task mapping dfStates nowNs staleMs link⟩
    rw [callRun, List.foldl_append]
    change (changeThread (callRun start calls) tid _)[tid]? = _
    rw [changeThread_getElem?, if_pos rfl, found]
    rfl

end Runs

/-! A new thread runs between a snapshot without traffic and a sample of 30.00 MiB/s. -/

def newThreads : ThreadMap := (∅ : ThreadMap).insert 11 {}

def busyLink : Option CcmDfStateValue :=
  some { sampleTsNs := 2000000, rawReadBwMibSX100 := 3000, valid := 1 }

theorem callRun_signatures_new :
    ∃ after, (callRun newThreads ([.capture 11 .ioCs (some { validDomains := 1 })] ++
        [.update 11 .ioCs (sourceTask 100 0) plainMapping [busyLink] 2000000 100]))[11]? =
          some after ∧
      after.ioCsSignature.dfDomainDeltaX100.get ⟨0, by decide⟩ ≤ 50125 := by
  have fresh : ∀ (tid : Nat) (thread : ManagedThreadState), newThreads[tid]? = some thread →
      thread.signature = {} ∧ thread.ioCsSignature = {} := by
    intro tid thread found
    rw [newThreads, TreeMap.getElem?_insert] at found
    split at found
    · cases found
      exact ⟨rfl, rfl⟩
    · cases found
  obtain ⟨after, stored, capped⟩ := (callRun_signatures newThreads fresh
    [.capture 11 .ioCs (some { validDomains := 1 })]).2.2 11
      { villainDispatchSnapshot := some { validDomains := 1 } } (sourceTask 100 0) plainMapping
      [busyLink] 2000000 100 ⟨0, by decide⟩ rfl
  exact ⟨after, stored, capped.trans (by decide +kernel)⟩

end CSwitch.Attribution
