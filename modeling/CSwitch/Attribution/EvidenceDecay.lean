import CSwitch.Attribution.Arming
import CSwitch.Attribution.SignatureUpdate
import CSwitch.Library.PointWrites
import CSwitch.Library.Proportion

/-! Decay of the evidence on a link. Together the threads are blamed for no more
than the link carries now, with a quarter of headroom: where the sum of their
contributions is larger, all are scaled down to it, and the last contributor
gets what the others leave. -/

set_option autoImplicit false

namespace CSwitch.Attribution

open Library
open KeyedTotals (total weightAt)

def planCsEvidenceCurrentCapNumerator : Nat := 5
def planCsEvidenceCurrentCapDenominator : Nat := 4

def recomputeIoCsProjectedDfPressure (signature : ThreadSignature) (linkCount : Nat) :
    ThreadSignature :=
  { signature with
    projectedDfPressureX100 :=
      satSum32 (signature.dfDomainDeltaX100.toList.take (min linkCount maxDomains)) }

def planCsEvidenceCurrentLimitX100 (currentBwX100 : Nat) : Nat :=
  min (currentBwX100 * planCsEvidenceCurrentCapNumerator / planCsEvidenceCurrentCapDenominator)
    u32Max

structure PlanCsEvidenceDecay where
  contributors : Nat
  beforeSumX100 : Nat
  limitX100 : Nat
  afterSumX100 : Nat

/-- The threads with a contribution to a link, in the order of the thread map. -/
def linkContributors (threads : ThreadMap) (linkId : Nat) : List (Nat × Nat) :=
  threads.toList.filterMap fun (tid, thread) =>
    if !thread.ioCsSignature.valid then none
    else
      let contribution := thread.ioCsSignature.dfDomainDeltaX100[linkId]?.getD 0
      if contribution > 0 then some (tid, contribution) else none

/-- A new contribution in place of the old one. -/
def writeContribution (linkId linkCount nowNs newContribution : Nat) (thread : ManagedThreadState) :
    ManagedThreadState :=
  let signature := thread.ioCsSignature
  let sampleCount := satAdd32 signature.sampleCount 1
  let written :=
    { signature with
      dfDomainDeltaX100 := signature.dfDomainDeltaX100.setIfInBounds linkId newContribution
      rawDfDomainDeltaX100 := signature.rawDfDomainDeltaX100.setIfInBounds linkId newContribution
      lastUpdateNs := nowNs
      sampleCount }
  { thread with
    ioCsSignature :=
      { recomputeIoCsProjectedDfPressure written linkCount with
        stable := signatureStable sampleCount signature.confidenceX100 } }

structure DecayLoop where
  threads : ThreadMap
  remainingLimit : Nat
  changed : Nat := 0

/-- The loop over the contributors; the last of them gets what remains. -/
def decayContributors (linkId linkCount nowNs limitX100 beforeSumX100 : Nat) :
    List (Nat × Nat) → DecayLoop → DecayLoop
  | [], loop => loop
  | (tid, contribution) :: rest, loop =>
      let scaled := min (contribution * limitX100 / beforeSumX100) contribution
      let (newContribution, remainingLimit) :=
        if rest.isEmpty then (min loop.remainingLimit contribution, loop.remainingLimit)
        else (scaled, loop.remainingLimit - scaled)
      let next : DecayLoop :=
        match loop.threads[tid]? with
        | none => { loop with remainingLimit }
        | some thread =>
            let same := thread.ioCsSignature.dfDomainDeltaX100[linkId]?.getD 0 = newContribution
            { threads := loop.threads.insert tid
                (writeContribution linkId linkCount nowNs newContribution thread)
              remainingLimit
              changed := if same then loop.changed else satAdd32 loop.changed 1 }
      decayContributors linkId linkCount nowNs limitX100 beforeSumX100 rest next

def decayIoCsLinkEvidenceToCurrent (threads : ThreadMap)
    (linkId linkCount currentBwX100 nowNs : Nat) : ThreadMap × Option PlanCsEvidenceDecay :=
  if linkId ≥ maxDomains then (threads, none)
  else
    let contributors := linkContributors threads linkId
    if contributors.isEmpty then (threads, none)
    else
      let beforeSumX100 := satSum32 (contributors.map Prod.snd)
      let limitX100 := planCsEvidenceCurrentLimitX100 currentBwX100
      if beforeSumX100 ≤ limitX100 then (threads, none)
      else
        let decayed := decayContributors linkId linkCount nowNs limitX100 beforeSumX100 contributors
          { threads, remainingLimit := limitX100 }
        if decayed.changed = 0 then (decayed.threads, none)
        else
          let afterSumX100 := decayed.threads.values.foldl (fun acc thread =>
            if !thread.ioCsSignature.valid then acc
            else satAdd32 acc (thread.ioCsSignature.dfDomainDeltaX100[linkId]?.getD 0)) 0
          (decayed.threads,
            some { contributors := decayed.changed, beforeSumX100, limitX100, afterSumX100 })

/-- The turn of one link: with a fresh sample it decays to its bandwidth. -/
def decayIoCsEvidenceToCurrentSample (dfCsStates : List (Option CcmDfStateValue)) (nowNs : Nat)
    (policy : PolicyConfig) (threads : ThreadMap) (linkId : Nat) : ThreadMap :=
  let linkCount := min dfCsStates.length maxDomains
  match getFlat dfCsStates linkId with
  | none => threads
  | some state =>
      if state.valid = 0 ∨ isStale state.sampleTsNs nowNs (planCsStaleMs policy linkCount) then
        threads
      else (decayIoCsLinkEvidenceToCurrent threads linkId linkCount (csLinkBwX100 state) nowNs).1

def decayIoCsEvidenceToCurrentSamples (threads : ThreadMap)
    (dfCsStates : List (Option CcmDfStateValue)) (nowNs : Nat) (policy : PolicyConfig) :
    ThreadMap :=
  (List.range (min dfCsStates.length maxDomains)).foldl
    (decayIoCsEvidenceToCurrentSample dfCsStates nowNs policy) threads

/-! ## Evidence -/

/-- What a thread is blamed for on a link; an invalid signature blames it for nothing. -/
def linkEvidence (linkId : Nat) (thread : ManagedThreadState) : Nat :=
  if thread.ioCsSignature.valid then thread.ioCsSignature.dfDomainDeltaX100[linkId]?.getD 0 else 0

def evidenceAt (threads : ThreadMap) (linkId tid : Nat) : Nat :=
  weightAt (fun _ => linkEvidence linkId) threads tid

/-- The exact sum of the contributions to a link. -/
def evidenceSum (threads : ThreadMap) (linkId : Nat) : Nat :=
  total (fun _ => linkEvidence linkId) threads

section Evidence

variable {threads : ThreadMap} {linkId : Nat}

theorem evidenceAt_of_getElem? {tid : Nat} {thread : ManagedThreadState}
    (found : threads[tid]? = some thread) : evidenceAt threads linkId tid =
      linkEvidence linkId thread := by
  rw [evidenceAt, weightAt, found]
  rfl

/-- A link that does not exist has no evidence. -/
theorem linkEvidence_of_ge (outside : maxDomains ≤ linkId) (thread : ManagedThreadState) :
    linkEvidence linkId thread = 0 := by
  unfold linkEvidence
  split
  · rw [Vector.getElem?_eq_none outside]
    rfl
  · rfl

theorem linkContributors_eq (threads : ThreadMap) (linkId : Nat) :
    linkContributors threads linkId = threads.toList.filterMap fun entry =>
      if linkEvidence linkId entry.2 = 0 then none
      else some (entry.1, linkEvidence linkId entry.2) := by
  unfold linkContributors
  congr 1
  funext entry
  unfold linkEvidence
  cases valid : entry.2.ioCsSignature.valid with
  | false => simp [valid]
  | true => simp [valid, Nat.pos_iff_ne_zero]

theorem mem_linkContributors {tid contribution : Nat} :
    (tid, contribution) ∈ linkContributors threads linkId ↔
      evidenceAt threads linkId tid = contribution ∧ 0 < contribution := by
  rw [linkContributors_eq, List.mem_filterMap]
  constructor
  · rintro ⟨⟨key, thread⟩, member, kept⟩
    split at kept
    · cases kept
    · next some =>
        cases kept
        have found := Std.TreeMap.mem_toList_iff_getElem?_eq_some.mp member
        exact ⟨evidenceAt_of_getElem? found, Nat.pos_of_ne_zero some⟩
  · rintro ⟨rfl, positive⟩
    cases found : threads[tid]? with
    | none =>
        rw [evidenceAt, weightAt, found] at positive
        cases positive
    | some thread =>
        rw [evidenceAt_of_getElem? found] at positive ⊢
        refine ⟨(tid, thread), Std.TreeMap.mem_toList_iff_getElem?_eq_some.mpr found, ?_⟩
        exact if_neg (Nat.pos_iff_ne_zero.mp positive)

theorem linkContributors_nodup (threads : ThreadMap) (linkId : Nat) :
    ((linkContributors threads linkId).map Prod.fst).Nodup := by
  have keys : (linkContributors threads linkId).map Prod.fst =
      threads.toList.filterMap fun entry =>
        if linkEvidence linkId entry.2 = 0 then none else some entry.1 := by
    rw [linkContributors_eq, List.map_filterMap]
    congr 1
    funext entry
    split <;> rfl
  rw [keys]
  refine List.Pairwise.filterMap _ ?_ Std.TreeMap.distinct_keys_toList
  intro left right distinct leftKey leftKept rightKey rightKept same
  split at leftKept
  · cases leftKept
  · split at rightKept
    · cases rightKept
    · cases leftKept
      cases rightKept
      exact distinct (Std.compare_eq_iff_eq.mpr same)

/-- The contributors account for the whole evidence. -/
theorem sum_linkContributors (threads : ThreadMap) (linkId : Nat) :
    ((linkContributors threads linkId).map Prod.snd).sum = evidenceSum threads linkId := by
  rw [linkContributors_eq, evidenceSum, total]
  induction threads.toList with
  | nil => rfl
  | cons entry rest ih =>
      rw [List.filterMap_cons, List.map_cons, List.sum_cons, ← ih]
      split
      · next none =>
          split at none
          · next zero => rw [zero, Nat.zero_add]
          · cases none
      · next contributor some =>
          split at some
          · cases some
          · cases some
            rw [List.map_cons, List.sum_cons]

theorem satSum32_eq (values : List Nat) : satSum32 values = min values.sum u32Max := by
  rw [satSum32, foldl_satAdd32 values (Nat.zero_le _), Nat.zero_add]

end Evidence

/-! ## The loop -/

/-- The scaled contribution of all but the last contributor. -/
def scaledContribution (limitX100 beforeSumX100 contribution : Nat) : Nat :=
  min (contribution * limitX100 / beforeSumX100) contribution

/-- The contributions that the loop writes. -/
def decayedContributions (limitX100 beforeSumX100 : Nat) :
    List (Nat × Nat) → Nat → List (Nat × Nat)
  | [], _ => []
  | (tid, contribution) :: rest, remainingLimit =>
      if rest.isEmpty then [(tid, min remainingLimit contribution)]
      else
        let scaled := scaledContribution limitX100 beforeSumX100 contribution
        (tid, scaled) :: decayedContributions limitX100 beforeSumX100 rest (remainingLimit - scaled)

theorem decayContributors_threads (linkId linkCount nowNs limitX100 beforeSumX100 : Nat)
    (entries : List (Nat × Nat)) (loop : DecayLoop) :
    (decayContributors linkId linkCount nowNs limitX100 beforeSumX100 entries loop).threads =
      writeAll (writeContribution linkId linkCount nowNs) loop.threads
        (decayedContributions limitX100 beforeSumX100 entries loop.remainingLimit) := by
  induction entries generalizing loop with
  | nil => rfl
  | cons entry rest ih =>
      obtain ⟨tid, contribution⟩ := entry
      rw [decayContributors, ih, decayedContributions]
      cases last : rest.isEmpty with
      | true =>
          obtain rfl := List.isEmpty_iff.mp last
          cases found : loop.threads[tid]? with
          | none => simp [writeAll, writeAt, decayedContributions, found]
          | some thread => simp [writeAll, writeAt, decayedContributions, found]
      | false =>
          cases found : loop.threads[tid]? with
          | none => simp [writeAll, writeAt, scaledContribution, found]
          | some thread => simp [writeAll, writeAt, scaledContribution, found]

theorem decayedContributions_concat (limitX100 beforeSumX100 : Nat) (front : List (Nat × Nat))
    (last : Nat × Nat) (remainingLimit : Nat) :
    decayedContributions limitX100 beforeSumX100 (front ++ [last]) remainingLimit =
      (front.map fun entry => (entry.1, scaledContribution limitX100 beforeSumX100 entry.2)) ++
        [(last.1, min (remainingLimit -
          (front.map fun entry => scaledContribution limitX100 beforeSumX100 entry.2).sum)
            last.2)] := by
  induction front generalizing remainingLimit with
  | nil => rfl
  | cons entry rest ih =>
      have more : (rest ++ [last]).isEmpty = false := by simp
      rw [List.cons_append, decayedContributions, more, if_neg Bool.false_ne_true]
      dsimp only
      rw [ih, List.map_cons, List.map_cons, List.sum_cons, List.cons_append, Nat.sub_sub]

/-- The loop writes to every contributor once. -/
theorem decayedContributions_tids (limitX100 beforeSumX100 : Nat) (entries : List (Nat × Nat))
    (remainingLimit : Nat) :
    (decayedContributions limitX100 beforeSumX100 entries remainingLimit).map Prod.fst =
      entries.map Prod.fst := by
  induction entries generalizing remainingLimit with
  | nil => rfl
  | cons entry rest ih =>
      rw [decayedContributions]
      split
      · next last =>
          rw [List.isEmpty_iff.mp last]
          rfl
      · rw [List.map_cons, List.map_cons, ih]

/-- Below the sum that it is taken of, the scaled contribution is the floor share. -/
theorem scaledContribution_eq {limitX100 beforeSumX100 : Nat} (exceeds : limitX100 < beforeSumX100)
    (contribution : Nat) :
    scaledContribution limitX100 beforeSumX100 contribution =
      floorShare limitX100 beforeSumX100 contribution := by
  apply Nat.min_eq_left
  rcases Nat.eq_zero_or_pos contribution with rfl | positive
  · rw [Nat.zero_mul, Nat.zero_div]
  · exact (floorShare_lt exceeds positive).le

section Decay

variable {threads : ThreadMap} {linkId linkCount currentBwX100 nowNs : Nat}

/-- The sum of the contributions as the source computes it. -/
def beforeSumX100 (threads : ThreadMap) (linkId : Nat) : Nat :=
  min (evidenceSum threads linkId) u32Max

theorem linkEvidence_write_self (linkId linkCount nowNs : Nat) {newContribution : Nat}
    {thread : ManagedThreadState} (blamed : 0 < linkEvidence linkId thread) :
    linkEvidence linkId (writeContribution linkId linkCount nowNs newContribution thread) =
      newContribution := by
  have within : linkId < maxDomains := by
    by_contra outside
    rw [linkEvidence_of_ge (Nat.not_lt.mp outside)] at blamed
    cases blamed
  unfold linkEvidence at blamed ⊢
  cases valid : thread.ioCsSignature.valid with
  | false =>
      rw [valid] at blamed
      cases blamed
  | true => simp [writeContribution, recomputeIoCsProjectedDfPressure, valid, within]

theorem linkEvidence_write_of_ne (linkCount nowNs newContribution : Nat) {other : Nat}
    (apart : linkId ≠ other) (thread : ManagedThreadState) :
    linkEvidence other (writeContribution linkId linkCount nowNs newContribution thread) =
      linkEvidence other thread := by
  simp [linkEvidence, writeContribution, recomputeIoCsProjectedDfPressure,
    Vector.getElem?_setIfInBounds_ne apart]

section Written

variable {entries : List (Nat × Nat)} (distinct : (entries.map Prod.fst).Nodup)

include distinct

/-- What is written to a contributor is what it is blamed for afterwards. -/
theorem evidenceAt_writeAll {tid contribution : Nat} (written : (tid, contribution) ∈ entries)
    (blamed : 0 < evidenceAt threads linkId tid) :
    evidenceAt (writeAll (writeContribution linkId linkCount nowNs) threads entries) linkId tid =
      contribution := by
  have stored := writeAll_getElem?_of_mem (writeContribution linkId linkCount nowNs) threads
    distinct written
  cases found : threads[tid]? with
  | none =>
      rw [evidenceAt, weightAt, found] at blamed
      cases blamed
  | some thread =>
      rw [evidenceAt_of_getElem? found] at blamed
      rw [found, Option.map_some] at stored
      rw [evidenceAt_of_getElem? stored, linkEvidence_write_self _ _ _ blamed]

/-- Writes to a link leave the evidence of the others. -/
theorem evidenceAt_writeAll_of_ne {other : Nat} (apart : other ≠ linkId) (tid : Nat) :
    evidenceAt (writeAll (writeContribution linkId linkCount nowNs) threads entries) other tid =
      evidenceAt threads other tid := by
  unfold evidenceAt weightAt
  by_cases listed : tid ∈ entries.map Prod.fst
  · obtain ⟨entry, member, rfl⟩ := List.mem_map.mp listed
    rw [writeAll_getElem?_of_mem _ threads distinct member]
    cases threads[entry.1]? with
    | none => rfl
    | some thread => exact linkEvidence_write_of_ne linkCount nowNs entry.2 apart.symm thread
  · rw [writeAll_getElem?_of_not_mem listed]

variable (threads linkId linkCount nowNs) in
theorem evidenceSum_writeAll (other : Nat) :
    evidenceSum (writeAll (writeContribution linkId linkCount nowNs) threads entries) other +
        (entries.map fun entry => evidenceAt threads other entry.1).sum =
      evidenceSum threads other + (entries.map fun entry => evidenceAt
        (writeAll (writeContribution linkId linkCount nowNs) threads entries) other entry.1).sum :=
  total_writeAll (fun _ => linkEvidence other) (writeContribution linkId linkCount nowNs) threads
    distinct

theorem evidenceSum_writeAll_of_ne {other : Nat} (apart : other ≠ linkId) :
    evidenceSum (writeAll (writeContribution linkId linkCount nowNs) threads entries) other =
      evidenceSum threads other := by
  have balance := evidenceSum_writeAll threads linkId linkCount nowNs distinct other
  simp only [evidenceAt_writeAll_of_ne distinct apart] at balance
  exact Nat.add_right_cancel balance

end Written

/-- The decay of a link leaves all as it is, or scales its contributors down. -/
theorem decayIoCsLinkEvidenceToCurrent_cases (threads : ThreadMap)
    (linkId linkCount currentBwX100 nowNs : Nat) :
    (decayIoCsLinkEvidenceToCurrent threads linkId linkCount currentBwX100 nowNs =
        (threads, none) ∧
      beforeSumX100 threads linkId ≤ planCsEvidenceCurrentLimitX100 currentBwX100) ∨
    (planCsEvidenceCurrentLimitX100 currentBwX100 < beforeSumX100 threads linkId ∧
      ∃ front last, linkContributors threads linkId = front ++ [last] ∧
        (decayIoCsLinkEvidenceToCurrent threads linkId linkCount currentBwX100 nowNs).1 =
          writeAll (writeContribution linkId linkCount nowNs) threads
            (decayedContributions (planCsEvidenceCurrentLimitX100 currentBwX100)
              (beforeSumX100 threads linkId) (front ++ [last])
              (planCsEvidenceCurrentLimitX100 currentBwX100))) := by
  have computed : satSum32 ((linkContributors threads linkId).map Prod.snd) =
      beforeSumX100 threads linkId := by
    rw [satSum32_eq, sum_linkContributors]
    rfl
  unfold decayIoCsLinkEvidenceToCurrent
  dsimp only
  rw [computed]
  by_cases outside : linkId ≥ maxDomains
  · have nothing : evidenceSum threads linkId = 0 := by
      simp [evidenceSum, total, linkEvidence_of_ge outside]
    refine .inl ⟨if_pos outside, ?_⟩
    rw [beforeSumX100, nothing, Nat.zero_min]
    exact Nat.zero_le _
  · rw [if_neg outside]
    rcases List.eq_nil_or_concat (linkContributors threads linkId) with none | ⟨front, last, split⟩
    · have nothing : evidenceSum threads linkId = 0 := by
        rw [← sum_linkContributors, none]
        rfl
      refine .inl ⟨by rw [none]; rfl, ?_⟩
      rw [beforeSumX100, nothing, Nat.zero_min]
      exact Nat.zero_le _
    · rw [List.concat_eq_append] at split
      have some : (linkContributors threads linkId).isEmpty = false := by simp [split]
      rw [some, if_neg Bool.false_ne_true]
      by_cases fits : beforeSumX100 threads linkId ≤ planCsEvidenceCurrentLimitX100 currentBwX100
      · exact .inl ⟨if_pos fits, fits⟩
      · refine .inr ⟨Nat.not_le.mp fits, front, last, split, ?_⟩
        have looped := decayContributors_threads linkId linkCount nowNs
          (planCsEvidenceCurrentLimitX100 currentBwX100) (beforeSumX100 threads linkId)
          (front ++ [last]) { threads, remainingLimit := planCsEvidenceCurrentLimitX100 currentBwX100 }
        rw [if_neg fits, split]
        split
        · exact looped
        · exact looped

/-- Decay writes new contributions to threads with a valid signature, and nothing else. -/
theorem decayIoCsLinkEvidenceToCurrent_getElem? (threads : ThreadMap)
    (linkId linkCount currentBwX100 nowNs tid : Nat) :
    (decayIoCsLinkEvidenceToCurrent threads linkId linkCount currentBwX100 nowNs).1[tid]? =
        threads[tid]? ∨
      ∃ thread contribution, threads[tid]? = some thread ∧ thread.ioCsSignature.valid = true ∧
        (decayIoCsLinkEvidenceToCurrent threads linkId linkCount currentBwX100 nowNs).1[tid]? =
          some (writeContribution linkId linkCount nowNs contribution thread) := by
  cases decayIoCsLinkEvidenceToCurrent_cases threads linkId linkCount currentBwX100 nowNs with
  | inl unchanged => exact .inl (by rw [unchanged.1])
  | inr scaled =>
      obtain ⟨_, front, last, split, written⟩ := scaled
      have tids := decayedContributions_tids (planCsEvidenceCurrentLimitX100 currentBwX100)
        (beforeSumX100 threads linkId) (front ++ [last])
        (planCsEvidenceCurrentLimitX100 currentBwX100)
      rw [← split] at tids
      rw [written, ← split]
      by_cases listed : tid ∈ (linkContributors threads linkId).map Prod.fst
      · rw [← tids] at listed
        obtain ⟨entry, member, rfl⟩ := List.mem_map.mp listed
        have stored := writeAll_getElem?_of_mem (writeContribution linkId linkCount nowNs) threads
          (tids ▸ linkContributors_nodup threads linkId) member
        obtain ⟨contributor, isContributor, same⟩ :=
          List.mem_map.mp (tids ▸ List.mem_map_of_mem member : entry.1 ∈ _)
        obtain ⟨evidence, some⟩ := mem_linkContributors.mp isContributor
        rw [same] at evidence
        cases found : threads[entry.1]? with
        | none => exact .inl (by rw [stored, found]; rfl)
        | some thread =>
            rw [evidenceAt_of_getElem? found] at evidence
            refine .inr ⟨thread, entry.2, rfl, ?_, by rw [stored, found]; rfl⟩
            unfold linkEvidence at evidence
            split at evidence
            · assumption
            · omega
      · exact .inl (writeAll_getElem?_of_not_mem (tids ▸ listed))

/-- A decay that scales the contributors of a link, with the last of them apart. -/
structure Scales (threads after : ThreadMap) (linkId limitX100 : Nat) (front : List (Nat × Nat))
    (last : Nat × Nat) : Prop where
  contributors : linkContributors threads linkId = front ++ [last]
  exceeds : limitX100 < beforeSumX100 threads linkId
  others : ∀ tid ≠ last.1, evidenceAt after linkId tid =
    floorShare limitX100 (beforeSumX100 threads linkId) (evidenceAt threads linkId tid)
  rest : evidenceAt after linkId last.1 =
    min (leftOver limitX100 (beforeSumX100 threads linkId) (front.map Prod.snd)) last.2
  sum : evidenceSum after linkId =
    ((front ++ [last]).map fun entry => evidenceAt after linkId entry.1).sum
  links : ∀ other ≠ linkId, ∀ tid, evidenceAt after other tid = evidenceAt threads other tid
  sums : ∀ other ≠ linkId, evidenceSum after other = evidenceSum threads other
  silent : ∀ tid, evidenceAt threads linkId tid = 0 → after[tid]? = threads[tid]?

section Scaling

variable {after : ThreadMap} {limitX100 : Nat} {front : List (Nat × Nat)} {last : Nat × Nat}

theorem Scales.before_le (scales : Scales threads after linkId limitX100 front last) :
    beforeSumX100 threads linkId ≤ (front.map Prod.snd).sum + last.2 := by
  have whole := sum_linkContributors threads linkId
  rw [scales.contributors, List.map_append, List.sum_append, List.map_singleton,
    List.sum_singleton] at whole
  rw [whole]
  exact Nat.min_le_left _ _

theorem Scales.last_evidence (scales : Scales threads after linkId limitX100 front last) :
    evidenceAt threads linkId last.1 = last.2 ∧ 0 < last.2 := by
  apply mem_linkContributors.mp
  rw [scales.contributors]
  exact List.mem_append_right front List.mem_cons_self

/-- The last contributor gets at most as much more than its share as there are others. -/
theorem Scales.rest_le (scales : Scales threads after linkId limitX100 front last) :
    evidenceAt after linkId last.1 ≤
      floorShare limitX100 (beforeSumX100 threads linkId) last.2 + front.length := by
  have positive : 0 < beforeSumX100 threads linkId := Nat.zero_lt_of_lt scales.exceeds
  have bound := leftOver_le limitX100 positive scales.before_le
  rw [List.length_map] at bound
  rw [scales.rest]
  exact (Nat.min_le_left _ _).trans bound

/-- Where the sum needs no more than 32 bits, the last contributor gets at least its share. -/
theorem Scales.le_rest (scales : Scales threads after linkId limitX100 front last)
    (exact : evidenceSum threads linkId ≤ u32Max) :
    floorShare limitX100 (beforeSumX100 threads linkId) last.2 ≤ evidenceAt after linkId last.1 := by
  have positive : 0 < beforeSumX100 threads linkId := Nat.zero_lt_of_lt scales.exceeds
  have whole : (front.map Prod.snd).sum + last.2 ≤ beforeSumX100 threads linkId := by
    have sums := sum_linkContributors threads linkId
    rw [scales.contributors, List.map_append, List.sum_append, List.map_singleton,
      List.sum_singleton] at sums
    rw [sums, beforeSumX100, Nat.min_eq_left exact]
  rw [scales.rest]
  apply Nat.le_min.mpr
  constructor
  · exact floorShare_le_leftOver limitX100 positive whole
  · exact (floorShare_lt scales.exceeds scales.last_evidence.2).le

/-- A contribution never grows. -/
theorem Scales.le (scales : Scales threads after linkId limitX100 front last) (tid : Nat) :
    evidenceAt after linkId tid ≤ evidenceAt threads linkId tid := by
  by_cases isLast : tid = last.1
  · rw [isLast, scales.rest, scales.last_evidence.1]
    exact Nat.min_le_right _ _
  · rw [scales.others tid isLast]
    rcases Nat.eq_zero_or_pos (evidenceAt threads linkId tid) with none | some
    · rw [none, floorShare, Nat.zero_mul, Nat.zero_div]
    · exact (floorShare_lt scales.exceeds some).le

end Scaling

/-- The contributors of a link that are not the last. -/
theorem front_ne_last {front : List (Nat × Nat)} {last : Nat × Nat}
    (split : linkContributors threads linkId = front ++ [last]) {entry : Nat × Nat}
    (member : entry ∈ front) : entry.1 ≠ last.1 := by
  have distinct := linkContributors_nodup threads linkId
  rw [split, List.map_append, List.nodup_append] at distinct
  exact distinct.2.2 entry.1 (List.mem_map_of_mem member) last.1
    (List.mem_map_of_mem List.mem_cons_self)

/-- What the loop writes, contributor by contributor. -/
def scaledContributions (limitX100 beforeSumX100 : Nat) (front : List (Nat × Nat))
    (last : Nat × Nat) : List (Nat × Nat) :=
  (front.map fun entry => (entry.1, floorShare limitX100 beforeSumX100 entry.2)) ++
    [(last.1, min (leftOver limitX100 beforeSumX100 (front.map Prod.snd)) last.2)]

theorem decayedContributions_eq {limitX100 beforeSumX100 : Nat} (exceeds : limitX100 < beforeSumX100)
    (front : List (Nat × Nat)) (last : Nat × Nat) :
    decayedContributions limitX100 beforeSumX100 (front ++ [last]) limitX100 =
      scaledContributions limitX100 beforeSumX100 front last := by
  rw [decayedContributions_concat, scaledContributions, leftOver, List.map_map]
  simp only [scaledContribution_eq exceeds]
  rfl

theorem scaledContributions_tids (limitX100 beforeSumX100 : Nat) (front : List (Nat × Nat))
    (last : Nat × Nat) : (scaledContributions limitX100 beforeSumX100 front last).map Prod.fst =
      (front ++ [last]).map Prod.fst := by
  rw [scaledContributions, List.map_append, List.map_append, List.map_map]
  rfl

/-- The evidence of the contributors is all the evidence, before and after they are written. -/
theorem evidenceSum_writeAll_contributors {entries : List (Nat × Nat)}
    (tids : entries.map Prod.fst = (linkContributors threads linkId).map Prod.fst) :
    evidenceSum (writeAll (writeContribution linkId linkCount nowNs) threads entries) linkId =
      ((linkContributors threads linkId).map fun entry => evidenceAt
        (writeAll (writeContribution linkId linkCount nowNs) threads entries) linkId entry.1).sum := by
  have balance := evidenceSum_writeAll threads linkId linkCount nowNs
    (tids ▸ linkContributors_nodup threads linkId) linkId
  have sameTids : ∀ map : ThreadMap, (entries.map fun entry => evidenceAt map linkId entry.1) =
      (linkContributors threads linkId).map fun entry => evidenceAt map linkId entry.1 := by
    intro map
    have composed := congrArg (List.map (evidenceAt map linkId)) tids
    rw [List.map_map, List.map_map] at composed
    exact composed
  have whole : ((linkContributors threads linkId).map fun entry =>
      evidenceAt threads linkId entry.1).sum = evidenceSum threads linkId := by
    rw [← sum_linkContributors]
    congr 1
    exact List.map_congr_left fun entry member => (mem_linkContributors.mp member).1
  rw [sameTids, sameTids, whole] at balance
  exact Nat.add_left_cancel ((Nat.add_comm _ _).trans balance)

theorem scales_of_split {front : List (Nat × Nat)} {last : Nat × Nat}
    (split : linkContributors threads linkId = front ++ [last]) {limitX100 : Nat}
    (exceeds : limitX100 < beforeSumX100 threads linkId) :
    Scales threads
      (writeAll (writeContribution linkId linkCount nowNs) threads
        (decayedContributions limitX100 (beforeSumX100 threads linkId) (front ++ [last]) limitX100))
      linkId limitX100 front last := by
  have contributor : ∀ entry ∈ front ++ [last],
      evidenceAt threads linkId entry.1 = entry.2 ∧ 0 < entry.2 := by
    intro entry member
    exact mem_linkContributors.mp (split ▸ member)
  have tids := scaledContributions_tids limitX100 (beforeSumX100 threads linkId) front last
  have distinct := linkContributors_nodup threads linkId
  rw [split, ← tids] at distinct
  rw [decayedContributions_eq exceeds]
  have unwritten : ∀ tid, evidenceAt threads linkId tid = 0 →
      (writeAll (writeContribution linkId linkCount nowNs) threads
        (scaledContributions limitX100 (beforeSumX100 threads linkId) front last))[tid]? =
          threads[tid]? := by
    intro tid silent
    apply writeAll_getElem?_of_not_mem
    rw [tids]
    intro listed
    obtain ⟨entry, member, rfl⟩ := List.mem_map.mp listed
    obtain ⟨evidence, some⟩ := contributor entry member
    omega
  refine
    { contributors := split
      exceeds
      others := ?_
      rest := ?_
      sum := ?_
      links := fun other apart => evidenceAt_writeAll_of_ne distinct apart
      sums := fun other apart => evidenceSum_writeAll_of_ne distinct apart
      silent := unwritten }
  · intro tid other
    rcases Nat.eq_zero_or_pos (evidenceAt threads linkId tid) with none | some
    · rw [none, floorShare, Nat.zero_mul, Nat.zero_div, evidenceAt, weightAt, unwritten tid none]
      exact none
    · have listed := mem_linkContributors.mpr ⟨rfl, some⟩
      rw [split] at listed
      cases List.mem_append.mp listed with
      | inl member =>
          refine evidenceAt_writeAll distinct (List.mem_append_left _ ?_) some
          exact List.mem_map.mpr ⟨_, member, rfl⟩
      | inr isLast => exact absurd (congrArg Prod.fst (List.mem_singleton.mp isLast)) other
  · obtain ⟨evidence, some⟩ := contributor last (List.mem_append_right front List.mem_cons_self)
    exact evidenceAt_writeAll distinct (List.mem_append_right _ List.mem_cons_self) (by omega)
  · rw [← split] at tids ⊢
    exact evidenceSum_writeAll_contributors tids

/-- The decay of a link leaves all as it is, or scales its contributors down. -/
theorem decayIoCsLinkEvidenceToCurrent_scales (threads : ThreadMap)
    (linkId linkCount currentBwX100 nowNs : Nat) :
    (decayIoCsLinkEvidenceToCurrent threads linkId linkCount currentBwX100 nowNs =
        (threads, none) ∧
      beforeSumX100 threads linkId ≤ planCsEvidenceCurrentLimitX100 currentBwX100) ∨
    ∃ front last, Scales threads
      (decayIoCsLinkEvidenceToCurrent threads linkId linkCount currentBwX100 nowNs).1 linkId
      (planCsEvidenceCurrentLimitX100 currentBwX100) front last := by
  rcases decayIoCsLinkEvidenceToCurrent_cases threads linkId linkCount currentBwX100 nowNs with
    unchanged | ⟨exceeds, front, last, split, written⟩
  · exact .inl unchanged
  · refine .inr ⟨front, last, ?_⟩
    rw [written]
    exact scales_of_split split exceeds

end Decay

end CSwitch.Attribution
