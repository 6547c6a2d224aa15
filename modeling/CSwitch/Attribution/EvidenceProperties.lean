import CSwitch.Attribution.EvidenceDecay
import CSwitch.Library.FoldPrefix
import CSwitch.Planner.PlanProperties

/-! What the decay of evidence keeps: the contributions to a link fit its limit,
and only the last contributor can change its place among them. -/

set_option autoImplicit false

namespace CSwitch.Attribution

open Library

/-! ## The limit -/

section Limit

variable {threads after : ThreadMap} {linkId limitX100 : Nat} {front : List (Nat × Nat)}
  {last : Nat × Nat}

/-- The floor shares of the others and what they leave fit the limit. -/
theorem Scales.sum_le (scales : Scales threads after linkId limitX100 front last)
    (exact : evidenceSum threads linkId ≤ u32Max) : evidenceSum after linkId ≤ limitX100 := by
  have positive : 0 < beforeSumX100 threads linkId := Nat.zero_lt_of_lt scales.exceeds
  have within : (front.map Prod.snd).sum ≤ beforeSumX100 threads linkId := by
    have sums := sum_linkContributors threads linkId
    rw [scales.contributors, List.map_append, List.sum_append] at sums
    rw [beforeSumX100, Nat.min_eq_left exact, ← sums]
    exact Nat.le_add_right _ _
  have shares : (front.map fun entry => evidenceAt after linkId entry.1) =
      (front.map Prod.snd).map (floorShare limitX100 (beforeSumX100 threads linkId)) := by
    rw [List.map_map]
    refine List.map_congr_left ?_
    intro entry member
    have contributor : entry ∈ linkContributors threads linkId :=
      scales.contributors ▸ List.mem_append_left _ member
    rw [scales.others entry.1 (front_ne_last scales.contributors member),
      (mem_linkContributors.mp contributor).1]
    rfl
  have parts := sum_floorShare_add_leftOver limitX100 positive within
  rw [scales.sum, List.map_append, List.sum_append, shares, List.map_singleton,
    List.sum_singleton, scales.rest]
  omega

end Limit

/-- What a decay of one link leaves alone. -/
structure DecaysOnly (threads after : ThreadMap) (linkId : Nat) : Prop where
  le : ∀ tid, evidenceAt after linkId tid ≤ evidenceAt threads linkId tid
  silent : ∀ tid, evidenceAt threads linkId tid = 0 → after[tid]? = threads[tid]?
  links : ∀ other ≠ linkId, ∀ tid, evidenceAt after other tid = evidenceAt threads other tid
  sums : ∀ other ≠ linkId, evidenceSum after other = evidenceSum threads other

theorem DecaysOnly.refl (threads : ThreadMap) (linkId : Nat) : DecaysOnly threads threads linkId where
  le _ := le_rfl
  silent _ _ := rfl
  links _ _ _ := rfl
  sums _ _ := rfl

theorem decayIoCsLinkEvidenceToCurrent_decaysOnly (threads : ThreadMap)
    (linkId linkCount currentBwX100 nowNs : Nat) :
    DecaysOnly threads
      (decayIoCsLinkEvidenceToCurrent threads linkId linkCount currentBwX100 nowNs).1 linkId := by
  cases decayIoCsLinkEvidenceToCurrent_scales threads linkId linkCount currentBwX100 nowNs with
  | inl unchanged =>
      rw [unchanged.1]
      exact .refl threads linkId
  | inr scaled =>
      obtain ⟨front, last, scales⟩ := scaled
      exact
        { le := scales.le
          silent := scales.silent
          links := scales.links
          sums := scales.sums }

/-- Evidence within the limit stays as it is. -/
theorem decayIoCsLinkEvidenceToCurrent_settled {threads : ThreadMap} {linkId currentBwX100 : Nat}
    (fits : evidenceSum threads linkId ≤ planCsEvidenceCurrentLimitX100 currentBwX100)
    (linkCount nowNs : Nat) :
    decayIoCsLinkEvidenceToCurrent threads linkId linkCount currentBwX100 nowNs =
      (threads, none) := by
  cases decayIoCsLinkEvidenceToCurrent_scales threads linkId linkCount currentBwX100 nowNs with
  | inl unchanged => exact unchanged.1
  | inr scaled =>
      obtain ⟨front, last, scales⟩ := scaled
      exact absurd ((Nat.min_le_left _ _).trans fits) (Nat.not_le.mpr scales.exceeds)

theorem evidenceSum_decay_le {threads : ThreadMap} {linkId : Nat}
    (exact : evidenceSum threads linkId ≤ u32Max) (linkCount currentBwX100 nowNs : Nat) :
    evidenceSum (decayIoCsLinkEvidenceToCurrent threads linkId linkCount currentBwX100 nowNs).1
      linkId ≤ planCsEvidenceCurrentLimitX100 currentBwX100 := by
  cases decayIoCsLinkEvidenceToCurrent_scales threads linkId linkCount currentBwX100 nowNs with
  | inl unchanged =>
      rw [unchanged.1, ← Nat.min_eq_left exact]
      exact unchanged.2
  | inr scaled =>
      obtain ⟨front, last, scales⟩ := scaled
      exact scales.sum_le exact

/-- Decay brings the contributions to a link within the limit of its bandwidth and
lets none of them grow; it changes nothing where they fit already, and nothing
besides them, so that decaying again to the same bandwidth changes nothing. -/
theorem decayIoCsLinkEvidenceToCurrent_bounded (threads : ThreadMap)
    (linkId linkCount currentBwX100 nowNs : Nat) (exact : evidenceSum threads linkId ≤ u32Max) :
    let after := (decayIoCsLinkEvidenceToCurrent threads linkId linkCount currentBwX100 nowNs).1
    evidenceSum after linkId ≤ planCsEvidenceCurrentLimitX100 currentBwX100 ∧
      (evidenceSum threads linkId ≤ planCsEvidenceCurrentLimitX100 currentBwX100 →
        after = threads) ∧
      (∀ tid, evidenceAt after linkId tid ≤ evidenceAt threads linkId tid) ∧
      (∀ tid, evidenceAt threads linkId tid = 0 → after[tid]? = threads[tid]?) ∧
      (∀ other ≠ linkId, ∀ tid, evidenceAt after other tid = evidenceAt threads other tid) ∧
      ∀ linkCount nowNs,
        decayIoCsLinkEvidenceToCurrent after linkId linkCount currentBwX100 nowNs =
          (after, none) := by
  intro after
  have decays := decayIoCsLinkEvidenceToCurrent_decaysOnly threads linkId linkCount currentBwX100 nowNs
  have bounded := evidenceSum_decay_le exact linkCount currentBwX100 nowNs
  refine ⟨bounded, ?_, decays.le, decays.silent, decays.links,
    decayIoCsLinkEvidenceToCurrent_settled bounded⟩
  intro fits
  exact congrArg Prod.fst (decayIoCsLinkEvidenceToCurrent_settled fits linkCount nowNs)

/-! Two threads are blamed for 400.00 MiB/s on a link that carries 160.00 MiB/s. -/

def blamedThread (evidenceX100 : Nat) : ManagedThreadState where
  ioCsSignature :=
    { valid := true
      sampleCount := 2
      confidenceX100 := 7000
      dfDomainDeltaX100 := (Vector.replicate maxDomains 0).set 0 evidenceX100 maxDomains_pos }

def blamedThreads : ThreadMap := .ofList [(11, blamedThread 30000), (12, blamedThread 10000)]

theorem decayIoCsLinkEvidenceToCurrent_bounded_blamed :
    evidenceSum (decayIoCsLinkEvidenceToCurrent blamedThreads 0 1 16000 5).1 0 ≤ 20000 :=
  (decayIoCsLinkEvidenceToCurrent_bounded blamedThreads 0 1 16000 5 (by decide +kernel)).1

/-! ## The pass over the links -/

/-- The sample that the pass goes by on a link: present, valid and not stale. -/
structure CurrentSample (dfCsStates : List (Option CcmDfStateValue)) (nowNs : Nat)
    (policy : PolicyConfig) (linkId : Nat) (state : CcmDfStateValue) : Prop where
  within : linkId < min dfCsStates.length maxDomains
  sampled : getFlat dfCsStates linkId = some state
  valid : state.valid ≠ 0
  fresh : isStale state.sampleTsNs nowNs
    (planCsStaleMs policy (min dfCsStates.length maxDomains)) = false

/-- No thread gained or lost a contribution to the link. -/
structure SameEvidence (threads after : ThreadMap) (linkId : Nat) : Prop where
  sum : evidenceSum after linkId = evidenceSum threads linkId
  each : ∀ tid, evidenceAt after linkId tid = evidenceAt threads linkId tid

/-- What the pass does to a link: with a fresh sample the contributions fit its limit,
and they are left alone if they fit before or there is none. -/
structure LinkSettled (dfCsStates : List (Option CcmDfStateValue)) (nowNs : Nat)
    (policy : PolicyConfig) (threads after : ThreadMap) (linkId : Nat) : Prop where
  bounded : ∀ state, CurrentSample dfCsStates nowNs policy linkId state →
    evidenceSum after linkId ≤ planCsEvidenceCurrentLimitX100 (csLinkBwX100 state)
  fitting : ∀ state, CurrentSample dfCsStates nowNs policy linkId state →
    evidenceSum threads linkId ≤ planCsEvidenceCurrentLimitX100 (csLinkBwX100 state) →
      SameEvidence threads after linkId
  unsampled : (∀ state, ¬ CurrentSample dfCsStates nowNs policy linkId state) →
    SameEvidence threads after linkId
  le : ∀ tid, evidenceAt after linkId tid ≤ evidenceAt threads linkId tid

section Samples

variable {dfCsStates : List (Option CcmDfStateValue)} {nowNs : Nat} {policy : PolicyConfig}
  {threads middle after : ThreadMap} {linkId : Nat}

theorem SameEvidence.refl (threads : ThreadMap) (linkId : Nat) :
    SameEvidence threads threads linkId :=
  ⟨rfl, fun _ => rfl⟩

theorem SameEvidence.trans (first : SameEvidence threads middle linkId)
    (second : SameEvidence middle after linkId) : SameEvidence threads after linkId :=
  ⟨second.sum.trans first.sum, fun tid => (second.each tid).trans (first.each tid)⟩

theorem DecaysOnly.other {turn : Nat} (decays : DecaysOnly threads after turn)
    (apart : linkId ≠ turn) : SameEvidence threads after linkId :=
  ⟨decays.sums linkId apart, decays.links linkId apart⟩

theorem LinkSettled.before (settled : LinkSettled dfCsStates nowNs policy middle after linkId)
    (same : SameEvidence threads middle linkId) :
    LinkSettled dfCsStates nowNs policy threads after linkId where
  bounded := settled.bounded
  fitting state fresh fits := same.trans (settled.fitting state fresh (same.sum ▸ fits))
  unsampled none := same.trans (settled.unsampled none)
  le tid := same.each tid ▸ settled.le tid

theorem LinkSettled.later (settled : LinkSettled dfCsStates nowNs policy threads middle linkId)
    (same : SameEvidence middle after linkId) :
    LinkSettled dfCsStates nowNs policy threads after linkId where
  bounded state fresh := same.sum ▸ settled.bounded state fresh
  fitting state fresh fits := (settled.fitting state fresh fits).trans same
  unsampled none := (settled.unsampled none).trans same
  le tid := same.each tid ▸ settled.le tid

theorem SameEvidence.unreached (beyond : ¬ linkId < min dfCsStates.length maxDomains)
    (same : SameEvidence threads after linkId) :
    LinkSettled dfCsStates nowNs policy threads after linkId where
  bounded _ fresh := absurd fresh.within beyond
  fitting _ _ _ := same
  unsampled _ := same
  le tid := (same.each tid).le

variable (dfCsStates nowNs policy) in
theorem decayIoCsEvidenceToCurrentSample_decaysOnly (threads : ThreadMap) (linkId : Nat) :
    DecaysOnly threads (decayIoCsEvidenceToCurrentSample dfCsStates nowNs policy threads linkId)
      linkId := by
  unfold decayIoCsEvidenceToCurrentSample
  cases getFlat dfCsStates linkId with
  | none => exact .refl threads linkId
  | some state =>
      dsimp only
      split
      · exact .refl threads linkId
      · exact decayIoCsLinkEvidenceToCurrent_decaysOnly threads linkId _ _ nowNs

/-- With a fresh sample the turn of a link is a decay to its bandwidth. -/
theorem CurrentSample.turn {state : CcmDfStateValue}
    (fresh : CurrentSample dfCsStates nowNs policy linkId state) (threads : ThreadMap) :
    decayIoCsEvidenceToCurrentSample dfCsStates nowNs policy threads linkId =
      (decayIoCsLinkEvidenceToCurrent threads linkId (min dfCsStates.length maxDomains)
        (csLinkBwX100 state) nowNs).1 := by
  unfold decayIoCsEvidenceToCurrentSample
  rw [fresh.sampled]
  dsimp only
  rw [if_neg (by simp [fresh.valid, fresh.fresh])]

theorem decayIoCsEvidenceToCurrentSample_unsampled
    (within : linkId < min dfCsStates.length maxDomains)
    (none : ∀ state, ¬ CurrentSample dfCsStates nowNs policy linkId state) (threads : ThreadMap) :
    decayIoCsEvidenceToCurrentSample dfCsStates nowNs policy threads linkId = threads := by
  unfold decayIoCsEvidenceToCurrentSample
  cases sampled : getFlat dfCsStates linkId with
  | none => rfl
  | some state =>
      dsimp only
      split
      · rfl
      next used =>
        rw [not_or, Bool.not_eq_true] at used
        exact absurd ⟨within, sampled, used.1, used.2⟩ (none state)

variable (dfCsStates nowNs policy) in
theorem decayIoCsEvidenceToCurrentSample_settled
    (within : linkId < min dfCsStates.length maxDomains)
    (exact : evidenceSum threads linkId ≤ u32Max) :
    LinkSettled dfCsStates nowNs policy threads
      (decayIoCsEvidenceToCurrentSample dfCsStates nowNs policy threads linkId) linkId where
  bounded state fresh := by
    rw [fresh.turn]
    exact evidenceSum_decay_le exact _ _ _
  fitting state fresh fits := by
    rw [fresh.turn, decayIoCsLinkEvidenceToCurrent_settled fits]
    exact .refl threads linkId
  unsampled none := by
    rw [decayIoCsEvidenceToCurrentSample_unsampled within none]
    exact .refl threads linkId
  le := (decayIoCsEvidenceToCurrentSample_decaysOnly dfCsStates nowNs policy threads linkId).le

/-- After the turns of all links every link is settled: its own turn does it, and the
turns of the other links do not touch it. -/
theorem decayIoCsEvidenceToCurrentSamples_settled (threads : ThreadMap)
    (dfCsStates : List (Option CcmDfStateValue)) (nowNs : Nat) (policy : PolicyConfig)
    (linkId : Nat) (exact : evidenceSum threads linkId ≤ u32Max) :
    LinkSettled dfCsStates nowNs policy threads
      (decayIoCsEvidenceToCurrentSamples threads dfCsStates nowNs policy) linkId := by
  have running := @foldl_prefix_invariant _ _
    (fun done (after : ThreadMap) => (linkId ∉ done → SameEvidence threads after linkId) ∧
      (linkId ∈ done → LinkSettled dfCsStates nowNs policy threads after linkId))
    (decayIoCsEvidenceToCurrentSample dfCsStates nowNs policy)
    (List.range (min dfCsStates.length maxDomains)) threads
    ⟨fun _ => .refl threads linkId, fun nothing => absurd nothing List.not_mem_nil⟩ ?_
  · by_cases within : linkId < min dfCsStates.length maxDomains
    · exact running.2 (List.mem_range.mpr within)
    · exact (running.1 (mt List.mem_range.mp within)).unreached within
  · intro done turn rest after split before
    by_cases own : turn = linkId
    · subst own
      have reached : turn ∈ List.range (min dfCsStates.length maxDomains) :=
        split ▸ List.mem_append_right done List.mem_cons_self
      have first : turn ∉ done := by
        have once := List.nodup_range (n := min dfCsStates.length maxDomains)
        rw [split, List.nodup_append] at once
        exact fun member => once.2.2 turn member turn List.mem_cons_self rfl
      have same := before.1 first
      have settled := (decayIoCsEvidenceToCurrentSample_settled dfCsStates nowNs policy
        (List.mem_range.mp reached) (same.sum ▸ exact)).before same
      exact ⟨fun absent => absurd (List.mem_append_right done List.mem_cons_self) absent,
        fun _ => settled⟩
    · have kept := (decayIoCsEvidenceToCurrentSample_decaysOnly dfCsStates nowNs policy after
        turn).other (Ne.symm own)
      have listed : linkId ∈ done ++ [turn] ↔ linkId ∈ done := by
        simp [Ne.symm own]
      rw [listed]
      exact ⟨fun absent => (before.1 absent).trans kept,
        fun member => (before.2 member).later kept⟩

end Samples

/-! The sample of the link that carries 160.00 MiB/s is fresh, that of a second link
is missing. -/

def carriedSamples : List (Option CcmDfStateValue) :=
  [some { sampleTsNs := 1000, rawReadBwMibSX100 := 16000, valid := 1 }, none]

theorem carriedSamples_fresh :
    CurrentSample carriedSamples 5000 Planner.samplePolicy 0
      { sampleTsNs := 1000, rawReadBwMibSX100 := 16000, valid := 1 } :=
  ⟨by decide, rfl, by decide, by decide⟩

theorem decayIoCsEvidenceToCurrentSamples_settled_blamed :
    evidenceSum blamedThreads 0 = 40000 ∧
      evidenceSum (decayIoCsEvidenceToCurrentSamples blamedThreads carriedSamples 5000
        Planner.samplePolicy) 0 ≤ 20000 :=
  ⟨by decide +kernel, (decayIoCsEvidenceToCurrentSamples_settled blamedThreads carriedSamples 5000
    Planner.samplePolicy 0 (by decide +kernel)).bounded _ carriedSamples_fresh⟩

/-! ## Order -/

/-- The contributor that gets what the others leave: the one with the largest tid. -/
def lastContributor (threads : ThreadMap) (linkId : Nat) : Option Nat :=
  (linkContributors threads linkId).getLast?.map Prod.fst

/-- Decay keeps the order of two contributions, unless the last contributor is one of
them: it does not fall behind one that it was not behind before, where the sum needs
no more than 32 bits, and it comes to exceed one that it did not exceed by less than
the number of contributors. -/
theorem decayIoCsLinkEvidenceToCurrent_order (threads : ThreadMap)
    (linkId linkCount currentBwX100 nowNs first second : Nat)
    (order : evidenceAt threads linkId first ≤ evidenceAt threads linkId second) :
    let after := (decayIoCsLinkEvidenceToCurrent threads linkId linkCount currentBwX100 nowNs).1
    (lastContributor threads linkId ≠ some first →
      (lastContributor threads linkId = some second → evidenceSum threads linkId ≤ u32Max) →
      evidenceAt after linkId first ≤ evidenceAt after linkId second) ∧
    (lastContributor threads linkId = some first →
      evidenceAt after linkId first <
        evidenceAt after linkId second + (linkContributors threads linkId).length) := by
  intro after
  cases decayIoCsLinkEvidenceToCurrent_scales threads linkId linkCount currentBwX100 nowNs with
  | inl unchanged =>
      have same : after = threads := congrArg Prod.fst unchanged.1
      rw [same]
      refine ⟨fun _ _ => order, fun isLast => ?_⟩
      have some : linkContributors threads linkId ≠ [] := by
        intro none
        rw [lastContributor, none] at isLast
        cases isLast
      have positive := List.length_pos_iff.mpr some
      omega
  | inr scaled =>
      obtain ⟨front, last, scales⟩ := scaled
      have lastOne : lastContributor threads linkId = some last.1 := by
        rw [lastContributor, scales.contributors, List.getLast?_concat]
        rfl
      have length : (linkContributors threads linkId).length = front.length + 1 := by
        rw [scales.contributors, List.length_append]
        rfl
      rw [lastOne, length]
      constructor
      · intro notFirst exact
        have firstOther : first ≠ last.1 := fun same => notFirst (congrArg some same.symm)
        rw [scales.others first firstOther]
        by_cases isSecond : second = last.1
        · rw [isSecond, scales.last_evidence.1] at order
          rw [isSecond]
          exact (floorShare_mono _ _ order).trans (scales.le_rest (exact (congrArg some isSecond.symm)))
        · rw [scales.others second isSecond]
          exact floorShare_mono _ _ order
      · intro isFirst
        obtain rfl : last.1 = first := Option.some.inj isFirst
        by_cases isSecond : second = last.1
        · rw [isSecond]
          omega
        · rw [scales.last_evidence.1] at order
          have share := floorShare_mono (planCsEvidenceCurrentLimitX100 currentBwX100)
            (beforeSumX100 threads linkId) order
          have bound : evidenceAt after linkId last.1 ≤ _ := scales.rest_le
          rw [scales.others second isSecond]
          omega

/-! Three threads with the least evidence there is, on a link that carries almost
nothing: what one of them keeps goes to the last. -/

def equalThreads : ThreadMap :=
  .ofList [(11, blamedThread 1), (12, blamedThread 1), (13, blamedThread 1)]

theorem decayIoCsLinkEvidenceToCurrent_order_equal :
    evidenceAt (decayIoCsLinkEvidenceToCurrent equalThreads 0 1 1 5).1 0 11 ≤
      evidenceAt (decayIoCsLinkEvidenceToCurrent equalThreads 0 1 1 5).1 0 13 :=
  (decayIoCsLinkEvidenceToCurrent_order equalThreads 0 1 1 5 11 13 (by decide +kernel)).1
    (by decide +kernel) (by decide +kernel)

theorem decayIoCsLinkEvidenceToCurrent_favours_last :
    ¬∀ (threads : ThreadMap) (linkId linkCount currentBwX100 nowNs first second : Nat),
      evidenceAt threads linkId first ≤ evidenceAt threads linkId second →
      evidenceAt (decayIoCsLinkEvidenceToCurrent threads linkId linkCount currentBwX100 nowNs).1
          linkId first ≤
        evidenceAt (decayIoCsLinkEvidenceToCurrent threads linkId linkCount currentBwX100 nowNs).1
          linkId second := by
  intro always
  have kept := always equalThreads 0 1 1 5 13 11 (by decide +kernel)
  exact absurd kept (by decide +kernel)

end CSwitch.Attribution
