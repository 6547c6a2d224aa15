import CSwitch.Attribution.EvidenceDecay

/-! Attribution of one link. What the bandwidth of a link has changed since a plan
was armed is handed out over the threads whose own ingress changed the same way, in
proportion to how much it changed against its baseline. -/

set_option autoImplicit false

namespace CSwitch.Attribution

open Library
open Std (TreeMap)

def planCsAttributionMaxSweeps : Nat := 2
def planCsIngressRelativeWeightFloorX100 : Nat := 100000
def planCsIngressRelativeWeightScale : Nat := 10000
def planCsIngressRelativeWeightMinX10000 : Nat := 150

inductive PlanCsIngressSource where
  | dramNearFill
  | totalFill
  | l2
  deriving DecidableEq

structure PlanCsIngressWeight where
  tid : Nat
  weight : Nat
  ingressDeltaX100 : Int
  baselineX100 : Nat
  currentX100 : Nat
  relativeX10000 : Nat

def signedDeltaU32 (current baseline : Nat) : Int := (current : Int) - (baseline : Int)

def sameDeltaDirection (value reference : Int) : Bool :=
  (decide (reference > 0) && decide (value > 0)) || (decide (reference < 0) && decide (value < 0))

def totalFillBwX100 (fillBw : Vector Nat memSourceCount) : Nat := satSum32 fillBw.toList

def planCsIngressValues (baseline : PlanCsCandidateBaseline) (thread : ManagedThreadState) :
    PlanCsIngressSource → Nat × Nat
  | .dramNearFill =>
      (baseline.fillBwMibSX100.get memSourceDramNear,
        thread.lastFillBwMibSX100.get memSourceDramNear)
  | .totalFill =>
      (totalFillBwX100 baseline.fillBwMibSX100, totalFillBwX100 thread.lastFillBwMibSX100)
  | .l2 => (baseline.l2BwMibSX100, thread.lastL2BwMibSX100)

def planCsIngressDelta (baseline : PlanCsCandidateBaseline) (thread : ManagedThreadState)
    (source : PlanCsIngressSource) : Int :=
  let (baselineX100, currentX100) := planCsIngressValues baseline thread source
  signedDeltaU32 currentX100 baselineX100

def planCsRelativeIngressWeight (ingressDeltaX100 : Int) (baselineX100 : Nat) :
    Option (Nat × Nat) :=
  let deltaAbsX100 := ingressDeltaX100.natAbs
  if deltaAbsX100 = 0 then none
  else
    let denominator := max baselineX100 planCsIngressRelativeWeightFloorX100
    let relativeX10000 :=
      min (max (satMul64 deltaAbsX100 planCsIngressRelativeWeightScale / denominator) 1) u32Max
    if relativeX10000 < planCsIngressRelativeWeightMinX10000 then none
    else some (relativeX10000, relativeX10000)

def planCsIngressOrder : List PlanCsIngressSource := [.dramNearFill, .totalFill, .l2]

/-- The weight of one candidate, none when it does not take part. -/
def planCsIngressWeight (threads : ThreadMap) (linkDeltaX100 : Int) (activeCutoffNs : Nat)
    (source : PlanCsIngressSource) (tid : Nat) (baseline : PlanCsCandidateBaseline) :
    Option PlanCsIngressWeight :=
  match threads[tid]? with
  | none => none
  | some thread =>
      if thread.lastSeenNs < activeCutoffNs then none
      else
        let (baselineX100, currentX100) := planCsIngressValues baseline thread source
        let ingressDeltaX100 := planCsIngressDelta baseline thread source
        if !sameDeltaDirection ingressDeltaX100 linkDeltaX100 then none
        else
          (planCsRelativeIngressWeight ingressDeltaX100 baselineX100).map
            fun (weight, relativeX10000) =>
              { tid, weight, ingressDeltaX100, baselineX100, currentX100, relativeX10000 }

/-- The weights of the first source that has any. -/
def planCsIngressWeights (pending : PendingPlanCsAttribution) (threads : ThreadMap)
    (linkDeltaX100 : Int) (activeCutoffNs : Nat) :
    Option (PlanCsIngressSource × List PlanCsIngressWeight) :=
  planCsIngressOrder.findSome? fun source =>
    let weights := pending.candidates.toList.filterMap fun (tid, baseline) =>
      planCsIngressWeight threads linkDeltaX100 activeCutoffNs source tid baseline
    if weights.isEmpty then none else some (source, weights)

/-- The loop over the weights: every candidate with its share. -/
def planCsShares (deltaAbsX100 totalWeight : Nat) :
    List PlanCsIngressWeight → Nat → Nat → List (Nat × Nat)
  | [], _, _ => []
  | weight :: rest, remainingDelta, remainingWeight =>
      let share := min
        (if rest.isEmpty || decide (remainingWeight ≤ weight.weight) then remainingDelta
          else deltaAbsX100 * weight.weight / totalWeight) u32Max
      (weight.tid, share) ::
        planCsShares deltaAbsX100 totalWeight rest (remainingDelta - share)
          (remainingWeight - weight.weight)

/-- One candidate takes its share; nothing happens for a share of zero. -/
def applyPlanCsShare (linkId linkCount : Nat) (linkDeltaX100 : Int) (nowNs : Nat)
    (threads : ThreadMap) (candidate : Nat × Nat) : ThreadMap :=
  let (tid, share) := candidate
  if share = 0 then threads
  else
    match threads[tid]? with
    | none => threads
    | some thread =>
        threads.insert tid
          (updatePlanCsThreadSignature thread linkId linkCount share linkDeltaX100 nowNs)

def distributePlanCsShares (linkId linkCount : Nat) (linkDeltaX100 : Int) (nowNs : Nat)
    (threads : ThreadMap) (shares : List (Nat × Nat)) : ThreadMap :=
  shares.foldl (applyPlanCsShare linkId linkCount linkDeltaX100 nowNs) threads

/-- A link with a sample after the one of its baseline. -/
structure FreshPlanCsLink where
  linkId : Nat
  baseline : PlanCsLinkBaseline
  current : CcmDfStateValue

def FreshPlanCsLink.deltaX100 (fresh : FreshPlanCsLink) : Int :=
  signedDeltaU32 (csLinkBwX100 fresh.current) fresh.baseline.bwX100

/-- The `action` that the log line of a link tells. -/
inductive PlanCsLinkAction where
  | skipZeroCsDelta
  | skipNoIngressDelta
  | decay (decayed : PlanCsEvidenceDecay)
  | apply (source : PlanCsIngressSource) (shares : List (Nat × Nat))

structure PlanCsLinkOutcome where
  threads : ThreadMap
  action : PlanCsLinkAction

/-- Where nobody can take the change, a link that carries less decays. -/
def decayUnattributed (threads : ThreadMap) (linkCount nowNs : Nat) (fresh : FreshPlanCsLink) :
    PlanCsLinkOutcome :=
  if fresh.deltaX100 < 0 then
    match decayIoCsLinkEvidenceToCurrent threads fresh.linkId linkCount
        (csLinkBwX100 fresh.current) nowNs with
    | (threads, some decayed) => { threads, action := .decay decayed }
    | (threads, none) => { threads, action := .skipNoIngressDelta }
  else { threads, action := .skipNoIngressDelta }

/-- One turn of the loop over the fresh links. -/
def applyPlanCsLink (pending : PendingPlanCsAttribution) (threads : ThreadMap)
    (linkCount activeCutoffNs nowNs : Nat) (fresh : FreshPlanCsLink) : PlanCsLinkOutcome :=
  let linkDeltaX100 := fresh.deltaX100
  if linkDeltaX100 = 0 then { threads, action := .skipZeroCsDelta }
  else
    match planCsIngressWeights pending threads linkDeltaX100 activeCutoffNs with
    | none => decayUnattributed threads linkCount nowNs fresh
    | some (source, weights) =>
        let deltaAbsX100 := min linkDeltaX100.natAbs u32Max
        let totalWeight := (weights.map (·.weight)).foldl satAdd64 0
        if totalWeight = 0 then decayUnattributed threads linkCount nowNs fresh
        else
          let shares := planCsShares deltaAbsX100 totalWeight weights deltaAbsX100 totalWeight
          let distributed :=
            distributePlanCsShares fresh.linkId linkCount linkDeltaX100 nowNs threads shares
          { threads :=
              if linkDeltaX100 < 0 then
                (decayIoCsLinkEvidenceToCurrent distributed fresh.linkId linkCount
                  (csLinkBwX100 fresh.current) nowNs).1
              else distributed
            action := .apply source shares }

/-! ## Weights -/

/-- A weight belongs to a candidate whose ingress from the source changed the way the
link did. -/
structure IngressWeight (pending : PendingPlanCsAttribution) (threads : ThreadMap)
    (linkDeltaX100 : Int) (source : PlanCsIngressSource) (weight : PlanCsIngressWeight) : Prop where
  candidate : ∃ baseline thread, pending.candidates[weight.tid]? = some baseline ∧
    threads[weight.tid]? = some thread ∧
    sameDeltaDirection (planCsIngressDelta baseline thread source) linkDeltaX100 = true
  positive : 0 < weight.weight
  range : weight.weight ≤ u32Max

section Weights

variable {pending : PendingPlanCsAttribution} {threads : ThreadMap} {linkDeltaX100 : Int}
  {activeCutoffNs : Nat} {source : PlanCsIngressSource} {weights : List PlanCsIngressWeight}

theorem planCsRelativeIngressWeight_range {ingressDeltaX100 : Int}
    {baselineX100 weight relativeX10000 : Nat}
    (weighed : planCsRelativeIngressWeight ingressDeltaX100 baselineX100 =
      some (weight, relativeX10000)) : 0 < weight ∧ weight ≤ u32Max := by
  unfold planCsRelativeIngressWeight planCsIngressRelativeWeightMinX10000 at weighed
  dsimp only at weighed
  split at weighed
  · cases weighed
  · split at weighed
    · cases weighed
    · cases weighed
      omega

theorem planCsIngressWeight_some {tid : Nat} {baseline : PlanCsCandidateBaseline}
    {weight : PlanCsIngressWeight}
    (weighed : planCsIngressWeight threads linkDeltaX100 activeCutoffNs source tid baseline =
      some weight) :
    weight.tid = tid ∧ (0 < weight.weight ∧ weight.weight ≤ u32Max) ∧
      ∃ thread, threads[tid]? = some thread ∧
        sameDeltaDirection (planCsIngressDelta baseline thread source) linkDeltaX100 = true := by
  unfold planCsIngressWeight at weighed
  cases found : threads[tid]? with
  | none =>
      rw [found] at weighed
      cases weighed
  | some thread =>
      rw [found] at weighed
      dsimp only at weighed
      split at weighed
      · cases weighed
      · split at weighed
        · cases weighed
        · next direction =>
            obtain ⟨⟨value, relative⟩, valued, rfl⟩ := Option.map_eq_some_iff.mp weighed
            refine ⟨rfl, planCsRelativeIngressWeight_range valued, thread, rfl, ?_⟩
            simpa using direction

/-- The weights of the candidates, one for each at most. -/
theorem planCsIngressWeights_some
    (weighed : planCsIngressWeights pending threads linkDeltaX100 activeCutoffNs =
      some (source, weights)) :
    weights ≠ [] ∧ (weights.map (·.tid)).Nodup ∧
      ∀ weight ∈ weights, IngressWeight pending threads linkDeltaX100 source weight := by
  obtain ⟨_, other, _, _, first, _⟩ := List.findSome?_eq_some_iff.mp weighed
  dsimp only at first
  split at first
  · cases first
  · next someWeight =>
      cases first
      refine ⟨fun none => someWeight (List.isEmpty_iff.mpr none), ?_, ?_⟩
      · rw [List.Nodup, List.pairwise_map]
        refine List.Pairwise.filterMap _ ?_ TreeMap.distinct_keys_toList
        intro left right distinct leftWeight leftWeighed rightWeight rightWeighed same
        rw [(planCsIngressWeight_some leftWeighed).1, (planCsIngressWeight_some rightWeighed).1]
          at same
        exact distinct (Std.compare_eq_iff_eq.mpr same)
      · intro weight member
        obtain ⟨entry, listed, found⟩ := List.mem_filterMap.mp member
        obtain ⟨same, ⟨positive, range⟩, thread, present, direction⟩ :=
          planCsIngressWeight_some found
        have candidate := TreeMap.mem_toList_iff_getElem?_eq_some.mp listed
        exact ⟨⟨entry.2, thread, same ▸ candidate, same ▸ present, direction⟩, positive, range⟩

end Weights

/-! ## Shares -/

/-- Threads with tids of 32 bits are few enough for their weights to fit 64 bits. -/
theorem totalWeight_exact {weights : List PlanCsIngressWeight}
    (once : (weights.map (·.tid)).Nodup) (tids : ∀ weight ∈ weights, weight.tid ≤ u32Max)
    (range : ∀ weight ∈ weights, weight.weight ≤ u32Max) :
    (weights.map (·.weight)).foldl satAdd64 0 = (weights.map (·.weight)).sum := by
  have few : weights.length ≤ u32Max + 1 := by
    have inside : (weights.map (·.tid)).toFinset ⊆ Finset.range (u32Max + 1) := by
      intro tid member
      obtain ⟨weight, listed, rfl⟩ := List.mem_map.mp (List.mem_toFinset.mp member)
      exact Finset.mem_range.mpr (Nat.lt_succ_of_le (tids weight listed))
    have count := Finset.card_le_card inside
    rw [List.toFinset_card_of_nodup once, List.length_map, Finset.card_range] at count
    exact count
  have bounded : (weights.map (·.weight)).sum ≤ weights.length * u32Max := by
    have each := List.sum_le_card_nsmul (weights.map (·.weight)) u32Max ?_
    · rw [List.length_map] at each
      exact each
    · intro value member
      obtain ⟨weight, listed, rfl⟩ := List.mem_map.mp member
      exact range weight listed
  have product : weights.length * u32Max ≤ (u32Max + 1) * u32Max := Nat.mul_le_mul_right _ few
  rw [foldl_satAdd64 _ (Nat.zero_le _), Nat.zero_add]
  apply Nat.min_eq_left
  unfold u32Max u64Max at *
  omega

/-- The early remainder is never taken before the last candidate: the weights that
are left exceed every one of them. -/
theorem planCsShares_concat {deltaAbsX100 totalWeight : Nat} (range : deltaAbsX100 ≤ u32Max)
    (front : List PlanCsIngressWeight) (last : PlanCsIngressWeight) (remainingDelta : Nat)
    (remaining : remainingDelta ≤ u32Max)
    (positive : ∀ weight ∈ front ++ [last], 0 < weight.weight)
    (within : ∀ weight ∈ front ++ [last], weight.weight ≤ totalWeight) :
    planCsShares deltaAbsX100 totalWeight (front ++ [last]) remainingDelta
        ((front ++ [last]).map (·.weight)).sum =
      (front.map fun weight =>
          (weight.tid, floorShare deltaAbsX100 totalWeight weight.weight)) ++
        [(last.tid, remainingDelta -
          (front.map fun weight => floorShare deltaAbsX100 totalWeight weight.weight).sum)] := by
  induction front generalizing remainingDelta with
  | nil =>
      simp only [List.nil_append, planCsShares, List.isEmpty_nil, Bool.true_or, if_true,
        List.map_nil, List.sum_nil, Nat.sub_zero, Nat.min_eq_left remaining]
  | cons weight rest ih =>
      have lastPositive := positive last (List.mem_append_right _ List.mem_cons_self)
      have more : (rest ++ [last]).isEmpty = false := by simp
      have behind : last.weight ≤ ((rest ++ [last]).map (·.weight)).sum := by simp
      have less : ¬(weight.weight + ((rest ++ [last]).map (·.weight)).sum ≤ weight.weight) := by
        omega
      have own := within weight List.mem_cons_self
      have share : floorShare deltaAbsX100 totalWeight weight.weight ≤ u32Max := by
        apply le_trans ?_ range
        apply Nat.div_le_of_le_mul
        exact Nat.mul_le_mul_right deltaAbsX100 own
      have next := ih (remainingDelta - floorShare deltaAbsX100 totalWeight weight.weight)
        (by omega) (fun other member => positive other (List.mem_cons_of_mem _ member))
        (fun other member => within other (List.mem_cons_of_mem _ member))
      have taken : min (if (rest ++ [last]).isEmpty || decide (weight.weight +
            ((rest ++ [last]).map (·.weight)).sum ≤ weight.weight) then remainingDelta
          else deltaAbsX100 * weight.weight / totalWeight) u32Max =
          floorShare deltaAbsX100 totalWeight weight.weight := by
        rw [more, decide_eq_false less, Bool.or_self, if_neg Bool.false_ne_true,
          Nat.mul_comm deltaAbsX100]
        exact Nat.min_eq_left share
      rw [List.cons_append, planCsShares, List.map_cons, List.sum_cons, taken,
        Nat.add_sub_cancel_left, next, List.map_cons, List.map_cons, List.sum_cons,
        List.cons_append, Nat.sub_sub]

/-- The share of a candidate differs from its exact proportional share by less than
the number of candidates. -/
structure ProportionalShare (deltaAbsX100 totalWeight candidates : Nat) (share : Nat × Nat)
    (weight : PlanCsIngressWeight) : Prop where
  tid : share.1 = weight.tid
  below : share.2 * totalWeight <
    deltaAbsX100 * weight.weight + candidates * totalWeight
  above : deltaAbsX100 * weight.weight <
    share.2 * totalWeight + candidates * totalWeight

theorem proportionalShare_floor (deltaAbsX100 : Nat) {totalWeight candidates : Nat}
    (positive : 0 < totalWeight) (some : 0 < candidates) (weight : PlanCsIngressWeight) :
    ProportionalShare deltaAbsX100 totalWeight candidates
      (weight.tid, floorShare deltaAbsX100 totalWeight weight.weight) weight := by
  have split := Nat.div_add_mod (weight.weight * deltaAbsX100) totalWeight
  have rest := Nat.mod_lt (weight.weight * deltaAbsX100) positive
  have room : totalWeight ≤ candidates * totalWeight := Nat.le_mul_of_pos_left _ some
  rw [Nat.mul_comm totalWeight, Nat.mul_comm weight.weight] at split
  rw [Nat.mul_comm weight.weight] at rest
  unfold floorShare
  rw [Nat.mul_comm weight.weight]
  refine ⟨rfl, ?_, ?_⟩
  · dsimp only
    rw [Nat.mul_comm _ totalWeight] at split ⊢
    omega
  · dsimp only
    omega

theorem proportionalShare_leftOver (deltaAbsX100 : Nat) {totalWeight : Nat} (positive : 0 < totalWeight)
    {weights : List Nat} {last : PlanCsIngressWeight}
    (whole : weights.sum + last.weight = totalWeight) :
    ProportionalShare deltaAbsX100 totalWeight (weights.length + 1)
      (last.tid, leftOver deltaAbsX100 totalWeight weights) last := by
  have lower := mul_le_leftOver_mul deltaAbsX100 positive whole.le
  have upper := leftOver_mul_le deltaAbsX100 positive whole.ge
  have fewer : weights.length * (totalWeight - 1) ≤ weights.length * totalWeight :=
    Nat.mul_le_mul_left _ (Nat.sub_le totalWeight 1)
  rw [Nat.mul_comm last.weight] at lower upper
  refine ⟨rfl, ?_, ?_⟩
  · dsimp only
    rw [Nat.add_mul, Nat.one_mul]
    omega
  · dsimp only
    rw [Nat.add_mul, Nat.one_mul]
    omega

theorem proportional_tids {deltaAbsX100 totalWeight candidates : Nat} {shares : List (Nat × Nat)}
    {weights : List PlanCsIngressWeight}
    (proportional : List.Forall₂ (ProportionalShare deltaAbsX100 totalWeight candidates) shares
      weights) : shares.map Prod.fst = weights.map (·.tid) := by
  induction proportional with
  | nil => rfl
  | cons head _ ih => rw [List.map_cons, List.map_cons, ih, head.tid]

/-- The shares add up to the whole change, and each is close to its exact share. -/
theorem planCsShares_spec {deltaAbsX100 totalWeight : Nat} {weights : List PlanCsIngressWeight}
    (range : deltaAbsX100 ≤ u32Max) (nonempty : weights ≠ [])
    (positive : ∀ weight ∈ weights, 0 < weight.weight)
    (whole : (weights.map (·.weight)).sum = totalWeight) :
    ((planCsShares deltaAbsX100 totalWeight weights deltaAbsX100 totalWeight).map Prod.snd).sum =
        deltaAbsX100 ∧
      List.Forall₂ (ProportionalShare deltaAbsX100 totalWeight weights.length)
        (planCsShares deltaAbsX100 totalWeight weights deltaAbsX100 totalWeight) weights := by
  rcases List.eq_nil_or_concat weights with none | ⟨front, last, split⟩
  · exact absurd none nonempty
  · rw [List.concat_eq_append] at split
    subst split
    have within : ∀ weight ∈ front ++ [last], weight.weight ≤ totalWeight := by
      intro weight member
      rw [← whole]
      exact List.single_le_sum (fun _ _ => Nat.zero_le _) _ (List.mem_map_of_mem member)
    have total : (front.map (·.weight)).sum + last.weight = totalWeight := by
      rw [← whole, List.map_append, List.sum_append, List.map_singleton, List.sum_singleton]
    have some : 0 < totalWeight := by
      have lastPositive := positive last (List.mem_append_right _ List.mem_cons_self)
      omega
    have shares := planCsShares_concat range front last deltaAbsX100 range positive within
    rw [whole] at shares
    have rest : deltaAbsX100 -
        (front.map fun weight => floorShare deltaAbsX100 totalWeight weight.weight).sum =
          leftOver deltaAbsX100 totalWeight (front.map (·.weight)) := by
      rw [leftOver, List.map_map]
      rfl
    rw [shares, rest]
    constructor
    · have within : (front.map (·.weight)).sum ≤ totalWeight := by omega
      have parts := sum_floorShare_add_leftOver deltaAbsX100 some within
      rw [List.map_append, List.sum_append, List.map_map, List.map_singleton, List.sum_singleton]
      rw [List.map_map] at parts
      exact parts
    · rw [List.length_append, List.length_singleton]
      refine List.rel_append ?_ (.cons ?_ .nil)
      · rw [List.forall₂_map_left_iff]
        exact List.forall₂_same.mpr fun weight _ =>
          proportionalShare_floor deltaAbsX100 some (Nat.succ_pos _) weight
      · have own := proportionalShare_leftOver deltaAbsX100 some total
        rw [List.length_map] at own
        exact own

/-! ## Distribution -/

section Distribution

variable {threads : ThreadMap} {linkId linkCount nowNs : Nat} {linkDeltaX100 : Int}
  {shares : List (Nat × Nat)}

theorem pointWrite_applyPlanCsShare (linkId linkCount : Nat) (linkDeltaX100 : Int) (nowNs : Nat) :
    PointWrite (fun share thread =>
        updatePlanCsThreadSignature thread linkId linkCount share linkDeltaX100 nowNs)
      (applyPlanCsShare linkId linkCount linkDeltaX100 nowNs) where
  own threads candidate := by
    unfold applyPlanCsShare
    dsimp only
    split
    · next none =>
        cases threads[candidate.1]? with
        | none => rfl
        | some thread =>
            rw [Option.map_some, updatePlanCsThreadSignature, none]
            rfl
    · cases found : threads[candidate.1]? with
      | none => exact found
      | some thread => exact TreeMap.getElem?_insert_self
  frame threads candidate other apart := by
    unfold applyPlanCsShare
    dsimp only
    split
    · rfl
    · cases threads[candidate.1]? with
      | none => rfl
      | some thread =>
          dsimp only
          rw [TreeMap.getElem?_insert]
          exact if_neg fun same => apart (Std.compare_eq_iff_eq.mp same)

/-- What a distribution does: the candidates take their shares. -/
structure Distributes (pending : PendingPlanCsAttribution) (threads distributed : ThreadMap)
    (linkId linkCount : Nat) (linkDeltaX100 : Int) (nowNs : Nat) (source : PlanCsIngressSource)
    (shares : List (Nat × Nat)) : Prop where
  whole : (shares.map Prod.snd).sum = linkDeltaX100.natAbs
  candidates : ∀ tid share, (tid, share) ∈ shares → ∃ baseline thread,
    pending.candidates[tid]? = some baseline ∧ threads[tid]? = some thread ∧
      sameDeltaDirection (planCsIngressDelta baseline thread source) linkDeltaX100 = true ∧
      distributed[tid]? = some
        (updatePlanCsThreadSignature thread linkId linkCount share linkDeltaX100 nowNs)
  others : ∀ tid ∉ shares.map Prod.fst, distributed[tid]? = threads[tid]?

theorem FreshPlanCsLink.natAbs_deltaX100_le {fresh : FreshPlanCsLink}
    (range : fresh.baseline.bwX100 ≤ u32Max) : fresh.deltaX100.natAbs ≤ u32Max := by
  have currentRange : csLinkBwX100 fresh.current ≤ u32Max := Nat.min_le_right _ _
  unfold FreshPlanCsLink.deltaX100 signedDeltaU32
  omega

variable {pending : PendingPlanCsAttribution} {activeCutoffNs : Nat} {fresh : FreshPlanCsLink}
  {source : PlanCsIngressSource} {weights : List PlanCsIngressWeight}

/-- The candidates of a link that changed take the shares of their weights. -/
theorem applyPlanCsLink_apply (linkCount nowNs : Nat) (changed : fresh.deltaX100 ≠ 0)
    (range : fresh.deltaX100.natAbs ≤ u32Max)
    (weighed : planCsIngressWeights pending threads fresh.deltaX100 activeCutoffNs =
      some (source, weights))
    (exact : (weights.map (·.weight)).foldl satAdd64 0 = (weights.map (·.weight)).sum)
    (some : 0 < (weights.map (·.weight)).sum) :
    let shares := planCsShares fresh.deltaX100.natAbs (weights.map (·.weight)).sum weights
      fresh.deltaX100.natAbs (weights.map (·.weight)).sum
    let distributed :=
      distributePlanCsShares fresh.linkId linkCount fresh.deltaX100 nowNs threads shares
    applyPlanCsLink pending threads linkCount activeCutoffNs nowNs fresh =
      { threads :=
          if fresh.deltaX100 < 0 then
            (decayIoCsLinkEvidenceToCurrent distributed fresh.linkId linkCount
              (csLinkBwX100 fresh.current) nowNs).1
          else distributed
        action := .apply source shares } := by
  unfold applyPlanCsLink
  dsimp only
  rw [if_neg changed, weighed]
  dsimp only
  rw [exact, if_neg some.ne', Nat.min_eq_left range]

/-- Shares that are paired with the weights of candidates are distributed to them. -/
theorem distributePlanCsShares_distributes (linkId linkCount nowNs : Nat)
    (weight : ∀ weight ∈ weights, IngressWeight pending threads linkDeltaX100 source weight)
    (tids : shares.map Prod.fst = weights.map (·.tid)) (once : (weights.map (·.tid)).Nodup)
    (whole : (shares.map Prod.snd).sum = linkDeltaX100.natAbs) :
    Distributes pending threads
      (distributePlanCsShares linkId linkCount linkDeltaX100 nowNs threads shares) linkId linkCount
      linkDeltaX100 nowNs source shares := by
  have writes := pointWrite_applyPlanCsShare linkId linkCount linkDeltaX100 nowNs
  refine { whole, candidates := ?_, others := ?_ }
  · intro tid share member
    have listed : tid ∈ weights.map (·.tid) := tids ▸ List.mem_map_of_mem member
    obtain ⟨candidate, isCandidate, rfl⟩ := List.mem_map.mp listed
    obtain ⟨baseline, thread, found, present, direction⟩ := (weight candidate isCandidate).candidate
    refine ⟨baseline, thread, found, present, direction, ?_⟩
    exact (writes.foldl_of_mem (tids ▸ once) member).trans (by rw [present]; rfl)
  · intro tid absent
    exact writes.foldl_of_not_mem absent

end Distribution

/-- For a link that changed and for which some candidate is found, the shares add up
to the change exactly, each is within the number of candidates of its exact share,
they go to candidates whose ingress changed in the direction of the link, and the
distribution changes no other thread. -/
theorem applyPlanCsLink_conserves (pending : PendingPlanCsAttribution) (threads : ThreadMap)
    (linkCount activeCutoffNs nowNs : Nat) (fresh : FreshPlanCsLink)
    (tids : ∀ tid ∈ pending.candidates, tid ≤ u32Max)
    (range : fresh.baseline.bwX100 ≤ u32Max) (changed : fresh.deltaX100 ≠ 0)
    (source : PlanCsIngressSource) (weights : List PlanCsIngressWeight)
    (weighed : planCsIngressWeights pending threads fresh.deltaX100 activeCutoffNs =
      some (source, weights)) :
    ∃ shares distributed,
      (applyPlanCsLink pending threads linkCount activeCutoffNs nowNs fresh).action =
          .apply source shares ∧
        (applyPlanCsLink pending threads linkCount activeCutoffNs nowNs fresh).threads =
          (if fresh.deltaX100 < 0 then
            (decayIoCsLinkEvidenceToCurrent distributed fresh.linkId linkCount
              (csLinkBwX100 fresh.current) nowNs).1
          else distributed) ∧
        Distributes pending threads distributed fresh.linkId linkCount fresh.deltaX100 nowNs source
          shares ∧
        List.Forall₂ (ProportionalShare fresh.deltaX100.natAbs (weights.map (·.weight)).sum
          weights.length) shares weights := by
  obtain ⟨nonempty, once, weight⟩ := planCsIngressWeights_some weighed
  have deltaRange := FreshPlanCsLink.natAbs_deltaX100_le range
  have inRange : ∀ candidate ∈ weights, candidate.tid ≤ u32Max := by
    intro candidate member
    obtain ⟨baseline, thread, found, _⟩ := (weight candidate member).candidate
    exact tids _ (TreeMap.mem_iff_isSome_getElem?.mpr (by rw [found]; rfl))
  have exact := totalWeight_exact once inRange fun candidate member => (weight candidate member).range
  have positive := fun candidate member => (weight candidate member).positive
  obtain ⟨whole, proportional⟩ := planCsShares_spec deltaRange nonempty positive rfl
  have some : 0 < (weights.map (·.weight)).sum := by
    obtain ⟨first, rest, rfl⟩ := List.exists_cons_of_ne_nil nonempty
    have firstPositive := positive first List.mem_cons_self
    rw [List.map_cons, List.sum_cons]
    omega
  rw [applyPlanCsLink_apply linkCount nowNs changed deltaRange weighed exact some]
  exact ⟨_, _, rfl, rfl, distributePlanCsShares_distributes fresh.linkId linkCount nowNs weight
    (proportional_tids proportional) once whole, proportional⟩

/-! A link rises by 300.00 MiB/s, and so does what two threads fill from it. -/

def filledThread (dramNearX100 : Nat) : ManagedThreadState where
  lastSeenNs := 5
  lastFillBwMibSX100 := (Vector.replicate memSourceCount 0).set memSourceDramNear dramNearX100

def twoFilled : ThreadMap := .ofList [(11, filledThread 200000), (12, filledThread 100000)]

def idleBaseline : PlanCsCandidateBaseline where
  fillBwMibSX100 := Vector.replicate memSourceCount 0
  l2BwMibSX100 := 0

def twoPending : PendingPlanCsAttribution where
  plannerEpoch := 1
  planRevision := 1
  armedAtNs := 1
  linkCount := 1
  linkBaselines := (Vector.replicate maxDomains none).set 0 (some { bwX100 := 0, sampleTsNs := 1 })
  appliedLinks := Vector.replicate maxDomains false
  candidates := .ofList [(11, idleBaseline), (12, idleBaseline)]

def risenLink : FreshPlanCsLink where
  linkId := 0
  baseline := { bwX100 := 0, sampleTsNs := 1 }
  current := { sampleTsNs := 2, rawReadBwMibSX100 := 30000, valid := 1 }

theorem applyPlanCsLink_conserves_two :
    ∃ source shares, (applyPlanCsLink twoPending twoFilled 1 0 5 risenLink).action =
        .apply source shares ∧ (shares.map Prod.snd).sum = 30000 := by
  have tids : ∀ tid ∈ twoPending.candidates, tid ≤ u32Max := by
    intro tid member
    have listed : tid ∈ twoPending.candidates.keys := TreeMap.mem_keys.mpr member
    have keys : twoPending.candidates.keys = [11, 12] := by decide +kernel
    rw [keys] at listed
    cases listed with
    | head => decide
    | tail _ listed =>
        cases listed with
        | head => decide
        | tail _ listed => cases listed
  have found : (planCsIngressWeights twoPending twoFilled risenLink.deltaX100 0).isSome = true := by
    decide +kernel
  obtain ⟨⟨source, weights⟩, weighed⟩ := Option.isSome_iff_exists.mp found
  obtain ⟨shares, _, applied, _, distributes, _⟩ := applyPlanCsLink_conserves twoPending twoFilled
    1 0 5 risenLink tids (by decide) (by decide +kernel) source weights weighed
  exact ⟨source, shares, applied, distributes.whole⟩

end CSwitch.Attribution
