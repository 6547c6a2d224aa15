import CSwitch.Attribution.SignatureUpdate
import CSwitch.Library.FoldPrefix
import CSwitch.Library.MovingAverage

/-! The fill shares of a signature. Each is averaged on its own, and one that is
zero takes the sample as it is; they stay shares of one whole as long as what a
sample puts in the place of zeros fits beside the other shares. -/

set_option autoImplicit false

namespace CSwitch.Attribution

open Library

/-! ## Runs -/

/-- An update of a signature, with everything it reads besides. -/
inductive SignatureUpdate where
  | state (snapshotSlot : Option DispatchSnapshot) (task : QueuedTask) (mapping : MappingInfo)
      (dfStates : List (Option CcmDfStateValue)) (nowNs staleMs : Nat) (kind : SignatureUpdateKind)
  | planCs (thread : ManagedThreadState) (linkId linkCount rawShareX100 : Nat) (linkDeltaX100 : Int)
      (nowNs : Nat)

namespace SignatureUpdate

def fillBw : SignatureUpdate → Vector Nat memSourceCount
  | state _ task _ _ _ _ _ => task.lastFillBwMibSX100
  | planCs thread _ _ _ _ _ => thread.lastFillBwMibSX100

/-- The update returns before it writes. -/
def ignored (signature : ThreadSignature) : SignatureUpdate → Bool
  | state snapshotSlot task mapping dfStates nowNs staleMs kind =>
      (linkSample signature snapshotSlot task mapping dfStates nowNs staleMs kind).isNone
  | planCs _ linkId _ rawShareX100 _ _ => planCsShareIgnored linkId rawShareX100

def apply (signature : ThreadSignature) : SignatureUpdate → ThreadSignature
  | state snapshotSlot task mapping dfStates nowNs staleMs kind =>
      (updateSignatureState signature snapshotSlot task mapping dfStates nowNs staleMs kind).1
  | planCs thread linkId linkCount rawShareX100 linkDeltaX100 nowNs =>
      (updatePlanCsThreadSignature { thread with ioCsSignature := signature } linkId linkCount
        rawShareX100 linkDeltaX100 nowNs).ioCsSignature

/-- The bandwidths are `u32` values. -/
def InRange (update : SignatureUpdate) : Prop := ∀ value ∈ update.fillBw.toList, value ≤ u32Max

instance (update : SignatureUpdate) : Decidable update.InRange :=
  inferInstanceAs (Decidable (∀ value ∈ update.fillBw.toList, value ≤ u32Max))

end SignatureUpdate

/-- A signature after a sequence of updates, from an empty one. -/
def signatureRun (updates : List SignatureUpdate) : ThreadSignature :=
  updates.foldl SignatureUpdate.apply {}

/-! ## Shares -/

def shareSum (shares : Vector Nat memSourceCount) : Nat := shares.toList.sum

/-- The shares with the sample in the place of zeros. -/
def filledShares (shares sample : Vector Nat memSourceCount) : List Nat :=
  List.zipWith (fun share value => if share = 0 then value else share) shares.toList sample.toList

/-- The zeros that a sample fills fit beside the other shares. -/
def SharesFit (signature : ThreadSignature) (update : SignatureUpdate) : Prop :=
  (filledShares signature.fillShareX100 (fillShareX100 update.fillBw)).sum ≤ 10000

instance (signature : ThreadSignature) (update : SignatureUpdate) :
    Decidable (SharesFit signature update) := Nat.decLe _ _

section Shares

variable {signature : ThreadSignature} {update : SignatureUpdate}

theorem apply_fillShareX100 :
    (update.apply signature).fillShareX100 =
      if update.ignored signature then signature.fillShareX100
      else signature.fillShareX100.zipWith ewmaU32 (fillShareX100 update.fillBw) := by
  cases update with
  | state snapshotSlot task mapping dfStates nowNs staleMs kind =>
      unfold SignatureUpdate.apply SignatureUpdate.ignored updateSignatureState
      cases found : linkSample signature snapshotSlot task mapping dfStates nowNs staleMs kind with
      | none =>
          simp only [found]
          rfl
      | some sample =>
          simp only [found]
          rfl
  | planCs thread linkId linkCount rawShareX100 linkDeltaX100 nowNs =>
      unfold SignatureUpdate.apply SignatureUpdate.ignored updatePlanCsThreadSignature
      dsimp only
      by_cases early : planCsShareIgnored linkId rawShareX100 = true
      · rw [if_pos early, if_pos early]
      · rw [if_neg early, if_neg early]
        rfl

/-- A zero share is filled first, and then averaged with the sample. -/
theorem ewmaU32_eq_average (previous sample : Nat) :
    ewmaU32 previous sample = average 3 (if previous = 0 then sample else previous) sample := by
  unfold ewmaU32
  split
  · rw [average_self]
  · rfl

theorem zipWith_ewmaU32 (shares sample : Vector Nat memSourceCount) :
    (shares.zipWith ewmaU32 sample).toList =
      List.zipWith (average 3) (filledShares shares sample) sample.toList := by
  rw [Vector.toList_zipWith, filledShares]
  generalize shares.toList = left
  generalize sample.toList = right
  induction left generalizing right with
  | nil => rfl
  | cons share left ih =>
      cases right with
      | nil => rfl
      | cons value right =>
          rw [List.zipWith_cons_cons, List.zipWith_cons_cons, List.zipWith_cons_cons,
            ewmaU32_eq_average, ih]

theorem length_filledShares (shares sample : Vector Nat memSourceCount) :
    (filledShares shares sample).length = memSourceCount := by
  simp [filledShares]

/-- What averaging does to the sum of the shares. -/
theorem shareSum_zipWith_bounds (shares sample : Vector Nat memSourceCount) :
    shareSum (shares.zipWith ewmaU32 sample) * 4 ≤
        (filledShares shares sample).sum * 3 + shareSum sample ∧
      (filledShares shares sample).sum * 3 + shareSum sample ≤
        shareSum (shares.zipWith ewmaU32 sample) * 4 + 9 := by
  have same : (filledShares shares sample).length = sample.toList.length := by
    rw [length_filledShares, Vector.length_toList]
  have bounds := sum_average_bounds 3 same
  rw [Vector.length_toList] at bounds
  unfold shareSum
  rw [zipWith_ewmaU32]
  exact bounds

/-! ## Samples -/

theorem foldl_satAdd64_eq_sum {values : List Nat} (few : values.length ≤ memSourceCount)
    (range : ∀ value ∈ values, value ≤ u32Max) : values.foldl satAdd64 0 = values.sum := by
  have total : values.sum ≤ memSourceCount * u32Max := by
    have each := List.sum_le_card_nsmul values u32Max range
    exact each.trans (Nat.mul_le_mul_right u32Max few)
  have small : memSourceCount * u32Max ≤ u64Max := by decide
  rw [foldl_satAdd64 values (Nat.zero_le _), Nat.zero_add]
  exact Nat.min_eq_left (total.trans small)

/-- The shares of a sample add up to nearly the whole, or to nothing. -/
theorem shareSum_fillShareX100 {fillBw : Vector Nat memSourceCount}
    (range : ∀ value ∈ fillBw.toList, value ≤ u32Max) :
    shareSum (fillShareX100 fillBw) ≤ 10000 ∧
      (0 < fillBw.toList.sum → 9997 < shareSum (fillShareX100 fillBw)) := by
  have length : fillBw.toList.length = memSourceCount := Vector.length_toList
  have total := foldl_satAdd64_eq_sum length.le range
  unfold fillShareX100
  rw [total]
  dsimp only
  split
  next silent =>
    constructor
    · decide
    · intro some
      exact absurd silent some.ne'
  next some =>
    have positive : 0 < fillBw.toList.sum := Nat.pos_of_ne_zero some
    have bounds := sum_shares_bounds 10000 fillBw.toList.sum positive fillBw.toList
    have cut : (fillBw.map fun value => min (value * 10000 / fillBw.toList.sum) u32Max).toList =
        fillBw.toList.map fun value => value * 10000 / fillBw.toList.sum := by
      rw [Vector.toList_map]
      refine List.map_congr_left fun value member => Nat.min_eq_left ?_
      apply Nat.div_le_of_le_mul
      have part : value ≤ fillBw.toList.sum := List.single_le_sum (by simp) value member
      unfold u32Max
      omega
    unfold shareSum
    rw [cut]
    rw [length] at bounds
    generalize (fillBw.toList.map fun value => value * 10000 / fillBw.toList.sum).sum = shares
      at bounds ⊢
    generalize fillBw.toList.sum = whole at bounds positive ⊢
    have three : memSourceCount = 3 := rfl
    rw [three] at bounds
    constructor
    · have scaled := bounds.1
      rw [Nat.mul_comm whole] at scaled
      exact Nat.le_of_mul_le_mul_right scaled positive
    · intro _
      by_contra few
      have scaled := Nat.mul_le_mul_right whole (Nat.not_lt.mp few)
      omega

/-! ## Steps -/

theorem apply_keeps_whole (range : update.InRange)
    (before : shareSum signature.fillShareX100 ≤ 10000)
    (fits : update.ignored signature = true ∨ SharesFit signature update) :
    shareSum (update.apply signature).fillShareX100 ≤ 10000 := by
  rw [apply_fillShareX100]
  split
  · exact before
  next records =>
    have filled : SharesFit signature update := fits.resolve_left records
    have sample := (shareSum_fillShareX100 range).1
    have averaged := (shareSum_zipWith_bounds signature.fillShareX100
      (fillShareX100 update.fillBw)).1
    unfold SharesFit at filled
    omega

/-- Where the filled shares exceed the whole by more than rounding takes off, the
update breaks it. -/
theorem apply_breaks_whole (range : update.InRange) (records : update.ignored signature = false)
    (some : 0 < update.fillBw.toList.sum)
    (exceeds : 10003 < (filledShares signature.fillShareX100 (fillShareX100 update.fillBw)).sum) :
    10000 < shareSum (update.apply signature).fillShareX100 := by
  rw [apply_fillShareX100, records, if_neg Bool.false_ne_true]
  have sample := (shareSum_fillShareX100 range).2 some
  have averaged := (shareSum_zipWith_bounds signature.fillShareX100
    (fillShareX100 update.fillBw)).2
  omega

end Shares

theorem signatureRun_append (updates : List SignatureUpdate) (update : SignatureUpdate) :
    signatureRun (updates ++ [update]) = update.apply (signatureRun updates) :=
  List.foldl_append

/-- As long as what a sample puts in the place of zeros fits beside the other
shares, the shares are shares of one whole after every update; an update in which
it does not fit, beyond rounding, breaks that. -/
theorem signatureRun_shareSum (updates : List SignatureUpdate)
    (range : ∀ update ∈ updates, update.InRange) :
    ((∀ (done : List SignatureUpdate) (update : SignatureUpdate), done ++ [update] <+: updates →
        update.ignored (signatureRun done) = true ∨ SharesFit (signatureRun done) update) →
      ∀ done, done <+: updates → shareSum (signatureRun done).fillShareX100 ≤ 10000) ∧
    ∀ (done : List SignatureUpdate) (update : SignatureUpdate), done ++ [update] <+: updates →
      update.ignored (signatureRun done) = false → 0 < update.fillBw.toList.sum →
      10003 < (filledShares (signatureRun done).fillShareX100
        (fillShareX100 update.fillBw)).sum →
      10000 < shareSum (signatureRun (done ++ [update])).fillShareX100 := by
  have inRange : ∀ (done : List SignatureUpdate) (update : SignatureUpdate),
      done ++ [update] <+: updates → update.InRange := by
    intro done update reached
    exact range update (reached.subset (List.mem_append_right done List.mem_cons_self))
  constructor
  · intro fits
    apply foldl_prefixes_invariant (fun signature => shareSum signature.fillShareX100 ≤ 10000)
      (fun signature update => update.ignored signature = true ∨ SharesFit signature update)
    · decide
    · intro done update reached before fits
      exact apply_keeps_whole (inRange done update reached) before fits
    · exact fits
  · intro done update reached records some exceeds
    rw [signatureRun_append]
    exact apply_breaks_whole (inRange done update reached) records some exceeds

/-! Two runs that fill from one source each. -/

def sourceTask (localCcx nearCache : Nat) : QueuedTask where
  tid := 10
  tgid := 10
  currentCpu := 0
  currentDomain := 0
  startTs := 1
  stopTs := 1000001
  lastFillBwMibSX100 := #v[localCcx, nearCache, 0]

def plainMapping : MappingInfo where
  domainToCcx := [0]
  domainToCcm := [none]
  domainToDfCapacityMibSX100 := []
  csLinkCapacityMibSX100 := []
  eligibleDomains := ∅
  excludedDomains := ∅
  eligibleCpus := ∅

def sourceUpdate (localCcx nearCache : Nat) : SignatureUpdate :=
  .state (some { validDomains := 1 }) (sourceTask localCcx nearCache) plainMapping [none] 2000000 100
    .placement

theorem signatureRun_shareSum_steady :
    shareSum (signatureRun [sourceUpdate 100 300, sourceUpdate 300 100]).fillShareX100 ≤ 10000 := by
  refine (signatureRun_shareSum [sourceUpdate 100 300, sourceUpdate 300 100]
    (by decide +kernel)).1 ?_ _ (List.prefix_refl _)
  apply forall_snoc_prefix_pair
  · exact .inr (by decide +kernel)
  · exact .inr (by decide +kernel)

/-- The second source jumps to the whole while the first keeps three quarters. -/
theorem signatureRun_exceeds :
    ¬∀ updates : List SignatureUpdate, (∀ update ∈ updates, update.InRange) →
      ∀ done, done <+: updates → shareSum (signatureRun done).fillShareX100 ≤ 10000 := by
  intro always
  have bounded := always [sourceUpdate 100 0, sourceUpdate 0 100] (by decide +kernel) _
    (List.prefix_refl _)
  exact absurd bounded (by decide +kernel)

end CSwitch.Attribution
