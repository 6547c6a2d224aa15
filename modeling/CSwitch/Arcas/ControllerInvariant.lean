import CSwitch.Arcas.ActiveDomains

/-! What holds of the ARCAS controller after every call: the spread stays in its
bounds and between two samples only follows the capacity floor, the active
domains fit the spread, and ranks and targets belong to the pending threads. -/

set_option autoImplicit false

namespace CSwitch.Arcas

open Std (TreeMap TreeSet)
open Policy Library

def ArcasConfig.effectiveMinDomains (cfg : ArcasConfig) (eligibleLen : Nat) : Nat :=
  min (max cfg.minDomains 1) (cfg.effectiveMaxDomains eligibleLen)

/-! ## Ranks -/

/-- Ranks that are not saturated are given once, in order. -/
structure RanksApart (controller : ArcasController) : Prop where
  below : ∀ tid rank : Nat, controller.rankByTid[tid]? = some rank → rank < usizeMax →
    rank < controller.nextRank
  apart : ∀ left right rank : Nat, controller.rankByTid[left]? = some rank →
    controller.rankByTid[right]? = some rank → rank < usizeMax → left = right

section Ranks

variable {controller : ArcasController} {tid : Nat}

theorem getElem?_rankThread (other : Nat) :
    (controller.rankThread tid).rankByTid[other]? =
      if other = tid ∧ tid ∉ controller.rankByTid then some controller.nextRank
      else controller.rankByTid[other]? := by
  unfold ArcasController.rankThread
  split
  next known =>
    have member : tid ∈ controller.rankByTid := known
    rw [if_neg fun both => both.2 member]
  next fresh =>
    have missing : tid ∉ controller.rankByTid := fresh
    rw [TreeMap.getElem?_insert]
    by_cases same : tid = other
    · simp [same ▸ missing, same]
    · simp [same, Ne.symm same]

theorem mem_rankThread (other : Nat) :
    other ∈ (controller.rankThread tid).rankByTid ↔
      other = tid ∨ other ∈ controller.rankByTid := by
  rw [TreeMap.mem_iff_isSome_getElem?, getElem?_rankThread]
  split
  next new => exact iff_of_true rfl (.inl new.1)
  next old =>
    rw [← TreeMap.mem_iff_isSome_getElem?]
    constructor
    · exact .inr
    · intro either
      rcases either with rfl | known
      · by_contra missing
        exact old ⟨rfl, missing⟩
      · exact known

theorem RanksApart.rankThread (ranks : RanksApart controller) :
    RanksApart (controller.rankThread tid) := by
  by_cases known : tid ∈ controller.rankByTid
  · have same : controller.rankThread tid = controller := if_pos known
    rw [same]
    exact ranks
  · have next : (controller.rankThread tid).nextRank = satAdd64 controller.nextRank 1 := by
      unfold ArcasController.rankThread
      rw [if_neg (show ¬controller.rankByTid.contains tid = true from known)]
    constructor
    · intro other rank found short
      rw [getElem?_rankThread] at found
      rw [next]
      split at found
      · obtain rfl := Option.some.inj found
        unfold satAdd64
        unfold usizeMax at short
        omega
      · have before := ranks.below other rank found short
        unfold satAdd64
        unfold usizeMax at short
        omega
    · intro left right rank leftFound rightFound short
      rw [getElem?_rankThread] at leftFound rightFound
      split at leftFound
      next newLeft =>
        obtain rfl := Option.some.inj leftFound
        split at rightFound
        next newRight => exact newLeft.1.trans newRight.1.symm
        · exact absurd (ranks.below right _ rightFound short) (Nat.lt_irrefl _)
      next oldLeft =>
        split at rightFound
        next newRight =>
          obtain rfl := Option.some.inj rightFound
          exact absurd (ranks.below left _ leftFound short) (Nat.lt_irrefl _)
        · exact ranks.apart left right rank leftFound rightFound short

theorem RanksApart.retain (ranks : RanksApart controller) (allowedCpusByTid : CpuSetMap) :
    RanksApart (controller.retain allowedCpusByTid) := by
  have kept : ∀ tid rank : Nat, (controller.retain allowedCpusByTid).rankByTid[tid]? = some rank →
      controller.rankByTid[tid]? = some rank := by
    intro tid rank found
    unfold ArcasController.retain at found
    rw [getElem?_retained] at found
    split at found
    · exact found
    · cases found
  constructor
  · intro tid rank found short
    exact ranks.below tid rank (kept tid rank found) short
  · intro left right rank leftFound rightFound short
    exact ranks.apart left right rank (kept left rank leftFound) (kept right rank rightFound) short

/-- The threads that are pending now have their ranks, old or new. -/
structure RankedFor (before : ArcasController) (tids : List Nat) (after : ArcasController) : Prop where
  mem : ∀ tid, tid ∈ after.rankByTid ↔ tid ∈ tids ∨ tid ∈ before.rankByTid
  kept : ∀ tid rank : Nat, before.rankByTid[tid]? = some rank → after.rankByTid[tid]? = some rank
  apart : RanksApart before → RanksApart after

theorem rankThreads_ranked (before : ArcasController) (tids : List Nat) :
    RankedFor before tids (tids.foldl .rankThread before) := by
  induction tids using List.reverseRecOn with
  | nil => exact ⟨by simp, fun _ _ found => found, fun ranks => ranks⟩
  | append_singleton tids tid ih =>
      rw [List.foldl_append, List.foldl_cons, List.foldl_nil]
      constructor
      · intro other
        rw [mem_rankThread, ih.mem, List.mem_append, List.mem_singleton]
        exact or_left_comm.trans or_assoc.symm
      · intro other rank found
        have earlier := ih.kept other rank found
        rw [getElem?_rankThread, if_neg]
        · exact earlier
        · rintro ⟨rfl, missing⟩
          exact missing (TreeMap.mem_iff_isSome_getElem?.mpr (by rw [earlier]; rfl))
      · exact fun ranks => (ih.apart ranks).rankThread

end Ranks

/-! ## Spread -/

section Spread

variable {cfg : ArcasConfig} {eligibleLen capacityFloor : Nat}

/-- The configured bounds, cut off at the number of eligible domains. -/
def SpreadWithin (cfg : ArcasConfig) (eligibleLen spread : Nat) : Prop :=
  cfg.effectiveMinDomains eligibleLen ≤ spread ∧ spread ≤ cfg.effectiveMaxDomains eligibleLen

theorem effectiveMinDomains_pos (cfg : ArcasConfig) (eligibleLen : Nat) :
    0 < cfg.effectiveMinDomains eligibleLen := by
  unfold ArcasConfig.effectiveMinDomains ArcasConfig.effectiveMaxDomains
  dsimp only
  omega

theorem clampSpreadDomains_within (some : 0 < eligibleLen) (spread : Nat) :
    SpreadWithin cfg eligibleLen (cfg.clampSpreadDomains spread eligibleLen) := by
  unfold SpreadWithin ArcasConfig.clampSpreadDomains ArcasConfig.effectiveMinDomains
  rw [if_neg some.ne']
  dsimp only
  omega

theorem clampSpreadDomains_eq (some : 0 < eligibleLen) {spread : Nat}
    (within : SpreadWithin cfg eligibleLen spread) :
    cfg.clampSpreadDomains spread eligibleLen = spread := by
  unfold SpreadWithin ArcasConfig.effectiveMinDomains at within
  unfold ArcasConfig.clampSpreadDomains
  rw [if_neg some.ne']
  dsimp only
  omega

/-- The required spread only grows, as far as the floor asks and the maximum lets it. -/
theorem clampSpreadDomains_required (some : 0 < eligibleLen) {spread : Nat}
    (within : SpreadWithin cfg eligibleLen spread) (capacityFloor : Nat) :
    cfg.clampSpreadDomains (max (max spread capacityFloor) (max cfg.minDomains 1)) eligibleLen =
      max spread (min capacityFloor (cfg.effectiveMaxDomains eligibleLen)) := by
  unfold SpreadWithin ArcasConfig.effectiveMinDomains at within
  unfold ArcasConfig.clampSpreadDomains
  rw [if_neg some.ne']
  dsimp only
  omega

variable {state : Rebalancing}

theorem requireSpread_spreadDomains :
    (state.requireSpread cfg capacityFloor eligibleLen).controller.spreadDomains =
      cfg.clampSpreadDomains
        (max (max state.controller.spreadDomains capacityFloor) (max cfg.minDomains 1))
        eligibleLen := by
  unfold Rebalancing.requireSpread
  dsimp only
  split
  · rfl
  next same => exact (Decidable.not_not.mp same).symm

theorem followSignal_within (some : 0 < eligibleLen) (call : RebalanceCall)
    (within : SpreadWithin cfg eligibleLen state.controller.spreadDomains) :
    SpreadWithin cfg eligibleLen
      (state.followSignal cfg capacityFloor eligibleLen call).controller.spreadDomains := by
  unfold Rebalancing.followSignal
  dsimp only
  split
  · exact clampSpreadDomains_within some _
  · exact within

end Spread

/-! ## One call -/

section Call

variable (topo : TopologyLayout) {mapping : MappingInfo} {cfg : ArcasConfig}
  {controller : ArcasController} (call : RebalanceCall)

/-- The part of a call that sets the spread leaves the ranks alone. -/
theorem adjustSpread_ranks (mapping : MappingInfo) (cfg : ArcasConfig)
    (controller : ArcasController) :
    (adjustSpread topo mapping cfg controller call).controller.rankByTid =
        (call.allowedCpusByTid.keys.foldl ArcasController.rankThread
          (controller.retain call.allowedCpusByTid)).rankByTid ∧
      (adjustSpread topo mapping cfg controller call).controller.nextRank =
        (call.allowedCpusByTid.keys.foldl ArcasController.rankThread
          (controller.retain call.allowedCpusByTid)).nextRank := by
  have kept : ∀ (state : Rebalancing) (floor len : Nat),
      ((state.fillSpread cfg floor len).requireSpread cfg floor len).controller.rankByTid =
          state.controller.rankByTid ∧
        ((state.fillSpread cfg floor len).requireSpread cfg floor len).controller.nextRank =
          state.controller.nextRank := by
    intro state floor len
    obtain ⟨filling, filled⟩ := fillSpread_onlySpread state cfg floor len
    obtain ⟨widening, widened⟩ := requireSpread_onlySpread (state.fillSpread cfg floor len) cfg
      floor len
    rw [widened, filled]
    exact ⟨rfl, rfl⟩
  unfold adjustSpread
  dsimp only
  split
  · exact kept _ _ _
  · exact kept _ _ _

/-- The call samples the traffic. -/
def Due (cfg : ArcasConfig) (controller : ArcasController) (nowNs : Nat) : Prop :=
  controller.lastAdjustNs = 0 ∨
    satMul64 cfg.intervalMs 1000000 ≤ nowNs - controller.lastAdjustNs

theorem ready_iff (nowNs : Nat) : controller.ready cfg nowNs = true ↔ Due cfg controller nowNs := by
  simp [ArcasController.ready, Due]

/-- What a call does to the spread and to the time of the last sample. -/
structure SpreadAdjusted (topo : TopologyLayout) (mapping : MappingInfo) (cfg : ArcasConfig)
    (controller : ArcasController) (call : RebalanceCall) (next : ArcasController) : Prop where
  within : SpreadWithin cfg (eligibleDomainList mapping).length next.spreadDomains
  due : Due cfg controller call.nowNs → next.lastAdjustNs = call.nowNs
  early : ¬Due cfg controller call.nowNs → next.lastAdjustNs = controller.lastAdjustNs ∧
    next.spreadDomains = max controller.spreadDomains
      (min (minDomainsForRunnableLoad topo (eligibleDomainList mapping) call.allowedCpusByTid)
        (cfg.effectiveMaxDomains (eligibleDomainList mapping).length))

theorem adjustSpread_adjusted (some : 0 < (eligibleDomainList mapping).length)
    (within : SpreadWithin cfg (eligibleDomainList mapping).length controller.spreadDomains) :
    SpreadAdjusted topo mapping cfg controller call
      (adjustSpread topo mapping cfg controller call).controller := by
  obtain ⟨_, spread, lastAdjust⟩ := rankThreads_frame
    (controller.retain call.allowedCpusByTid) call.allowedCpusByTid.keys
  unfold adjustSpread
  dsimp only
  generalize call.allowedCpusByTid.keys.foldl ArcasController.rankThread
    (controller.retain call.allowedCpusByTid) = ranked at spread lastAdjust ⊢
  have sameSpread : ranked.spreadDomains = controller.spreadDomains := spread
  have sameAdjust : ranked.lastAdjustNs = controller.lastAdjustNs := lastAdjust
  have filled : controller.spreadDomains ≠ 0 :=
    (Nat.lt_of_lt_of_le (effectiveMinDomains_pos cfg _) within.1).ne'
  rw [fillSpread_of_ne (sameSpread.trans_ne filled)]
  have sameReady : ranked.ready cfg call.nowNs = controller.ready cfg call.nowNs := by
    simp only [ArcasController.ready, sameAdjust]
  dsimp only
  rw [sameReady]
  have required := clampSpreadDomains_required some within
    (minDomainsForRunnableLoad topo (eligibleDomainList mapping) call.allowedCpusByTid)
  split
  next ready =>
    have due := (ready_iff call.nowNs).mp ready
    constructor
    · apply followSignal_within some
      rw [requireSpread_spreadDomains]
      exact clampSpreadDomains_within some _
    · exact fun _ => rfl
    · exact fun early => absurd due early
  next waits =>
    have early : ¬Due cfg controller call.nowNs := fun due => waits ((ready_iff _).mpr due)
    constructor
    · rw [requireSpread_spreadDomains]
      exact clampSpreadDomains_within some _
    · exact fun due => absurd due early
    · intro _
      constructor
      · obtain ⟨widening, widened⟩ := requireSpread_onlySpread _ cfg _ _
        rw [widened]
        exact sameAdjust
      · rw [requireSpread_spreadDomains]
        dsimp only
        rw [sameSpread, required]

/-- What holds after a call, for the threads pending then. -/
structure ControllerInvariant (mapping : MappingInfo) (cfg : ArcasConfig)
    (allowedCpusByTid : CpuSetMap) (controller : ArcasController) : Prop where
  spread : SpreadWithin cfg (eligibleDomainList mapping).length controller.spreadDomains
  someActive : controller.activeDomains ≠ []
  distinct : controller.activeDomains.Nodup
  eligible : ∀ domain ∈ controller.activeDomains, domain ∈ mapping.eligibleDomains
  fits : controller.activeDomains.length ≤ controller.spreadDomains
  ranked : ∀ tid, tid ∈ controller.rankByTid ↔ tid ∈ allowedCpusByTid
  apart : ∀ left right rank : Nat, controller.rankByTid[left]? = some rank →
    controller.rankByTid[right]? = some rank → rank < usizeMax → left = right
  pending : ∀ tid ∈ controller.targetDomainByTid, tid ∈ allowedCpusByTid
  paired : ∀ tid, tid ∈ controller.targetDomainByTid ↔ tid ∈ controller.targetCpuByTid

/-- The part of it that every call needs of the one before. -/
structure RunInvariant (mapping : MappingInfo) (cfg : ArcasConfig) (controller : ArcasController) :
    Prop where
  spread : SpreadWithin cfg (eligibleDomainList mapping).length controller.spreadDomains
  someActive : controller.activeDomains ≠ []
  distinct : controller.activeDomains.Nodup
  eligible : ∀ domain ∈ controller.activeDomains, domain ∈ mapping.eligibleDomains
  fits : controller.activeDomains.length ≤ controller.spreadDomains
  ranks : RanksApart controller

theorem nodup_eligibleDomainList : (eligibleDomainList mapping).Nodup :=
  nodup_toList mapping.eligibleDomains

theorem length_slotDomains_pos (allowedCpusByTid : CpuSetMap)
    (some : 0 < (eligibleDomainList mapping).length) :
    0 < (slotDomains topo allowedCpusByTid (eligibleDomainList mapping)).length := by
  unfold slotDomains
  dsimp only
  split
  · exact some
  next usable => exact List.length_pos_of_ne_nil fun none => usable (by rw [none]; rfl)

/-- New targets leave the spread, the ranks and the time of the sample alone. -/
theorem rebalanceStep_frame (cfg : ArcasConfig) (controller : ArcasController)
    (some : 0 < (eligibleDomainList mapping).length) :
    (rebalanceStep topo mapping cfg controller call).spreadDomains =
        (adjustSpread topo mapping cfg controller call).controller.spreadDomains ∧
      (rebalanceStep topo mapping cfg controller call).lastAdjustNs =
        (adjustSpread topo mapping cfg controller call).controller.lastAdjustNs ∧
      (rebalanceStep topo mapping cfg controller call).rankByTid =
        (adjustSpread topo mapping cfg controller call).controller.rankByTid ∧
      (rebalanceStep topo mapping cfg controller call).nextRank =
        (adjustSpread topo mapping cfg controller call).controller.nextRank := by
  have domains : (eligibleDomainList mapping).isEmpty = false :=
    List.isEmpty_eq_false_iff.mpr (List.ne_nil_of_length_pos some)
  unfold rebalanceStep maybeRebalance
  simp only [domains, Bool.false_eq_true, if_false]
  split
  · exact ⟨rfl, rfl, rfl, rfl⟩
  · exact ⟨rfl, rfl, rfl, rfl⟩

/-- Where the targets are kept, the spread has not changed either. -/
theorem spread_of_kept (some : 0 < (eligibleDomainList mapping).length)
    (within : SpreadWithin cfg (eligibleDomainList mapping).length controller.spreadDomains)
    (kept : ¬Recomputes topo mapping cfg controller call) :
    (adjustSpread topo mapping cfg controller call).controller.spreadDomains =
      controller.spreadDomains := by
  have early : ¬Due cfg controller call.nowNs :=
    fun due => kept (.due ((ready_iff call.nowNs).mpr due))
  have grown := ((adjustSpread_adjusted topo call some within).early early).2
  rw [grown, ← clampSpreadDomains_required some within]
  by_contra changed
  exact kept (.otherSpread changed)

theorem rebalanceStep_activeDomains (some : 0 < (eligibleDomainList mapping).length)
    (within : SpreadWithin cfg (eligibleDomainList mapping).length controller.spreadDomains) :
    (rebalanceStep topo mapping cfg controller call).activeDomains =
        selectActiveDomains topo (eligibleDomainList mapping) call.allowedCpusByTid
          (rebalanceStep topo mapping cfg controller call).spreadDomains ∨
      (rebalanceStep topo mapping cfg controller call).activeDomains = controller.activeDomains ∧
        (rebalanceStep topo mapping cfg controller call).spreadDomains =
          controller.spreadDomains := by
  have adjusted := adjustSpread_adjusted topo call some within
  have same := rebalanceStep_frame topo call cfg controller some
  by_cases recomputes : Recomputes topo mapping cfg controller call
  · left
    rw [same.1]
    have domains : (eligibleDomainList mapping).isEmpty = false :=
      List.isEmpty_eq_false_iff.mpr (List.ne_nil_of_length_pos some)
    unfold rebalanceStep maybeRebalance
    simp only [domains, Bool.false_eq_true, if_false, adjustSpread_refresh_iff.mpr recomputes,
      if_true, ArcasController.retarget, clampSpreadDomains_eq some adjusted.within]
  · right
    refine ⟨?_, same.1.trans (spread_of_kept topo call some within recomputes)⟩
    have populated : mapping.eligibleDomains.isEmpty = false := by
      rw [← TreeSet.isEmpty_toList]
      exact List.isEmpty_eq_false_iff.mpr (List.ne_nil_of_length_pos some)
    cases rebalanceStep_cases topo cfg controller call populated with
    | planned planned _ _ => exact absurd planned recomputes
    | kept _ frame => exact congrArg (·.activeDomains) frame

theorem rebalanceStep_ranked (cfg : ArcasConfig) (controller : ArcasController)
    (some : 0 < (eligibleDomainList mapping).length) :
    RankedFor (controller.retain call.allowedCpusByTid) call.allowedCpusByTid.keys
      (rebalanceStep topo mapping cfg controller call) := by
  obtain ⟨_, _, sameRanks, sameNext⟩ := rebalanceStep_frame topo call cfg controller some
  obtain ⟨adjustRanks, adjustNext⟩ := adjustSpread_ranks topo call mapping cfg controller
  have ranked := rankThreads_ranked (controller.retain call.allowedCpusByTid)
    call.allowedCpusByTid.keys
  have ranks := sameRanks.trans adjustRanks
  constructor
  · rw [ranks]
    exact ranked.mem
  · rw [ranks]
    exact ranked.kept
  · intro before
    have apart := ranked.apart before
    constructor
    · rw [ranks, sameNext.trans adjustNext]
      exact apart.below
    · rw [ranks]
      exact apart.apart

theorem rebalanceStep_adjusted (some : 0 < (eligibleDomainList mapping).length)
    (within : SpreadWithin cfg (eligibleDomainList mapping).length controller.spreadDomains) :
    SpreadAdjusted topo mapping cfg controller call
      (rebalanceStep topo mapping cfg controller call) := by
  have adjusted := adjustSpread_adjusted topo call some within
  obtain ⟨sameSpread, sameAdjust, _, _⟩ := rebalanceStep_frame topo call cfg controller some
  constructor
  · rw [sameSpread]
    exact adjusted.within
  · rw [sameAdjust]
    exact adjusted.due
  · rw [sameAdjust, sameSpread]
    exact adjusted.early

theorem rebalanceStep_invariant (some : 0 < (eligibleDomainList mapping).length)
    (before : RunInvariant mapping cfg controller) :
    RunInvariant mapping cfg (rebalanceStep topo mapping cfg controller call) := by
  have spread := (rebalanceStep_adjusted topo call some before.spread).within
  have ranks := (rebalanceStep_ranked topo call cfg controller some).apart
    (before.ranks.retain call.allowedCpusByTid)
  rcases rebalanceStep_activeDomains topo call some before.spread with chosen | ⟨kept, same⟩
  · obtain ⟨distinct, length⟩ := selectActiveDomains_shape topo nodup_eligibleDomainList
      call.allowedCpusByTid (rebalanceStep topo mapping cfg controller call).spreadDomains
    rw [← chosen] at distinct length
    have positive := Nat.lt_of_lt_of_le (effectiveMinDomains_pos cfg _) spread.1
    have candidates := length_slotDomains_pos topo call.allowedCpusByTid some
    refine ⟨spread, ?_, distinct, ?_, length.trans_le (Nat.min_le_left _ _), ranks⟩
    · apply List.ne_nil_of_length_pos
      omega
    · intro domain active
      rw [chosen] at active
      exact TreeSet.mem_toList.mp (mem_selectActiveDomains active)
  · refine ⟨spread, ?_, ?_, ?_, ?_, ranks⟩
    · rw [kept]
      exact before.someActive
    · rw [kept]
      exact before.distinct
    · rw [kept]
      exact before.eligible
    · rw [kept, same]
      exact before.fits

theorem mem_allowed_of_retained {targets : TreeMap Nat Nat} {allowedCpusByTid : CpuSetMap} {tid : Nat}
    (retained : tid ∈ targets.filter fun tid _ => allowedCpusByTid.contains tid) :
    tid ∈ allowedCpusByTid := by
  rw [TreeMap.mem_iff_isSome_getElem?, getElem?_retained] at retained
  by_contra gone
  rw [if_neg gone] at retained
  cases retained

/-- Only pending threads have targets, whether they are new or kept. -/
theorem rebalanceStep_targets_pending (cfg : ArcasConfig) (controller : ArcasController)
    (eligible : mapping.eligibleDomains.isEmpty = false) :
    ∀ tid ∈ (rebalanceStep topo mapping cfg controller call).targetDomainByTid,
      tid ∈ call.allowedCpusByTid := by
  intro tid targeted
  cases rebalanceStep_cases topo cfg controller call eligible with
  | planned _ planned _ =>
      rw [TreeMap.mem_iff_isSome_getElem?] at targeted
      cases planned tid with
      | placed listed _ _ _ _ _ =>
          exact TreeMap.mem_iff_isSome_getElem?.mpr (Option.isSome_iff_exists.mpr ⟨_, listed⟩)
      | unplaced _ domain _ =>
          rw [domain] at targeted
          cases targeted
  | kept _ frame =>
      have retained : (rebalanceStep topo mapping cfg controller call).targetDomainByTid =
          (controller.retain call.allowedCpusByTid).targetDomainByTid :=
        congrArg (·.targetDomainByTid) frame
      rw [retained] at targeted
      exact mem_allowed_of_retained targeted

end Call

/-! ## Runs -/

section Runs

variable (topo : TopologyLayout) {mapping : MappingInfo} (cfg : ArcasConfig)

theorem new_invariant (some : 0 < (eligibleDomainList mapping).length) :
    RunInvariant mapping cfg (.new mapping cfg) := by
  have within : SpreadWithin cfg (eligibleDomainList mapping).length
      (cfg.clampSpreadDomains (max cfg.minDomains 1) (eligibleDomainList mapping).length) :=
    clampSpreadDomains_within some _
  have positive := Nat.lt_of_lt_of_le (effectiveMinDomains_pos cfg _) within.1
  constructor
  · exact within
  · apply List.ne_nil_of_length_pos
    simp only [ArcasController.new, List.length_take]
    omega
  · exact nodup_eligibleDomainList.sublist (List.take_sublist _ _)
  · intro domain active
    exact TreeSet.mem_toList.mp (List.mem_of_mem_take active)
  · exact List.length_take_le _ _
  · constructor
    · intro tid rank found
      simp [ArcasController.new] at found
    · intro left right rank found
      simp [ArcasController.new] at found

theorem rebalanceRun_invariant (some : 0 < (eligibleDomainList mapping).length)
    (calls : List RebalanceCall) : RunInvariant mapping cfg (rebalanceRun topo mapping cfg calls) := by
  induction calls using List.reverseRecOn with
  | nil => exact new_invariant cfg some
  | append_singleton calls call ih =>
      rw [rebalanceRun_append]
      exact rebalanceStep_invariant topo call some ih

theorem lastAdjustNs_ne_zero (some : 0 < (eligibleDomainList mapping).length)
    (calls : List RebalanceCall) (call : RebalanceCall)
    (started : ∀ earlier ∈ calls ++ [call], 0 < earlier.nowNs) :
    (rebalanceRun topo mapping cfg (calls ++ [call])).lastAdjustNs ≠ 0 := by
  have before := rebalanceRun_invariant topo cfg some calls
  rw [rebalanceRun_append]
  have adjusted := rebalanceStep_adjusted topo call some before.spread
  by_cases due : Due cfg (rebalanceRun topo mapping cfg calls) call.nowNs
  · rw [adjusted.due due]
    exact (started call (List.mem_append_right calls List.mem_cons_self)).ne'
  · rw [(adjusted.early due).1]
    exact fun never => due (.inl never)

/-- In every run, after every call the controller is consistent with the threads
pending then, a thread that stays pending keeps its rank, and between two samples
the spread only grows to the capacity floor. -/
theorem rebalanceRun_controllerInvariant (topo : TopologyLayout) (mapping : MappingInfo)
    (cfg : ArcasConfig) (eligible : mapping.eligibleDomains.isEmpty = false)
    (calls : List RebalanceCall) (call : RebalanceCall) :
    ControllerInvariant mapping cfg call.allowedCpusByTid
        (rebalanceRun topo mapping cfg (calls ++ [call])) ∧
      (∀ tid ∈ (rebalanceRun topo mapping cfg calls).rankByTid, tid ∈ call.allowedCpusByTid →
        (rebalanceRun topo mapping cfg (calls ++ [call])).rankByTid[tid]? =
          (rebalanceRun topo mapping cfg calls).rankByTid[tid]?) ∧
      SpreadAdjusted topo mapping cfg (rebalanceRun topo mapping cfg calls) call
        (rebalanceRun topo mapping cfg (calls ++ [call])) ∧
      ((∀ earlier ∈ calls ++ [call], 0 < earlier.nowNs) →
        (rebalanceRun topo mapping cfg (calls ++ [call])).lastAdjustNs ≠ 0) := by
  have some : 0 < (eligibleDomainList mapping).length := by
    apply List.length_pos_of_ne_nil
    rw [← List.isEmpty_eq_false_iff, eligibleDomainList, TreeSet.isEmpty_toList]
    exact eligible
  have before := rebalanceRun_invariant topo cfg some calls
  have paired : ∀ tid, PairedTarget topo (rebalanceRun topo mapping cfg (calls ++ [call])) tid :=
    rebalanceRun_paired eligible (calls ++ [call])
  have sampled := lastAdjustNs_ne_zero topo cfg some calls call
  rw [rebalanceRun_append] at paired sampled ⊢
  generalize rebalanceRun topo mapping cfg calls = controller at before paired sampled ⊢
  have after := rebalanceStep_invariant topo call some before
  have ranked := rebalanceStep_ranked topo call cfg controller some
  refine ⟨?_, ?_, rebalanceStep_adjusted topo call some before.spread, sampled⟩
  · constructor
    · exact after.spread
    · exact after.someActive
    · exact after.distinct
    · exact after.eligible
    · exact after.fits
    · intro tid
      rw [ranked.mem, TreeMap.mem_keys]
      constructor
      · intro either
        rcases either with pending | retained
        · exact pending
        · exact mem_allowed_of_retained retained
      · exact .inl
    · exact after.ranks.apart
    · exact rebalanceStep_targets_pending topo call cfg controller eligible
    · intro tid
      rw [TreeMap.mem_iff_isSome_getElem?, TreeMap.mem_iff_isSome_getElem?]
      cases paired tid with
      | both domain cpu _ _ =>
          rw [domain, cpu]
          exact iff_of_true rfl rfl
      | neither domain cpu => rw [domain, cpu]
  · intro tid known pending
    rw [TreeMap.mem_iff_isSome_getElem?] at known
    obtain ⟨rank, found⟩ := Option.isSome_iff_exists.mp known
    rw [found]
    apply ranked.kept
    exact (getElem?_retained tid).trans ((if_pos pending).trans found)

end Runs

/-! The run of two calls in which a second thread arrives. -/

theorem rebalanceRun_controllerInvariant_late :
    ControllerInvariant lateMapping lateConfig lateCall.allowedCpusByTid
      (rebalanceRun lateTopology lateMapping lateConfig [firstCall, lateCall]) :=
  (rebalanceRun_controllerInvariant lateTopology lateMapping lateConfig (by decide +kernel)
    [firstCall] lateCall).1

end CSwitch.Arcas
