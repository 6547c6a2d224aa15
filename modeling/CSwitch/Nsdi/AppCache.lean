import CSwitch.Library.ChainSearch
import CSwitch.Nsdi.Isolation

/-! The cache of the processes' applications. A resolution stops at a cached
process as well as at the root of an application, and then caches every process
that it passed; neither shows in its answers. -/

set_option autoImplicit false

namespace CSwitch.Nsdi

open Std (TreeMap)
open Library

/-! ## The walk -/

section Walk

variable (pidToApp rootToApp : TreeMap Nat Nat) (parentLookup : Nat → Option Nat)

/-- What stops the walk at a process. -/
def knownApp (pid : Nat) : Option Nat := (pidToApp[pid]?).or rootToApp[pid]?

/-- The processes below a level of the walk. -/
def lineageBelow (levels pid : Nat) : List Nat :=
  (List.range levels).filterMap fun level => ascend parentLookup level pid

variable {pidToApp rootToApp parentLookup} {fuel pid : Nat} {lineage : List Nat}

theorem lineageBelow_succ (levels pid : Nat) :
    lineageBelow parentLookup (levels + 1) pid =
      pid :: ((parentLookup pid).map (lineageBelow parentLookup levels)).getD [] := by
  unfold lineageBelow
  have first : ascend parentLookup 0 pid = some pid := rfl
  rw [List.range_succ_eq_map, List.filterMap_cons, List.filterMap_map]
  cases above : parentLookup pid with
  | none =>
      have ended : ∀ level, ascend parentLookup (level + 1) pid = none := by
        intro level
        rw [ascend, above, Option.bind_none]
      simp [first, ended]
  | some parent =>
      have shifted : ∀ level, ascend parentLookup (level + 1) pid =
          ascend parentLookup level parent := by
        intro level
        rw [ascend, above, Option.bind_some]
      simp [first, shifted]

theorem mem_lineageBelow {levels visited : Nat} :
    visited ∈ lineageBelow parentLookup levels pid ↔
      ∃ level < levels, ascend parentLookup level pid = some visited := by
  simp [lineageBelow]

/-- What the walk from a process answers. -/
inductive Walked (pidToApp rootToApp : TreeMap Nat Nat) (parentLookup : Nat → Option Nat)
    (fuel pid : Nat) (lineage : List Nat) : Option (Nat × List Nat) → Prop where
  | found {levels appId : Nat} (within : levels < fuel)
      (hit : FirstHit parentLookup (knownApp pidToApp rootToApp) levels pid appId) :
      Walked pidToApp rootToApp parentLookup fuel pid lineage
        (some (appId, lineage ++ lineageBelow parentLookup levels pid))
  | unknown (silent : ∀ levels < fuel, ∀ appId,
      ¬ FirstHit parentLookup (knownApp pidToApp rootToApp) levels pid appId) :
      Walked pidToApp rootToApp parentLookup fuel pid lineage none

theorem resolveLineage_walked (fuel pid : Nat) (lineage : List Nat) :
    Walked pidToApp rootToApp parentLookup fuel pid lineage
      (resolveLineage pidToApp rootToApp parentLookup fuel (some pid) lineage) := by
  induction fuel generalizing pid lineage with
  | zero => exact .unknown fun levels less => absurd less (Nat.not_lt_zero levels)
  | succ fuel ih =>
      rw [resolveLineage]
      split
      next appId known =>
        have walked : Walked pidToApp rootToApp parentLookup (fuel + 1) pid lineage
            (some (appId, lineage ++ lineageBelow parentLookup 0 pid)) :=
          .found (Nat.succ_pos fuel) (FirstHit.zero known)
        rwa [lineageBelow, List.range_zero, List.filterMap_nil, List.append_nil] at walked
      next missing =>
        have silent : knownApp pidToApp rootToApp pid = none := missing
        cases above : parentLookup pid with
        | none =>
            have ended : resolveLineage pidToApp rootToApp parentLookup fuel none
                (lineage ++ [pid]) = none := by
              cases fuel with
              | zero => rfl
              | succ fuel => rfl
            rw [ended]
            refine .unknown fun levels _ appId hit => ?_
            cases levels with
            | zero =>
                have answered := hit.of_zero
                rw [silent] at answered
                cases answered
            | succ levels => exact hit.climbs above
        | some parent =>
            have rest := ih parent (lineage ++ [pid])
            revert rest
            generalize resolveLineage pidToApp rootToApp parentLookup fuel (some parent)
              (lineage ++ [pid]) = answer
            intro rest
            cases rest with
            | @found levels appId within hit =>
                have longer : Walked pidToApp rootToApp parentLookup (fuel + 1) pid lineage
                    (some (appId, lineage ++ lineageBelow parentLookup (levels + 1) pid)) :=
                  .found (Nat.succ_lt_succ within) (.succ above silent hit)
                rwa [lineageBelow_succ, above, Option.map_some, Option.getD_some,
                  ← List.singleton_append, ← List.append_assoc] at longer
            | unknown unanswered =>
                refine .unknown fun levels less appId hit => ?_
                cases levels with
                | zero =>
                    have answered := hit.of_zero
                    rw [silent] at answered
                    cases answered
                | succ levels =>
                    exact unanswered levels (Nat.lt_of_succ_lt_succ less) appId (.tail above hit)

end Walk

/-! ## Agreement -/

section Agreement

variable (rootToApp : TreeMap Nat Nat) (parentLookup : Nat → Option Nat)

/-- The answer of a resolution without a cache. -/
def uncachedApp (pid : Nat) : Option Nat := (resolveAppIdWithLookup pid ∅ rootToApp parentLookup).2

/-- The closest root among a process and its ancestors belongs to the application. -/
def NearestRoot (pid appId : Nat) : Prop :=
  ∃ levels, FirstHit parentLookup (fun ancestor => rootToApp[ancestor]?) levels pid appId

/-- The ancestors reach a root, or their end, within the levels of a walk. -/
def LineageEnds (pid : Nat) : Prop :=
  ∃ levels < 256, ∃ last, ascend parentLookup levels pid = some last ∧
    (last ∈ rootToApp ∨ parentLookup last = none)

def CacheAgrees (pidToApp : TreeMap Nat Nat) : Prop :=
  ∀ pid appId : Nat, pidToApp[pid]? = some appId →
    uncachedApp rootToApp parentLookup pid = some appId

variable {rootToApp parentLookup} {pidToApp : TreeMap Nat Nat} {pid appId levels : Nat}

/-- What a resolution can answer, and what it leaves in the cache. -/
inductive Resolved (rootToApp : TreeMap Nat Nat) (parentLookup : Nat → Option Nat)
    (pidToApp : TreeMap Nat Nat) (pid : Nat) : TreeMap Nat Nat × Option Nat → Prop where
  | cached {appId : Nat} (known : pidToApp[pid]? = some appId) :
      Resolved rootToApp parentLookup pidToApp pid (pidToApp, some appId)
  | walked {levels appId : Nat} (missing : pidToApp[pid]? = none) (within : levels < 256)
      (hit : FirstHit parentLookup (knownApp pidToApp rootToApp) levels pid appId) :
      Resolved rootToApp parentLookup pidToApp pid
        (((lineageBelow parentLookup levels pid).foldl
          (fun known visited => known.insert visited appId) pidToApp).insert pid appId, some appId)
  | unknown (silent : ∀ levels < 256, ∀ appId,
      ¬ FirstHit parentLookup (knownApp pidToApp rootToApp) levels pid appId) :
      Resolved rootToApp parentLookup pidToApp pid (pidToApp, none)

theorem resolveAppIdWithLookup_resolved (rootToApp : TreeMap Nat Nat)
    (parentLookup : Nat → Option Nat) (pidToApp : TreeMap Nat Nat) (pid : Nat) :
    Resolved rootToApp parentLookup pidToApp pid
      (resolveAppIdWithLookup pid pidToApp rootToApp parentLookup) := by
  unfold resolveAppIdWithLookup
  split
  next appId known => exact .cached known
  next missing =>
    have walk : Walked pidToApp rootToApp parentLookup 256 pid []
        (resolveLineage pidToApp rootToApp parentLookup 256 (some pid) []) :=
      resolveLineage_walked 256 pid []
    revert walk
    generalize resolveLineage pidToApp rootToApp parentLookup 256 (some pid) [] = answer
    intro walk
    cases walk with
    | found within hit => exact .walked missing within hit
    | unknown silent => exact .unknown silent

theorem uncachedApp_eq_some_iff :
    uncachedApp rootToApp parentLookup pid = some appId ↔
      ∃ levels < 256,
        FirstHit parentLookup (fun ancestor => rootToApp[ancestor]?) levels pid appId := by
  have roots : knownApp ∅ rootToApp = fun ancestor => rootToApp[ancestor]? := by
    funext ancestor
    simp [knownApp]
  have resolved := resolveAppIdWithLookup_resolved rootToApp parentLookup ∅ pid
  unfold uncachedApp
  rw [← roots]
  revert resolved
  generalize resolveAppIdWithLookup pid ∅ rootToApp parentLookup = answer
  intro resolved
  cases resolved with
  | cached known => simp at known
  | walked missing within hit =>
      constructor
      · intro same
        obtain rfl := Option.some.inj same
        exact ⟨_, within, hit⟩
      · rintro ⟨other, _, found⟩
        rw [(hit.unique found).2]
  | unknown silent =>
      constructor
      · intro impossible
        cases impossible
      · rintro ⟨levels, within, found⟩
        exact absurd found (silent levels within appId)

/-- Where a lineage ends in time, its closest root is found in time. -/
theorem LineageEnds.within (ends : LineageEnds rootToApp parentLookup pid)
    (nearest : FirstHit parentLookup (fun ancestor => rootToApp[ancestor]?) levels pid appId) :
    levels < 256 := by
  obtain ⟨short, within, last, reached, ended⟩ := ends
  by_contra beyond
  have further : short < levels := by omega
  have noRoot : last ∉ rootToApp := by
    intro member
    rw [TreeMap.mem_iff_isSome_getElem?, nearest.before short further last reached] at member
    cases member
  have top : parentLookup last = none := ended.resolve_left noRoot
  obtain ⟨node, climbed, _⟩ := nearest.hit
  have goesOn : (ascend parentLookup (short + 1) pid).isSome :=
    ascend_isSome_of_le further (by rw [climbed]; rfl)
  rw [ascend_add, reached, Option.bind_some, ascend, top] at goesOn
  cases goesOn

/-- A cached process on the way stands for the root above it. -/
theorem CacheAgrees.nearestRoot (agrees : CacheAgrees rootToApp parentLookup pidToApp)
    (hit : FirstHit parentLookup (knownApp pidToApp rootToApp) levels pid appId) :
    ∃ more, FirstHit parentLookup (fun ancestor => rootToApp[ancestor]?) (levels + more) pid
      appId := by
  have silent : ∀ earlier < levels, ∀ other, ascend parentLookup earlier pid = some other →
      rootToApp[other]? = none := by
    intro earlier less other climbed
    exact (Option.or_eq_none_iff.mp (hit.before earlier less other climbed)).2
  obtain ⟨node, reached, answered⟩ := hit.hit
  rcases Option.or_eq_some_iff.mp answered with known | ⟨_, root⟩
  · obtain ⟨more, _, above⟩ := uncachedApp_eq_some_iff.mp (agrees node appId known)
    exact ⟨more, above.extend reached silent⟩
  · exact ⟨0, (FirstHit.zero root).extend reached silent⟩

theorem mem_resolved {appId known : Nat} {visited : List Nat} :
    ((visited.foldl (fun known visited => known.insert visited appId) pidToApp).insert pid
      appId)[known]? = if known = pid ∨ known ∈ visited then some appId else pidToApp[known]? := by
  rw [TreeMap.getElem?_insert, getElem?_foldl_insert]
  by_cases same : pid = known
  · simp [same]
  · simp [same, Ne.symm same]

/-- A resolution answers as it would without a cache, keeps what is cached, and
caches only what a resolution without a cache would answer. -/
theorem resolveAppIdWithLookup_agrees (agrees : CacheAgrees rootToApp parentLookup pidToApp)
    (ends : LineageEnds rootToApp parentLookup pid) :
    (resolveAppIdWithLookup pid pidToApp rootToApp parentLookup).2 =
        uncachedApp rootToApp parentLookup pid ∧
      CacheAgrees rootToApp parentLookup
        (resolveAppIdWithLookup pid pidToApp rootToApp parentLookup).1 := by
  have resolved := resolveAppIdWithLookup_resolved rootToApp parentLookup pidToApp pid
  revert resolved
  generalize resolveAppIdWithLookup pid pidToApp rootToApp parentLookup = answer
  intro resolved
  cases resolved with
  | @cached appId known => exact ⟨(agrees pid appId known).symm, agrees⟩
  | @walked levels appId missing within hit =>
      obtain ⟨more, nearest⟩ := agrees.nearestRoot hit
      have total := ends.within nearest
      have own := uncachedApp_eq_some_iff.mpr ⟨_, total, nearest⟩
      refine ⟨own.symm, ?_⟩
      intro known other cached
      rw [mem_resolved] at cached
      split at cached
      next new =>
        obtain rfl := Option.some.inj cached
        rcases new with rfl | passed
        · exact own
        · obtain ⟨level, below, climbed⟩ := mem_lineageBelow.mp passed
          have above := nearest.drop (by omega) climbed
          exact uncachedApp_eq_some_iff.mpr ⟨_, by omega, above⟩
      · exact agrees known other cached
  | unknown silent =>
      refine ⟨?_, agrees⟩
      symm
      rw [Option.eq_none_iff_forall_not_mem]
      intro appId found
      obtain ⟨levels, within, nearest⟩ := uncachedApp_eq_some_iff.mp found
      obtain ⟨node, reached, root⟩ := nearest.hit
      have answered : knownApp pidToApp rootToApp node ≠ none := by
        intro missing
        rw [(Option.or_eq_none_iff.mp missing).2] at root
        cases root
      obtain ⟨earlier, less, first, hit⟩ := exists_firstHit reached answered
      exact silent earlier (by omega) first hit

/-- The applications that a sequence of resolutions finds, one cache through all. -/
def resolveAppIds (rootToApp : TreeMap Nat Nat) (parentLookup : Nat → Option Nat) :
    List Nat → TreeMap Nat Nat → TreeMap Nat Nat × List (Option Nat)
  | [], pidToApp => (pidToApp, [])
  | pid :: rest, pidToApp =>
      let (known, appId) := resolveAppIdWithLookup pid pidToApp rootToApp parentLookup
      let (known, appIds) := resolveAppIds rootToApp parentLookup rest known
      (known, appId :: appIds)

theorem resolveAppIds_eq (agrees : CacheAgrees rootToApp parentLookup pidToApp) {pids : List Nat}
    (ends : ∀ pid ∈ pids, LineageEnds rootToApp parentLookup pid) :
    (resolveAppIds rootToApp parentLookup pids pidToApp).2 =
      pids.map (uncachedApp rootToApp parentLookup) := by
  induction pids generalizing pidToApp with
  | nil => rfl
  | cons pid rest ih =>
      obtain ⟨same, kept⟩ := resolveAppIdWithLookup_agrees agrees (ends pid List.mem_cons_self)
      have later := ih kept fun other member => ends other (List.mem_cons_of_mem pid member)
      rw [List.map_cons, ← same, ← later]
      rfl

theorem uncachedApp_eq_some_iff_nearestRoot (ends : LineageEnds rootToApp parentLookup pid) :
    uncachedApp rootToApp parentLookup pid = some appId ↔
      NearestRoot rootToApp parentLookup pid appId := by
  rw [uncachedApp_eq_some_iff]
  constructor
  · intro ⟨levels, _, nearest⟩
    exact ⟨levels, nearest⟩
  · intro ⟨levels, nearest⟩
    exact ⟨levels, ends.within nearest, nearest⟩

/-- A cache whose entries agree with the process tree is transparent: every
resolution answers the closest root, as without a cache, and leaves such a cache
behind, so that the answers of a sequence do not depend on its order. -/
theorem resolveAppIdWithLookup_transparent (rootToApp : TreeMap Nat Nat)
    (parentLookup : Nat → Option Nat) (pidToApp : TreeMap Nat Nat)
    (agrees : CacheAgrees rootToApp parentLookup pidToApp) :
    (∀ pid, LineageEnds rootToApp parentLookup pid →
      let resolved := resolveAppIdWithLookup pid pidToApp rootToApp parentLookup
      resolved.2 = uncachedApp rootToApp parentLookup pid ∧
        (∀ appId, resolved.2 = some appId ↔ NearestRoot rootToApp parentLookup pid appId) ∧
        (∀ known appId : Nat, pidToApp[known]? = some appId → resolved.1[known]? = some appId) ∧
        CacheAgrees rootToApp parentLookup resolved.1) ∧
    ∀ pids, (∀ pid ∈ pids, LineageEnds rootToApp parentLookup pid) →
      (resolveAppIds rootToApp parentLookup pids pidToApp).2 =
        pids.map (uncachedApp rootToApp parentLookup) := by
  constructor
  · intro pid ends resolved
    obtain ⟨same, kept⟩ := resolveAppIdWithLookup_agrees agrees ends
    refine ⟨same, ?_, ?_, kept⟩
    · intro appId
      rw [same]
      exact uncachedApp_eq_some_iff_nearestRoot ends
    · intro known appId cached
      exact resolveAppIdWithLookup_keeps cached
  · intro pids ends
    exact resolveAppIds_eq agrees ends

end Agreement

/-! Process 30 was started by 20, and 20 by 10, the root of an application. -/

def startedBy (pid : Nat) : Option Nat :=
  match pid with
  | 30 => some 20
  | 20 => some 10
  | _ => none

def startedRoots : TreeMap Nat Nat := .ofList [(10, 0)]

theorem resolveAppIdWithLookup_transparent_started :
    (resolveAppIds startedRoots startedBy [30, 20, 7, 30] (.ofList [(20, 0)])).2 =
      [some 0, some 0, none, some 0] := by
  have agrees : CacheAgrees startedRoots startedBy (.ofList [(20, 0)]) := by
    intro pid appId cached
    have listed : (pid, appId) ∈ [((20 : Nat), (0 : Nat))] := by
      have found := TreeMap.mem_toList_iff_getElem?_eq_some.mpr cached
      exact found
    obtain ⟨rfl, rfl⟩ := Prod.mk.inj (List.mem_singleton.mp listed)
    decide +kernel
  have ends : ∀ pid ∈ [30, 20, 7, 30], LineageEnds startedRoots startedBy pid := by
    intro pid member
    rcases List.mem_cons.mp member with rfl | member
    · exact ⟨2, by decide, 10, rfl, .inr rfl⟩
    rcases List.mem_cons.mp member with rfl | member
    · exact ⟨1, by decide, 10, rfl, .inr rfl⟩
    rcases List.mem_cons.mp member with rfl | member
    · exact ⟨0, by decide, 7, rfl, .inr rfl⟩
    obtain rfl := List.mem_singleton.mp member
    exact ⟨2, by decide, 10, rfl, .inr rfl⟩
  rw [(resolveAppIdWithLookup_transparent startedRoots startedBy _ agrees).2 _ ends]
  decide +kernel

end CSwitch.Nsdi
