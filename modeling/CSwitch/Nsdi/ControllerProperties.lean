import CSwitch.Library.FoldPrefix
import CSwitch.Library.Ownership
import CSwitch.Library.TreeSets
import CSwitch.Nsdi.Controller

/-! Ownership over whole runs of the NSDI scheduler: no CPU has two owners, and
one call of the controller moves at most one CPU in or out of an application. -/

set_option autoImplicit false

namespace CSwitch.Nsdi

open Std (TreeMap TreeSet)
open Policy Library

/-- Application ids are positions in the application table. -/
def Indexed (appStates : List NsdiAppState) : Prop :=
  ∀ (index : Nat) (app : NsdiAppState), appStates[index]? = some app → app.id = index

/-- The CPUs that the application at a position of the table owns. -/
def ownedBy (appStates : List NsdiAppState) (appId : Nat) : Set Nat :=
  {cpu | ∃ app, appStates[appId]? = some app ∧ cpu ∈ app.ownedCpus}

def members (values : TreeSet Nat) : Set Nat := {value | value ∈ values}

theorem members_insert (values : TreeSet Nat) (value : Nat) :
    members (values.insert value) = insert value (members values) := by
  ext other
  simp [members, @eq_comm _ value other]

theorem members_erase (values : TreeSet Nat) (value : Nat) :
    members (values.erase value) = members values \ {value} := by
  ext other
  simp [members, and_comm, @eq_comm _ value other]

theorem mem_ownedBy {appStates : List NsdiAppState} {appId cpu : Nat} {app : NsdiAppState}
    (found : appStates[appId]? = some app) :
    cpu ∈ ownedBy appStates appId ↔ cpu ∈ app.ownedCpus := by
  simp [ownedBy, found]

theorem Indexed.getElem? {appStates : List NsdiAppState} {app : NsdiAppState}
    (indexed : Indexed appStates) (member : app ∈ appStates) : appStates[app.id]? = some app := by
  obtain ⟨index, found⟩ := List.mem_iff_getElem?.mp member
  rw [indexed index app found]
  exact found

theorem Indexed.map {appStates : List NsdiAppState} (indexed : Indexed appStates)
    {change : NsdiAppState → NsdiAppState} (same : ∀ app, (change app).id = app.id) :
    Indexed (appStates.map change) := by
  intro index app found
  rw [List.getElem?_map, Option.map_eq_some_iff] at found
  obtain ⟨before, found, rfl⟩ := found
  rw [same, indexed index before found]

theorem Indexed.modify {appStates : List NsdiAppState} (indexed : Indexed appStates) (appId : Nat)
    {change : NsdiAppState → NsdiAppState} (same : ∀ app, (change app).id = app.id) :
    Indexed (appStates.modify appId change) := by
  intro index app found
  rw [List.getElem?_modify, Option.map_eq_map, Option.map_eq_some_iff] at found
  obtain ⟨before, found, rfl⟩ := found
  split
  · rw [same, indexed index before found]
  · exact indexed index before found

/-! ## Static partition -/

/-- Where the share of an application starts. -/
def shareStart (base remainder index : Nat) : Nat := index * base + min index remainder

theorem shareStart_succ (base remainder index : Nat) :
    shareStart base remainder (index + 1) =
      shareStart base remainder index + (base + if index < remainder then 1 else 0) := by
  unfold shareStart
  rw [Nat.succ_mul]
  split <;> omega

theorem shareStart_mono (base remainder : Nat) : Monotone (shareStart base remainder) :=
  monotone_nat_of_le_succ fun index => by rw [shareStart_succ]; exact Nat.le_add_right _ _

/-- The CPUs dealt to the application at a position. -/
def shareCpus (sorted : List Nat) (base remainder index : Nat) : List Nat :=
  (sorted.drop (shareStart base remainder index)).take
    (base + if index < remainder then 1 else 0)

theorem getElem?_dealShares (sorted : List Nat) (base remainder : Nat)
    {appStates : List NsdiAppState} (start : Nat)
    (indexed : ∀ (index : Nat) (app : NsdiAppState), appStates[index]? = some app →
      app.id = start + index) (index : Nat) :
    (dealShares sorted base remainder appStates (shareStart base remainder start))[index]? =
      appStates[index]?.map fun app =>
        { app with ownedCpus := .ofList (shareCpus sorted base remainder (start + index)) } := by
  induction appStates generalizing start index with
  | nil => simp [dealShares]
  | cons app rest ih =>
      have first : app.id = start := indexed 0 app rfl
      have tail : ∀ (index : Nat) (app : NsdiAppState), rest[index]? = some app →
          app.id = start + 1 + index := by
        intro position other found
        rw [indexed (position + 1) other found]
        omega
      cases index with
      | zero => simp [dealShares, first, shareCpus]
      | succ index =>
          have later := ih (start + 1) tail index
          rw [shareStart_succ, Nat.add_assoc start 1 index, Nat.add_comm 1 index] at later
          simp only [dealShares, first, List.getElem?_cons_succ]
          exact later

section Static

variable {appStates : List NsdiAppState} {eligibleCpus : TreeSet Nat}

/-- The share of one application in the partition of the eligible CPUs. -/
def staticShare (appStates : List NsdiAppState) (eligibleCpus : TreeSet Nat) (index : Nat) :
    List Nat :=
  shareCpus eligibleCpus.toList (eligibleCpus.toList.length / appStates.length)
    (eligibleCpus.toList.length % appStates.length) index

theorem getElem?_initializeStaticCpuPartition (indexed : Indexed appStates) (index : Nat) :
    (initializeStaticCpuPartition appStates eligibleCpus)[index]? =
      appStates[index]?.map fun app =>
        { app with ownedCpus := .ofList (staticShare appStates eligibleCpus index) } := by
  unfold initializeStaticCpuPartition
  dsimp only
  split
  next empty =>
    rw [List.length_eq_zero_iff.mp empty]
    simp
  · have dealt := getElem?_dealShares eligibleCpus.toList
      (eligibleCpus.toList.length / appStates.length)
      (eligibleCpus.toList.length % appStates.length) 0
      (fun position app found => by rw [indexed position app found, Nat.zero_add]) index
    simpa [shareStart, staticShare] using dealt

/-- A CPU is in a share when its place among the sorted CPUs is. -/
theorem mem_shareCpus {sorted : List Nat} {base remainder index cpu : Nat} :
    cpu ∈ shareCpus sorted base remainder index ↔
      ∃ place, sorted[place]? = some cpu ∧ shareStart base remainder index ≤ place ∧
        place < shareStart base remainder (index + 1) := by
  rw [shareStart_succ, shareCpus, List.mem_iff_getElem?]
  generalize (base + if index < remainder then 1 else 0) = share
  constructor
  · rintro ⟨offset, found⟩
    rw [List.getElem?_take] at found
    split at found
    next within =>
      rw [List.getElem?_drop] at found
      exact ⟨_, found, Nat.le_add_right _ _, Nat.add_lt_add_left within _⟩
    · cases found
  · rintro ⟨place, found, after, before⟩
    refine ⟨place - shareStart base remainder index, ?_⟩
    rw [List.getElem?_take, if_pos (by omega), List.getElem?_drop, Nat.add_sub_cancel' after]
    exact found

theorem mem_ownedBy_static (indexed : Indexed appStates) {index cpu : Nat} :
    cpu ∈ ownedBy (initializeStaticCpuPartition appStates eligibleCpus) index ↔
      index < appStates.length ∧ cpu ∈ staticShare appStates eligibleCpus index := by
  simp only [ownedBy, Set.mem_ofPred_eq, getElem?_initializeStaticCpuPartition indexed,
    Option.map_eq_some_iff]
  constructor
  · rintro ⟨_, ⟨app, found, rfl⟩, member⟩
    exact ⟨(List.getElem?_eq_some_iff.mp found).1,
      List.contains_iff_mem.mp (TreeSet.mem_ofList.mp member)⟩
  · rintro ⟨bound, member⟩
    exact ⟨_, ⟨_, List.getElem?_eq_getElem bound, rfl⟩,
      TreeSet.mem_ofList.mpr (List.contains_iff_mem.mpr member)⟩

/-- Two shares that hold one place of the sorted CPUs are one share. -/
theorem shareStart_unique {base remainder index other place : Nat}
    (after : shareStart base remainder index ≤ place)
    (before : place < shareStart base remainder (index + 1))
    (otherAfter : shareStart base remainder other ≤ place)
    (otherBefore : place < shareStart base remainder (other + 1)) : index = other := by
  rcases Nat.lt_trichotomy index other with less | same | greater
  · have later : shareStart base remainder (index + 1) ≤ shareStart base remainder other :=
      shareStart_mono base remainder less
    omega
  · exact same
  · have later : shareStart base remainder (other + 1) ≤ shareStart base remainder index :=
      shareStart_mono base remainder greater
    omega

theorem initializeStaticCpuPartition_exclusive (indexed : Indexed appStates) :
    Exclusive (members eligibleCpus)
      (ownedBy (initializeStaticCpuPartition appStates eligibleCpus)) := by
  constructor
  · intro owner cpu member
    obtain ⟨place, found, _, _⟩ := mem_shareCpus.mp ((mem_ownedBy_static indexed).mp member).2
    exact TreeSet.mem_toList.mp (List.mem_of_getElem? found)
  · intro owner other cpu left right
    obtain ⟨place, found, after, before⟩ :=
      mem_shareCpus.mp ((mem_ownedBy_static indexed).mp left).2
    obtain ⟨place', found', after', before'⟩ :=
      mem_shareCpus.mp ((mem_ownedBy_static indexed).mp right).2
    obtain rfl : place = place' :=
      (List.getElem?_inj (List.getElem?_eq_some_iff.mp found).1 (nodup_toList _)).mp
        (found.trans found'.symm)
    exact shareStart_unique after before after' before'

/-- Every place below the last share's end lies in some share. -/
theorem exists_share {base remainder count place : Nat}
    (within : place < shareStart base remainder count) :
    ∃ index < count, shareStart base remainder index ≤ place ∧
      place < shareStart base remainder (index + 1) := by
  induction count with
  | zero => simp [shareStart] at within
  | succ count ih =>
      rcases Nat.lt_or_ge place (shareStart base remainder count) with earlier | last
      · obtain ⟨index, bound, holds⟩ := ih earlier
        exact ⟨index, Nat.lt_succ_of_lt bound, holds⟩
      · exact ⟨count, Nat.lt_succ_self _, last, within⟩

/-- The shares end with the last CPU. -/
theorem shareStart_last (total : Nat) {count : Nat} (some : count ≠ 0) :
    shareStart (total / count) (total % count) count = total := by
  have rest : total % count ≤ count := (Nat.mod_lt _ (Nat.pos_of_ne_zero some)).le
  rw [shareStart, Nat.min_eq_right rest]
  exact Nat.div_add_mod total count

theorem initializeStaticCpuPartition_covers (indexed : Indexed appStates)
    (apps : appStates ≠ []) {cpu : Nat} (eligible : cpu ∈ eligibleCpus) :
    ∃ index, cpu ∈ ownedBy (initializeStaticCpuPartition appStates eligibleCpus) index := by
  obtain ⟨place, bound, found⟩ := List.getElem_of_mem (TreeSet.mem_toList.mpr eligible)
  have within := bound
  rw [← shareStart_last eligibleCpus.toList.length (List.length_eq_zero_iff.not.mpr apps)] at within
  obtain ⟨index, inTable, after, before⟩ := exists_share within
  exact ⟨index, (mem_ownedBy_static indexed).mpr ⟨inTable, mem_shareCpus.mpr
    ⟨place, List.getElem?_eq_some_iff.mpr ⟨bound, found⟩, after, before⟩⟩⟩

theorem size_staticShare {index : Nat} (bound : index < appStates.length) :
    (TreeSet.ofList (staticShare appStates eligibleCpus index)).size =
      eligibleCpus.toList.length / appStates.length +
        if index < eligibleCpus.toList.length % appStates.length then 1 else 0 := by
  have distinct : (staticShare appStates eligibleCpus index).Pairwise
      fun left right => ¬compare left right = .eq :=
    TreeSet.distinct_toList.sublist ((List.take_sublist _ _).trans (List.drop_sublist _ _))
  have inTable : shareStart (eligibleCpus.toList.length / appStates.length)
      (eligibleCpus.toList.length % appStates.length) (index + 1) ≤ eligibleCpus.toList.length := by
    have last := shareStart_last eligibleCpus.toList.length (Nat.ne_zero_of_lt bound)
    have before := shareStart_mono (eligibleCpus.toList.length / appStates.length)
      (eligibleCpus.toList.length % appStates.length) bound
    exact before.trans last.le
  rw [shareStart_succ] at inTable
  rw [TreeSet.size_ofList distinct, staticShare, shareCpus, List.length_take, List.length_drop]
  exact Nat.min_eq_left (Nat.le_sub_of_add_le' inTable)

theorem initializeStaticCpuPartition_balanced (indexed : Indexed appStates)
    {app other : NsdiAppState}
    (member : app ∈ initializeStaticCpuPartition appStates eligibleCpus)
    (otherMember : other ∈ initializeStaticCpuPartition appStates eligibleCpus) :
    app.ownedCpus.size ≤ other.ownedCpus.size + 1 := by
  have shared : ∀ app ∈ initializeStaticCpuPartition appStates eligibleCpus,
      eligibleCpus.toList.length / appStates.length ≤ app.ownedCpus.size ∧
        app.ownedCpus.size ≤ eligibleCpus.toList.length / appStates.length + 1 := by
    intro app member
    obtain ⟨index, found⟩ := List.mem_iff_getElem?.mp member
    rw [getElem?_initializeStaticCpuPartition indexed, Option.map_eq_some_iff] at found
    obtain ⟨before, found, rfl⟩ := found
    rw [size_staticShare (List.getElem?_eq_some_iff.mp found).1]
    split <;> simp
  have upper := (shared app member).2
  have lower := (shared other otherMember).1
  omega

end Static

/-! ## One call of the controller -/

section Call

variable {appStates : List NsdiAppState} {eligibleCpus : TreeSet Nat}

theorem mem_allOwnedCpus {cpu : Nat} :
    cpu ∈ allOwnedCpus appStates ↔ ∃ app ∈ appStates, cpu ∈ app.ownedCpus :=
  mem_foldl_union

theorem mem_freeCpus {cpu : Nat} (free : cpu ∈ freeCpus appStates eligibleCpus) :
    cpu ∈ members eligibleCpus ∧ ∀ appId, cpu ∉ ownedBy appStates appId := by
  simp only [freeCpus, TreeSet.mem_filter, TreeSet.get_eq, Bool.not_eq_true',
    exists_prop] at free
  refine ⟨free.1, ?_⟩
  rintro appId ⟨app, found, member⟩
  have owned := mem_allOwnedCpus.mpr ⟨app, List.mem_of_getElem? found, member⟩
  rw [TreeSet.mem_iff_contains, free.2] at owned
  cases owned

theorem chooseRevocableCpu_owned {view : OwnedView} {app : NsdiAppState} {cpu : Nat}
    (chosen : chooseRevocableCpu view app = some cpu) : cpu ∈ app.ownedCpus :=
  TreeSet.mem_toList.mp (List.mem_filter.mp (List.argmin_mem chosen)).1

theorem ownedBy_of_found {appId : Nat} {app : NsdiAppState}
    (found : appStates[appId]? = some app) : ownedBy appStates appId = members app.ownedCpus := by
  ext cpu
  exact mem_ownedBy found

theorem ownedBy_modify {appId : Nat} {app : NsdiAppState} (found : appStates[appId]? = some app)
    (change : NsdiAppState → NsdiAppState) :
    ownedBy (appStates.modify appId change) =
      Function.update (ownedBy appStates) appId (members (change app).ownedCpus) := by
  funext other
  by_cases same : other = appId
  · subst same
    simp [ownedBy, members, found]
  · rw [Function.update_of_ne same]
    simp [ownedBy, Ne.symm same]

variable {input : ControllerInput}

theorem ownedBy_removeCpu {appId : Nat} {app : NsdiAppState}
    (found : appStates[appId]? = some app) (cpu : Nat) :
    ownedBy (appStates.modify appId fun app => input.removeCpu app cpu) =
      Function.update (ownedBy appStates) appId (ownedBy appStates appId \ {cpu}) := by
  rw [ownedBy_modify found, ownedBy_of_found found, ← members_erase]
  rfl

theorem ownedBy_insertCpu {appId : Nat} {app : NsdiAppState}
    (found : appStates[appId]? = some app) (cpu : Nat) :
    ownedBy (appStates.modify appId fun app => input.insertCpu app cpu) =
      Function.update (ownedBy appStates) appId (insert cpu (ownedBy appStates appId)) := by
  rw [ownedBy_modify found, ownedBy_of_found found, ← members_insert]
  rfl

/-- What holds while one call of the controller is under way. -/
structure Scaling (start : List NsdiAppState) (eligibleCpus : TreeSet Nat) (state : ScaleState) :
    Prop where
  indexed : Indexed state.appStates
  length : state.appStates.length = start.length
  scaled : Scaled (members eligibleCpus) (ownedBy start) (ownedBy state.appStates)
    (members state.changedApps)
  pool : ∀ cpu ∈ members state.freePool,
    cpu ∈ members eligibleCpus ∧ ∀ appId, cpu ∉ ownedBy state.appStates appId

theorem donor_spec {state : ScaleState} {appId donorId cpu : Nat}
    (indexed : Indexed state.appStates) (found : input.donor state appId = some (donorId, cpu)) :
    appId ≠ donorId ∧ donorId ∉ members state.changedApps ∧ ∃ app,
      state.appStates[donorId]? = some app ∧ cpu ∈ app.ownedCpus := by
  obtain ⟨app, listed, built⟩ := List.mem_filterMap.mp (List.argmin_mem found)
  obtain ⟨other, chosen, same⟩ := Option.map_eq_some_iff.mp built
  obtain ⟨rfl, rfl⟩ := Prod.mk.inj same
  obtain ⟨member, willing⟩ := List.mem_filter.mp listed
  simp only [Bool.and_eq_true, bne_iff_ne, Bool.not_eq_true', ne_eq] at willing
  refine ⟨Ne.symm willing.1.1, ?_, app, indexed.getElem? member, chooseRevocableCpu_owned chosen⟩
  intro changed
  have present := TreeSet.mem_iff_contains.mp changed
  rw [willing.1.2] at present
  cases present

variable {start : List NsdiAppState} {state : ScaleState}

/-- The ways in which one application is asked for a CPU. -/
inductive Release (input : ControllerInput) (state : ScaleState) (appId : Nat) : ScaleState → Prop where
  | kept :
      (∀ app, state.appStates[appId]? = some app → input.mayRelease app = true →
        chooseRevocableCpu input.view app = none) →
      Release input state appId state
  | released {app cpu} :
      state.appStates[appId]? = some app → input.mayRelease app = true →
      chooseRevocableCpu input.view app = some cpu →
      Release input state appId
        { appStates := state.appStates.modify appId fun app => input.removeCpu app cpu
          freePool := state.freePool.insert cpu
          changedApps := state.changedApps.insert appId }

theorem releaseFrom_release (input : ControllerInput) (state : ScaleState) (appId : Nat) :
    Release input state appId (input.releaseFrom state appId) := by
  unfold ControllerInput.releaseFrom
  cases found : state.appStates[appId]? with
  | none =>
      apply Release.kept
      intro app present
      rw [found] at present
      cases present
  | some app =>
      dsimp only
      cases offers : input.mayRelease app with
      | false =>
          apply Release.kept
          intro other same willing
          rw [← Option.some.inj (found.symm.trans same), offers] at willing
          cases willing
      | true =>
          cases chosen : chooseRevocableCpu input.view app with
          | none =>
              apply Release.kept
              intro other same _
              rw [← Option.some.inj (found.symm.trans same)]
              exact chosen
          | some cpu => exact .released found offers chosen

/-- The ways in which a recipient is served. -/
inductive Service (input : ControllerInput) (state : ScaleState) (appId : Nat) : ScaleState → Prop where
  | skipped : appId ∈ members state.changedApps → Service input state appId state
  | pooled {cpu} :
      appId ∉ members state.changedApps → cpu ∈ members state.freePool →
      Service input state appId
        (input.grant { state with freePool := state.freePool.erase cpu } appId cpu)
  | waiting :
      appId ∉ members state.changedApps → (∀ cpu, cpu ∉ members state.freePool) →
      input.donor state appId = none → Service input state appId state
  | moved {donorId cpu} :
      appId ∉ members state.changedApps → (∀ other, other ∉ members state.freePool) →
      input.donor state appId = some (donorId, cpu) →
      Service input state appId (input.grant (input.revoke state donorId cpu) appId cpu)

theorem serve_service (input : ControllerInput) (state : ScaleState) (recipient : Recipient) :
    Service input state recipient.appId (input.serve state recipient) := by
  unfold ControllerInput.serve
  split
  next changed => exact .skipped changed
  next unchanged =>
    have fresh : recipient.appId ∉ members state.changedApps := unchanged
    split
    next cpu least => exact .pooled fresh (TreeSet.contains_min? least)
    next drained =>
      have empty : ∀ cpu, cpu ∉ members state.freePool := by
        intro cpu pooled
        have present : state.freePool.isEmpty = true := TreeSet.min?_eq_none_iff.mp drained
        exact TreeSet.not_mem_of_isEmpty present pooled
      split
      next none => exact .waiting fresh empty none
      next donorId cpu found => exact .moved fresh empty found

theorem Scaling.revoke (scaling : Scaling start eligibleCpus state) {appId cpu : Nat}
    {app : NsdiAppState} (fresh : appId ∉ members state.changedApps)
    (found : state.appStates[appId]? = some app) (owned : cpu ∈ app.ownedCpus) :
    Scaling start eligibleCpus (input.revoke state appId cpu) := by
  constructor
  · exact scaling.indexed.modify appId fun _ => rfl
  · exact (List.length_modify _ _ _).trans scaling.length
  · simp only [ControllerInput.revoke]
    rw [ownedBy_removeCpu found, members_insert]
    exact scaling.scaled.release fresh ((mem_ownedBy found).mpr owned)
  · intro other pooled
    refine ⟨(scaling.pool other pooled).1, ?_⟩
    simp only [ControllerInput.revoke]
    rw [ownedBy_removeCpu found]
    intro owner held
    exact (scaling.pool other pooled).2 owner (mem_update_diff.mp held).1

/-- A CPU that its application has just given up is free. -/
theorem Scaling.revoked (scaling : Scaling start eligibleCpus state)
    (initial : Exclusive (members eligibleCpus) (ownedBy start)) {appId cpu : Nat}
    {app : NsdiAppState} (found : state.appStates[appId]? = some app)
    (owned : cpu ∈ app.ownedCpus) :
    cpu ∈ members eligibleCpus ∧
      ∀ other, cpu ∉ ownedBy (input.revoke state appId cpu).appStates other := by
  simp only [ControllerInput.revoke]
  rw [ownedBy_removeCpu found]
  exact (scaling.scaled.exclusive initial).released ((mem_ownedBy found).mpr owned)

theorem Scaling.grant (scaling : Scaling start eligibleCpus state) {appId cpu : Nat}
    (fresh : appId ∉ members state.changedApps) (bound : appId < start.length)
    (free : cpu ∈ members eligibleCpus ∧ ∀ other, cpu ∉ ownedBy state.appStates other)
    (taken : cpu ∉ members state.freePool) :
    Scaling start eligibleCpus (input.grant state appId cpu) := by
  have found : state.appStates[appId]? = some _ :=
    List.getElem?_eq_getElem (scaling.length ▸ bound)
  constructor
  · exact scaling.indexed.modify _ fun _ => rfl
  · exact (List.length_modify _ _ _).trans scaling.length
  · simp only [ControllerInput.grant]
    rw [ownedBy_insertCpu found, members_insert]
    exact scaling.scaled.grant fresh free.1 free.2
  · intro other pooled
    refine ⟨(scaling.pool other pooled).1, ?_⟩
    simp only [ControllerInput.grant]
    rw [ownedBy_insertCpu found]
    intro owner held
    rcases mem_update_insert.mp held with before | ⟨_, same⟩
    · exact (scaling.pool other pooled).2 owner before
    · exact taken (same ▸ pooled)

theorem Scaling.changePool (scaling : Scaling start eligibleCpus state) {freePool : TreeSet Nat}
    (pool : ∀ cpu ∈ members freePool,
      cpu ∈ members eligibleCpus ∧ ∀ appId, cpu ∉ ownedBy state.appStates appId) :
    Scaling start eligibleCpus { state with freePool } :=
  ⟨scaling.indexed, scaling.length, scaling.scaled, pool⟩

theorem Scaling.releaseFrom (scaling : Scaling start eligibleCpus state)
    (initial : Exclusive (members eligibleCpus) (ownedBy start)) {appId : Nat}
    (fresh : appId ∉ members state.changedApps) :
    Scaling start eligibleCpus (input.releaseFrom state appId) := by
  have release := releaseFrom_release input state appId
  generalize input.releaseFrom state appId = after at release
  cases release with
  | kept _ => exact scaling
  | @released app cpu found _ chosen =>
      have owned := chooseRevocableCpu_owned chosen
      have revoked : Scaling start eligibleCpus (input.revoke state appId cpu) :=
        scaling.revoke fresh found owned
      refine revoked.changePool ?_
      intro other member
      rw [members_insert, Set.mem_insert_iff] at member
      cases member with
      | inl same =>
          rw [same]
          exact scaling.revoked initial found owned
      | inr pooled => exact revoked.pool other pooled

theorem Scaling.serve (scaling : Scaling start eligibleCpus state)
    (initial : Exclusive (members eligibleCpus) (ownedBy start)) {recipient : Recipient}
    (bound : recipient.appId < start.length) :
    Scaling start eligibleCpus (input.serve state recipient) := by
  have service := serve_service input state recipient
  generalize input.serve state recipient = after at service
  cases service with
  | skipped _ => exact scaling
  | @pooled cpu fresh member =>
      have free := scaling.pool cpu member
      have popped : Scaling start eligibleCpus
          { state with freePool := state.freePool.erase cpu } := by
        refine scaling.changePool ?_
        intro other pooled
        rw [members_erase] at pooled
        exact scaling.pool other pooled.1
      refine popped.grant fresh bound free ?_
      simp [members_erase]
  | waiting _ _ _ => exact scaling
  | @moved donorId cpu fresh empty chosen =>
      obtain ⟨different, donorFresh, donor, found, owned⟩ := donor_spec scaling.indexed chosen
      have revoked : Scaling start eligibleCpus (input.revoke state donorId cpu) :=
        scaling.revoke donorFresh found owned
      refine revoked.grant ?_ bound (scaling.revoked initial found owned) (empty cpu)
      simp only [ControllerInput.revoke]
      rw [members_insert, Set.mem_insert_iff, not_or]
      exact ⟨different, fresh⟩

theorem releaseFrom_changed {appId other : Nat}
    (changed : other ∈ members (input.releaseFrom state appId).changedApps) :
    other = appId ∨ other ∈ members state.changedApps := by
  have release := releaseFrom_release input state appId
  generalize input.releaseFrom state appId = after at release changed
  cases release with
  | kept _ => exact .inr changed
  | released _ _ _ =>
      rw [members_insert, Set.mem_insert_iff] at changed
      exact changed

/-- Every application is asked once, so none has changed when it is asked. -/
theorem Scaling.releasePhase {appStates : List NsdiAppState} (indexed : Indexed appStates)
    (initial : Exclusive (members eligibleCpus) (ownedBy appStates)) :
    Scaling appStates eligibleCpus (input.releasePhase appStates eligibleCpus) := by
  have untouched : members (∅ : TreeSet Nat) = ∅ := by
    ext appId
    simp [members]
  suffices asked : Scaling appStates eligibleCpus (input.releasePhase appStates eligibleCpus) ∧
      ∀ appId ∈ members (input.releasePhase appStates eligibleCpus).changedApps,
        appId ∈ List.range appStates.length from asked.1
  refine foldl_prefix_invariant (fun done state => Scaling appStates eligibleCpus state ∧
      ∀ appId ∈ members state.changedApps, appId ∈ done) ⟨?_, ?_⟩ ?_
  · refine ⟨indexed, rfl, ?_, fun cpu free => mem_freeCpus free⟩
    rw [untouched]
    exact .start
  · rw [untouched]
    exact fun _ changed => False.elim changed
  · rintro done appId rest state split ⟨scaling, earlier⟩
    have fresh : appId ∉ done := by
      have unique : (done ++ appId :: rest).Nodup := split ▸ List.nodup_range
      intro repeated
      exact (List.nodup_append.mp unique).2.2 appId repeated appId List.mem_cons_self rfl
    refine ⟨scaling.releaseFrom initial fun changed => fresh (earlier appId changed), ?_⟩
    intro other changed
    rw [List.mem_append, List.mem_singleton]
    rcases releaseFrom_changed changed with rfl | before
    · exact .inr rfl
    · exact .inl (earlier other before)

theorem Scaling.scale {appStates : List NsdiAppState} (indexed : Indexed appStates)
    (initial : Exclusive (members eligibleCpus) (ownedBy appStates)) :
    Scaling appStates eligibleCpus (input.scale appStates eligibleCpus) := by
  have released : Scaling appStates eligibleCpus (input.releasePhase appStates eligibleCpus) :=
    Scaling.releasePhase indexed initial
  refine List.foldlRecOn _ _ (motive := Scaling appStates eligibleCpus) released ?_
  intro state scaling recipient member
  refine scaling.serve initial ?_
  simp only [ControllerInput.recipients, List.mem_insertionSort, List.mem_map, List.mem_filter] at member
  obtain ⟨app, ⟨listed, _⟩, rfl⟩ := member
  have found := released.indexed.getElem? listed
  exact released.length ▸ (List.getElem?_eq_some_iff.mp found).1

/-- A call keeps ownership exclusive and changes every application by at most
one CPU. -/
theorem maybeRunDelayRangeController_owned (input : ControllerInput) {appStates : List NsdiAppState}
    (indexed : Indexed appStates)
    (initial : Exclusive (members eligibleCpus) (ownedBy appStates)) :
    Indexed (input.maybeRunDelayRangeController appStates eligibleCpus).1 ∧
      Exclusive (members eligibleCpus)
        (ownedBy (input.maybeRunDelayRangeController appStates eligibleCpus).1) ∧
      ∀ appId, OneChange (ownedBy appStates appId)
        (ownedBy (input.maybeRunDelayRangeController appStates eligibleCpus).1 appId) := by
  unfold ControllerInput.maybeRunDelayRangeController
  split
  · exact ⟨indexed, initial, fun _ => .refl _⟩
  · have scaling : Scaling appStates eligibleCpus (input.scale appStates eligibleCpus) :=
      Scaling.scale indexed initial
    exact ⟨scaling.indexed, scaling.scaled.exclusive initial, scaling.scaled.oneChange⟩

end Call

/-! ## Runs of the controller -/

section Runs

variable {appStates : List NsdiAppState} {eligibleCpus : TreeSet Nat}

theorem ownedBy_measure (metrics : Nat → PendingMetrics) :
    ownedBy (appStates.map (measure metrics)) = ownedBy appStates := by
  funext appId
  ext cpu
  simp [ownedBy, measure]

/-- Applications under exclusive ownership. -/
structure Owned (eligibleCpus : TreeSet Nat) (appStates : List NsdiAppState) : Prop where
  indexed : Indexed appStates
  exclusive : Exclusive (members eligibleCpus) (ownedBy appStates)

theorem controllerStep_owned (owned : Owned eligibleCpus appStates) (call : ControllerCall) :
    Owned eligibleCpus (controllerStep eligibleCpus appStates call) ∧
      ∀ appId, OneChange (ownedBy appStates appId)
        (ownedBy (controllerStep eligibleCpus appStates call) appId) := by
  have indexed : Indexed (appStates.map (measure call.metrics)) := owned.indexed.map fun _ => rfl
  have exclusive := owned.exclusive
  rw [← ownedBy_measure call.metrics] at exclusive
  obtain ⟨indexedAfter, exclusiveAfter, changes⟩ :=
    maybeRunDelayRangeController_owned call.toControllerInput indexed exclusive
  rw [ownedBy_measure] at changes
  exact ⟨⟨indexedAfter, exclusiveAfter⟩, changes⟩

theorem controllerRun_owned (owned : Owned eligibleCpus appStates) (calls : List ControllerCall) :
    Owned eligibleCpus (controllerRun eligibleCpus appStates calls) := by
  induction calls generalizing appStates with
  | nil => exact owned
  | cons call rest ih => exact ih (controllerStep_owned owned call).1

theorem initializeStaticCpuPartition_owned (indexed : Indexed appStates) :
    Owned eligibleCpus (initializeStaticCpuPartition appStates eligibleCpus) := by
  refine ⟨?_, initializeStaticCpuPartition_exclusive indexed⟩
  intro index app found
  rw [getElem?_initializeStaticCpuPartition indexed, Option.map_eq_some_iff] at found
  obtain ⟨before, found, rfl⟩ := found
  exact indexed index before found

theorem owned_of_empty (indexed : Indexed appStates)
    (empty : ∀ app ∈ appStates, app.ownedCpus.isEmpty) : Owned eligibleCpus appStates := by
  refine ⟨indexed, .empty ?_⟩
  rintro appId cpu ⟨app, found, member⟩
  exact TreeSet.not_mem_of_isEmpty (empty app (List.mem_of_getElem? found)) member

/-- The table of applications before the first call. -/
inductive InitialOwnership (eligibleCpus : TreeSet Nat) (appStates : List NsdiAppState) :
    List NsdiAppState → Prop where
  | partitioned : InitialOwnership eligibleCpus appStates
      (initializeStaticCpuPartition appStates eligibleCpus)
  | unowned : (∀ app ∈ appStates, app.ownedCpus.isEmpty) →
      InitialOwnership eligibleCpus appStates appStates

/-- CPUs are never owned twice nor outside the eligible set, a call of the
controller moves at most one CPU in or out of each application, and the static
partition deals out every eligible CPU in shares of nearly equal size. -/
theorem controllerRun_ownership (appStates : List NsdiAppState) (eligibleCpus : TreeSet Nat)
    (indexed : Indexed appStates) :
    (∀ start, InitialOwnership eligibleCpus appStates start → ∀ calls : List ControllerCall,
      Exclusive (members eligibleCpus) (ownedBy (controllerRun eligibleCpus start calls)) ∧
      ∀ (call : ControllerCall) (appId : Nat),
        OneChange (ownedBy (controllerRun eligibleCpus start calls) appId)
          (ownedBy (controllerRun eligibleCpus start (calls ++ [call])) appId)) ∧
    (appStates ≠ [] → ∀ cpu ∈ eligibleCpus, ∃ appId,
      cpu ∈ ownedBy (initializeStaticCpuPartition appStates eligibleCpus) appId) ∧
    ∀ app ∈ initializeStaticCpuPartition appStates eligibleCpus,
      ∀ other ∈ initializeStaticCpuPartition appStates eligibleCpus,
        app.ownedCpus.size ≤ other.ownedCpus.size + 1 := by
  refine ⟨?_, ?_, ?_⟩
  · intro start initial calls
    have owned : Owned eligibleCpus start := by
      cases initial with
      | partitioned => exact initializeStaticCpuPartition_owned indexed
      | unowned empty => exact owned_of_empty indexed empty
    have running := controllerRun_owned owned calls
    refine ⟨running.exclusive, ?_⟩
    intro call appId
    have next : controllerRun eligibleCpus start (calls ++ [call]) =
        controllerStep eligibleCpus (controllerRun eligibleCpus start calls) call :=
      List.foldl_append
    rw [next]
    exact (controllerStep_owned running call).2 appId
  · intro apps cpu eligible
    exact initializeStaticCpuPartition_covers indexed apps eligible
  · intro app member other otherMember
    exact initializeStaticCpuPartition_balanced indexed member otherMember

/-- Two applications without CPUs, and a call of the controller that asks both
to release one. -/
def pairApps : List NsdiAppState :=
  [{ id := 0, rootPid := 10, ownedCpus := ∅ }, { id := 1, rootPid := 11, ownedCpus := ∅ }]

def pairCpus : TreeSet Nat := .ofList [0, 1, 2, 3, 4]

def pairCall : ControllerCall where
  view := ⟨[], [], [], Planner.samplePolicy⟩
  cfg := ⟨.delayRange, 500, 2000⟩
  nowNs := 1000000
  metrics _ := ⟨0, 0⟩

theorem pairApps_indexed : Indexed pairApps := by
  intro index app found
  match index with
  | 0 => obtain rfl := Option.some.inj found; rfl
  | 1 => obtain rfl := Option.some.inj found; rfl
  | _ + 2 => cases found

theorem controllerRun_ownership_pair :
    Exclusive (members pairCpus) (ownedBy (controllerRun pairCpus
        (initializeStaticCpuPartition pairApps pairCpus) [pairCall])) ∧
      ∃ appId, 4 ∈ ownedBy (initializeStaticCpuPartition pairApps pairCpus) appId :=
  ⟨((controllerRun_ownership pairApps pairCpus pairApps_indexed).1 _ .partitioned [pairCall]).1,
    (controllerRun_ownership pairApps pairCpus pairApps_indexed).2.1 (List.cons_ne_nil _ _) 4
      (TreeSet.mem_ofList.mpr (by decide))⟩

/-- Without applications the partition returns at once and deals out nothing. -/
theorem initializeStaticCpuPartition_no_apps :
    ¬∃ appId, 0 ∈ ownedBy (initializeStaticCpuPartition [] (.ofList [0])) appId := by
  rintro ⟨appId, app, found, _⟩
  cases found

end Runs

end CSwitch.Nsdi
