import CSwitch.Nsdi.ControllerProperties

/-! The NSDI controller starves no one: an application with pending tasks keeps a
CPU, asks in vain only when every eligible CPU is owned, and gives way only to
applications that are served before it. -/

set_option autoImplicit false

namespace CSwitch.Nsdi

open Std (TreeMap TreeSet)
open Policy Library

/-- An application asks for a CPU. -/
def Asks (input : ControllerInput) (app : NsdiAppState) : Prop :=
  0 < app.pendingTasks ∧
    (app.ownedCpus.isEmpty = true ∨ input.cfg.delayHighUs < app.pendingDelayEwmaUs)

/-- Its place in the order of service. -/
def recipientOf (app : NsdiAppState) : Recipient :=
  ⟨app.ownedCpus.isEmpty, app.pendingDelayEwmaUs, app.id⟩

/-- An application would give up a CPU, and has one that it can give up. -/
def Willing (input : ControllerInput) (app : NsdiAppState) : Prop :=
  input.mayRelease app = true ∧ (chooseRevocableCpu input.view app).isSome

section Call

variable {input : ControllerInput} {start : List NsdiAppState} {eligibleCpus : TreeSet Nat}
  {state : ScaleState}

theorem mem_recipients {appStates : List NsdiAppState} {recipient : Recipient} :
    recipient ∈ input.recipients appStates ↔
      ∃ app ∈ appStates, Asks input app ∧ recipientOf app = recipient := by
  simp [ControllerInput.recipients, Asks, recipientOf, and_assoc]

theorem recipients_sorted (input : ControllerInput) (appStates : List NsdiAppState) :
    (input.recipients appStates).Pairwise Recipient.le := by
  have total : Std.Total Recipient.le := ⟨fun _ _ => le_total _ _⟩
  have transitive : IsTrans Recipient Recipient.le := ⟨fun _ _ _ first second => first.trans second⟩
  exact List.pairwise_insertionSort _ _

/-- An application that has tasks pending keeps a CPU when it releases one. -/
theorem keeps_of_mayRelease {app : NsdiAppState} (released : input.mayRelease app = true)
    (pending : 0 < app.pendingTasks) (cpu : Nat) : (app.ownedCpus.erase cpu).isEmpty = false := by
  unfold ControllerInput.mayRelease at released
  have several : 1 < app.ownedCpus.size := by
    simp only [Bool.and_eq_true, Bool.not_eq_true', Bool.and_eq_false_iff, decide_eq_false_iff_not,
      not_lt, gt_iff_lt, not_le] at released
    omega
  have smaller := TreeSet.size_le_size_erase (t := app.ownedCpus) (k := cpu)
  rw [TreeSet.isEmpty_eq_size_eq_zero, beq_eq_false_iff_ne]
  omega

theorem getElem?_modify_other {appStates : List NsdiAppState} {appId other : Nat}
    (different : other ≠ appId) (change : NsdiAppState → NsdiAppState) :
    (appStates.modify appId change)[other]? = appStates[other]? := by
  simp [different.symm]

theorem mem_freeCpus_of {appStates : List NsdiAppState} {cpu : Nat}
    (free : cpu ∈ eligibleCpus ∧ ∀ appId, cpu ∉ ownedBy appStates appId) :
    cpu ∈ freeCpus appStates eligibleCpus := by
  simp only [freeCpus, TreeSet.mem_filter, TreeSet.get_eq, Bool.not_eq_true', exists_prop]
  refine ⟨free.1, ?_⟩
  rw [← Bool.not_eq_true, ← TreeSet.mem_iff_contains, mem_allOwnedCpus]
  intro owned
  obtain ⟨app, member, held⟩ := owned
  obtain ⟨index, found⟩ := List.mem_iff_getElem?.mp member
  exact free.2 index ⟨app, found, held⟩

/-- The same application before and after: its tasks are the same, and with tasks
pending it does not lose its last CPU. -/
structure Sustained (before after : NsdiAppState) : Prop where
  pending : after.pendingTasks = before.pendingTasks
  keeps : 0 < before.pendingTasks → before.ownedCpus.isEmpty = false →
    after.ownedCpus.isEmpty = false

/-- What holds all through one call, with every change so far. -/
structure Moving (start : List NsdiAppState) (eligibleCpus : TreeSet Nat) (state : ScaleState) :
    Prop where
  indexed : Indexed state.appStates
  length : state.appStates.length = start.length
  scaled : Scaled Set.univ (ownedBy start) (ownedBy state.appStates) (members state.changedApps)
  untouched : ∀ appId ∉ members state.changedApps, state.appStates[appId]? = start[appId]?
  sustained : ∀ (appId : Nat) (before : NsdiAppState), start[appId]? = some before →
    ∃ after, state.appStates[appId]? = some after ∧ Sustained before after
  free : ∀ cpu ∈ members state.freePool, ∀ appId, cpu ∉ ownedBy state.appStates appId
  covered : ∀ cpu ∈ eligibleCpus,
    cpu ∈ members state.freePool ∨ ∃ appId, cpu ∈ ownedBy state.appStates appId

/-- One application changes, and its CPUs and the pool make up for each other. -/
theorem Moving.change (moving : Moving start eligibleCpus state) {appId : Nat} {app : NsdiAppState}
    (found : state.appStates[appId]? = some app) {change : NsdiAppState → NsdiAppState}
    (sameId : ∀ other, (change other).id = other.id)
    (samePending : (change app).pendingTasks = app.pendingTasks)
    (keeps : 0 < app.pendingTasks → app.ownedCpus.isEmpty = false →
      (change app).ownedCpus.isEmpty = false)
    {freePool : TreeSet Nat}
    (scaled : Scaled Set.univ (ownedBy start) (ownedBy (state.appStates.modify appId change))
      (insert appId (members state.changedApps)))
    (free : ∀ cpu ∈ members freePool, ∀ other,
      cpu ∉ ownedBy (state.appStates.modify appId change) other)
    (covered : ∀ cpu ∈ eligibleCpus, cpu ∈ members freePool ∨
      ∃ other, cpu ∈ ownedBy (state.appStates.modify appId change) other) :
    Moving start eligibleCpus
      ⟨state.appStates.modify appId change, freePool, state.changedApps.insert appId⟩ := by
  constructor
  · exact moving.indexed.modify appId sameId
  · exact (List.length_modify _ _ _).trans moving.length
  · rw [members_insert]
    exact scaled
  · intro other still
    rw [members_insert, Set.mem_insert_iff, not_or] at still
    exact (getElem?_modify_other still.1 change).trans (moving.untouched other still.2)
  · intro other before initial
    obtain ⟨after, same, sustained⟩ := moving.sustained other before initial
    by_cases mine : other = appId
    · subst mine
      obtain rfl := Option.some.inj (found.symm.trans same)
      refine ⟨change app, by simp [found], samePending.trans sustained.pending, ?_⟩
      intro pending some
      exact keeps (sustained.pending ▸ pending) (sustained.keeps pending some)
    · exact ⟨after, (getElem?_modify_other mine change).trans same, sustained⟩
  · exact free
  · exact covered

/-! ## Release -/

theorem Moving.revoke (moving : Moving start eligibleCpus state)
    (apart : Exclusive Set.univ (ownedBy start)) {appId cpu : Nat} {app : NsdiAppState}
    (fresh : appId ∉ members state.changedApps) (found : state.appStates[appId]? = some app)
    (released : input.mayRelease app = true) (held : cpu ∈ app.ownedCpus) :
    Moving start eligibleCpus
      { appStates := state.appStates.modify appId fun app => input.removeCpu app cpu
        freePool := state.freePool.insert cpu
        changedApps := state.changedApps.insert appId } := by
  have owned := (mem_ownedBy found).mpr held
  have sameId : ∀ other, (input.removeCpu other cpu).id = other.id := fun _ => rfl
  refine moving.change found sameId rfl ?_ ?_ ?_ ?_
  · exact fun pending _ => keeps_of_mayRelease released pending cpu
  · rw [ownedBy_removeCpu found]
    exact moving.scaled.release fresh owned
  · intro other pooled
    rw [members_insert, Set.mem_insert_iff] at pooled
    rw [ownedBy_removeCpu found]
    rcases pooled with rfl | pooled
    · exact ((moving.scaled.exclusive apart).released owned).2
    · intro owner kept
      exact moving.free other pooled owner (mem_update_diff.mp kept).1
  · intro other eligible
    rw [members_insert, Set.mem_insert_iff]
    by_cases same : other = cpu
    · exact .inl (.inl same)
    · rcases moving.covered other eligible with pooled | ⟨owner, kept⟩
      · exact .inl (.inr pooled)
      · refine .inr ⟨owner, ?_⟩
        rw [ownedBy_removeCpu found]
        exact mem_update_diff.mpr ⟨kept, fun _ => same⟩

/-- The release phase under way: whoever has been asked and has not changed would
not give up a CPU, and no one has gained any. -/
structure Releasing (input : ControllerInput) (start : List NsdiAppState)
    (eligibleCpus : TreeSet Nat) (done : List Nat) (state : ScaleState) : Prop where
  moving : Moving start eligibleCpus state
  asked : ∀ appId ∈ members state.changedApps, appId ∈ done
  unwilling : ∀ appId ∈ done, appId ∉ members state.changedApps →
    ∀ app, start[appId]? = some app → ¬Willing input app
  lost : ∀ appId, ownedBy state.appStates appId ⊆ ownedBy start appId

theorem Releasing.skip {done : List Nat} {appId : Nat}
    (releasing : Releasing input start eligibleCpus done state) (fresh : appId ∉ done)
    (refuses : ∀ app, state.appStates[appId]? = some app → ¬Willing input app) :
    Releasing input start eligibleCpus (done ++ [appId]) state := by
  constructor
  · exact releasing.moving
  · intro other changed
    exact List.mem_append_left _ (releasing.asked other changed)
  · intro other member still app found
    rcases List.mem_append.mp member with before | here
    · exact releasing.unwilling other before still app found
    · obtain rfl := List.mem_singleton.mp here
      exact refuses app ((releasing.moving.untouched other still).trans found)
  · exact releasing.lost

theorem Releasing.releaseFrom {done : List Nat} {appId : Nat}
    (releasing : Releasing input start eligibleCpus done state)
    (apart : Exclusive Set.univ (ownedBy start)) (fresh : appId ∉ done) :
    Releasing input start eligibleCpus (done ++ [appId]) (input.releaseFrom state appId) := by
  have release := releaseFrom_release input state appId
  generalize input.releaseFrom state appId = after at release
  cases release with
  | kept refuses =>
      apply releasing.skip fresh
      intro app found willing
      have chosen := willing.2
      rw [refuses app found willing.1] at chosen
      cases chosen
  | @released app cpu found released chosen =>
      have still : appId ∉ members state.changedApps :=
        fun changed => fresh (releasing.asked appId changed)
      constructor
      · exact releasing.moving.revoke apart still found released (chooseRevocableCpu_owned chosen)
      · intro other changed
        rw [members_insert, Set.mem_insert_iff] at changed
        rcases changed with rfl | changed
        · exact List.mem_append_right done List.mem_cons_self
        · exact List.mem_append_left _ (releasing.asked other changed)
      · intro other member unchanged
        rw [members_insert, Set.mem_insert_iff, not_or] at unchanged
        rcases List.mem_append.mp member with before | here
        · exact releasing.unwilling other before unchanged.2
        · exact absurd (List.mem_singleton.mp here) unchanged.1
      · intro other kept held
        dsimp only at held
        rw [ownedBy_removeCpu found] at held
        exact releasing.lost other (mem_update_diff.mp held).1

theorem releasePhase_releasing (indexed : Indexed start)
    (apart : Exclusive Set.univ (ownedBy start)) :
    Releasing input start eligibleCpus (List.range start.length)
      (input.releasePhase start eligibleCpus) := by
  have untouched : members (∅ : TreeSet Nat) = ∅ := by
    ext appId
    simp [members]
  refine foldl_prefix_invariant _ ?_ ?_
  · refine ⟨⟨indexed, rfl, ?_, fun _ _ => rfl, ?_, fun cpu free => (mem_freeCpus free).2, ?_⟩,
      ?_, by simp, fun _ _ held => held⟩
    · rw [untouched]
      exact .start
    · exact fun appId before found => ⟨before, found, rfl, fun _ some => some⟩
    · intro cpu eligible
      by_cases owned : ∃ appId, cpu ∈ ownedBy start appId
      · exact .inr owned
      · refine .inl (mem_freeCpus_of ⟨eligible, ?_⟩)
        exact fun appId held => owned ⟨appId, held⟩
    · rw [untouched]
      exact fun _ changed => False.elim changed
  · intro done appId rest state split releasing
    apply releasing.releaseFrom apart
    intro repeated
    have unique : (done ++ appId :: rest).Nodup := split ▸ List.nodup_range
    exact (List.nodup_append.mp unique).2.2 appId repeated appId List.mem_cons_self rfl

/-! ## Service -/

theorem Moving.grant (moving : Moving start eligibleCpus state) {appId cpu : Nat}
    {app : NsdiAppState} (fresh : appId ∉ members state.changedApps)
    (found : state.appStates[appId]? = some app) (pooled : cpu ∈ members state.freePool) :
    Moving start eligibleCpus
      (input.grant { state with freePool := state.freePool.erase cpu } appId cpu) := by
  have sameId : ∀ other, (input.insertCpu other cpu).id = other.id := fun _ => rfl
  have unowned := moving.free cpu pooled
  refine moving.change found sameId rfl ?_ ?_ ?_ ?_
  · intro _ _
    exact TreeSet.isEmpty_insert
  · rw [ownedBy_insertCpu found]
    exact moving.scaled.grant fresh (Set.mem_univ cpu) unowned
  · intro other still owner held
    rw [members_erase] at still
    rw [ownedBy_insertCpu found] at held
    rcases mem_update_insert.mp held with before | ⟨_, same⟩
    · exact moving.free other still.1 owner before
    · exact still.2 same
  · intro other eligible
    rw [members_erase]
    by_cases same : other = cpu
    · refine .inr ⟨appId, ?_⟩
      rw [ownedBy_insertCpu found]
      exact mem_update_insert.mpr (.inr ⟨rfl, same⟩)
    · rcases moving.covered other eligible with pooled | ⟨owner, held⟩
      · exact .inl ⟨pooled, same⟩
      · refine .inr ⟨owner, ?_⟩
        rw [ownedBy_insertCpu found]
        exact mem_update_insert.mpr (.inl held)

/-- A donor has not changed and is willing, so there is none where all who have not
changed are unwilling. -/
theorem donor_eq_none (indexed : Indexed state.appStates)
    (unwilling : ∀ appId ∉ members state.changedApps, ∀ app, state.appStates[appId]? = some app →
      ¬Willing input app) (appId : Nat) :
    input.donor state appId = none := by
  unfold ControllerInput.donor
  rw [List.argmin_eq_none, List.filterMap_eq_nil_iff]
  intro app listed
  obtain ⟨member, offers⟩ := List.mem_filter.mp listed
  simp only [Bool.and_eq_true, bne_iff_ne, Bool.not_eq_true', ne_eq] at offers
  have still : app.id ∉ members state.changedApps := by
    intro changed
    have present := TreeSet.mem_iff_contains.mp changed
    rw [offers.1.2] at present
    cases present
  cases chosen : chooseRevocableCpu input.view app with
  | none => rfl
  | some cpu =>
      have willing : Willing input app := ⟨offers.2, by rw [chosen]; rfl⟩
      exact absurd willing (unwilling app.id still app (indexed.getElem? member))

/-- The service under way. A recipient served in vain leaves an empty pool, and
who has gained a CPU was served before everyone who waits. -/
structure Serving (input : ControllerInput) (start : List NsdiAppState)
    (eligibleCpus : TreeSet Nat) (released : ScaleState) (done : List Recipient)
    (state : ScaleState) : Prop where
  moving : Moving start eligibleCpus state
  grown : ∀ appId ∈ members released.changedApps, appId ∈ members state.changedApps
  waits : ∀ waiting ∈ done, waiting.appId ∉ members state.changedApps →
    ∀ cpu, cpu ∉ members state.freePool
  gained : ∀ appId, ∀ cpu ∈ ownedBy state.appStates appId, cpu ∉ ownedBy start appId →
    ∃ granted ∈ done, granted.appId = appId ∧ appId ∉ members released.changedApps ∧
      ∀ waiting ∈ done, waiting.appId ∉ members state.changedApps → granted.le waiting

theorem Serving.skip {released : ScaleState} {done : List Recipient} {recipient : Recipient}
    (serving : Serving input start eligibleCpus released done state)
    (later : ∀ earlier ∈ done, earlier.le recipient)
    (empty : recipient.appId ∉ members state.changedApps → ∀ cpu, cpu ∉ members state.freePool) :
    Serving input start eligibleCpus released (done ++ [recipient]) state := by
  constructor
  · exact serving.moving
  · exact serving.grown
  · intro waiting member still
    rcases List.mem_append.mp member with before | here
    · exact serving.waits waiting before still
    · obtain rfl := List.mem_singleton.mp here
      exact empty still
  · intro appId cpu held new
    obtain ⟨granted, member, same, fresh, first⟩ := serving.gained appId cpu held new
    refine ⟨granted, List.mem_append_left _ member, same, fresh, ?_⟩
    intro waiting listed still
    rcases List.mem_append.mp listed with before | here
    · exact first waiting before still
    · obtain rfl := List.mem_singleton.mp here
      exact later granted member

theorem Serving.serve {released : ScaleState} {done : List Recipient} {recipient : Recipient}
    (serving : Serving input start eligibleCpus released done state)
    (unwilling : ∀ appId ∉ members released.changedApps, ∀ app, start[appId]? = some app →
      ¬Willing input app)
    (later : ∀ earlier ∈ done, earlier.le recipient)
    (known : (state.appStates[recipient.appId]?).isSome) :
    Serving input start eligibleCpus released (done ++ [recipient])
      (input.serve state recipient) := by
  have refuse : ∀ appId ∉ members state.changedApps, ∀ app,
      state.appStates[appId]? = some app → ¬Willing input app := by
    intro appId still app found
    rw [serving.moving.untouched appId still] at found
    exact unwilling appId (fun changed => still (serving.grown appId changed)) app found
  have service := serve_service input state recipient
  generalize input.serve state recipient = after at service
  cases service with
  | skipped changed => exact serving.skip later fun still => absurd changed still
  | waiting _ empty _ => exact serving.skip later fun _ => empty
  | moved _ _ donor =>
      rw [donor_eq_none serving.moving.indexed refuse] at donor
      cases donor
  | @pooled cpu fresh pooled =>
      obtain ⟨app, found⟩ := Option.isSome_iff_exists.mp known
      -- a CPU is left, so no one waits yet
      have nobody : ∀ waiting ∈ done, waiting.appId ∈ members state.changedApps := by
        intro waiting member
        by_contra still
        exact serving.waits waiting member still cpu pooled
      have served : ∀ waiting ∈ done ++ [recipient],
          waiting.appId ∈ insert recipient.appId (members state.changedApps) := by
        intro waiting member
        rcases List.mem_append.mp member with before | here
        · exact Set.mem_insert_of_mem _ (nobody waiting before)
        · obtain rfl := List.mem_singleton.mp here
          exact Set.mem_insert _ _
      constructor
      · exact serving.moving.grant fresh found pooled
      · intro appId changed
        simp only [ControllerInput.grant]
        rw [members_insert]
        exact Set.mem_insert_of_mem _ (serving.grown appId changed)
      · intro waiting member still
        simp only [ControllerInput.grant] at still
        rw [members_insert] at still
        exact absurd (served waiting member) still
      · intro appId other held new
        simp only [ControllerInput.grant] at held ⊢
        rw [ownedBy_insertCpu found] at held
        rw [members_insert]
        rcases mem_update_insert.mp held with before | ⟨rfl, _⟩
        · obtain ⟨granted, member, same, outside, _⟩ := serving.gained appId other before new
          exact ⟨granted, List.mem_append_left _ member, same, outside,
            fun waiting listed still => absurd (served waiting listed) still⟩
        · exact ⟨recipient, List.mem_append_right done List.mem_cons_self, rfl,
            fun changed => fresh (serving.grown _ changed),
            fun waiting listed still => absurd (served waiting listed) still⟩

theorem scale_serving (indexed : Indexed start) (apart : Exclusive Set.univ (ownedBy start)) :
    Serving input start eligibleCpus (input.releasePhase start eligibleCpus)
      (input.recipients (input.releasePhase start eligibleCpus).appStates)
      (input.scale start eligibleCpus) := by
  have releasing : Releasing input start eligibleCpus (List.range start.length)
      (input.releasePhase start eligibleCpus) := releasePhase_releasing indexed apart
  have unwilling : ∀ appId ∉ members (input.releasePhase start eligibleCpus).changedApps,
      ∀ app, start[appId]? = some app → ¬Willing input app := by
    intro appId still app found
    have bound := (List.getElem?_eq_some_iff.mp found).1
    exact releasing.unwilling appId (List.mem_range.mpr bound) still app found
  unfold ControllerInput.scale
  dsimp only
  generalize input.releasePhase start eligibleCpus = released at releasing unwilling ⊢
  refine foldl_prefix_invariant _ ?_ ?_
  · refine ⟨releasing.moving, fun _ changed => changed, by simp, ?_⟩
    intro appId cpu held new
    exact absurd (releasing.lost appId held) new
  · intro done recipient rest state split serving
    have sorted := recipients_sorted input released.appStates
    rw [split, List.pairwise_append] at sorted
    apply serving.serve unwilling
    · exact fun earlier member => sorted.2.2 earlier member recipient List.mem_cons_self
    · have listed : recipient ∈ input.recipients released.appStates := by
        rw [split]
        exact List.mem_append_right done List.mem_cons_self
      obtain ⟨app, member, _, rfl⟩ := mem_recipients.mp listed
      have found := releasing.moving.indexed.getElem? member
      have bound := (List.getElem?_eq_some_iff.mp found).1
      rw [releasing.moving.length, ← serving.moving.length] at bound
      exact Option.isSome_iff_exists.mpr ⟨_, List.getElem?_eq_getElem bound⟩

/-! ## No starvation -/

/-- Applications whose CPUs are the same as at the start have not taken part. -/
theorem Moving.unchanged (moving : Moving start eligibleCpus state) {appId : Nat}
    (same : ownedBy state.appStates appId = ownedBy start appId) :
    appId ∉ members state.changedApps :=
  fun changed => moving.scaled.changed_ne changed same

theorem ownedBy_nonempty {appStates : List NsdiAppState} {appId : Nat} {app : NsdiAppState}
    (found : appStates[appId]? = some app) :
    (ownedBy appStates appId).Nonempty ↔ app.ownedCpus.isEmpty = false := by
  rw [TreeSet.isEmpty_eq_false_iff_exists_mem]
  exact exists_congr fun cpu => mem_ownedBy found

/-- Who asks and has not changed is served. -/
theorem recipientOf_mem (indexed : Indexed start) (apart : Exclusive Set.univ (ownedBy start))
    {app : NsdiAppState} (member : app ∈ start) (asks : Asks input app)
    (still : app.id ∉ members (input.scale start eligibleCpus).changedApps) :
    recipientOf app ∈ input.recipients (input.releasePhase start eligibleCpus).appStates := by
  have releasing : Releasing input start eligibleCpus (List.range start.length)
      (input.releasePhase start eligibleCpus) := releasePhase_releasing indexed apart
  have untouched := releasing.moving.untouched app.id fun changed =>
    still ((scale_serving indexed apart).grown app.id changed)
  have found := untouched.trans (indexed.getElem? member)
  exact mem_recipients.mpr ⟨app, List.mem_of_getElem? found, asks, rfl⟩

/-- An application that has tasks pending keeps some CPU. -/
theorem Moving.keeps_some (moving : Moving start eligibleCpus state) (indexed : Indexed start)
    {app : NsdiAppState} (member : app ∈ start) (pending : 0 < app.pendingTasks)
    (owns : (ownedBy start app.id).Nonempty) : (ownedBy state.appStates app.id).Nonempty := by
  have found := indexed.getElem? member
  obtain ⟨after, reached, sustained⟩ := moving.sustained app.id app found
  rw [ownedBy_nonempty reached]
  exact sustained.keeps pending ((ownedBy_nonempty found).mp owns)

/-- An application that has tasks pending and ends without a CPU began without
one, and has not taken part. -/
theorem Moving.left_without (moving : Moving start eligibleCpus state) (indexed : Indexed start)
    {after : NsdiAppState} (member : after ∈ state.appStates) (pending : 0 < after.pendingTasks)
    (empty : after.ownedCpus.isEmpty = true) :
    ∃ before ∈ start, 0 < before.pendingTasks ∧ before.ownedCpus.isEmpty = true ∧
      before.id ∉ members state.changedApps := by
  have reached := moving.indexed.getElem? member
  have bound := (List.getElem?_eq_some_iff.mp reached).1
  rw [moving.length] at bound
  have found := List.getElem?_eq_getElem bound
  generalize start[after.id] = before at found
  obtain ⟨same, again, sustained⟩ := moving.sustained after.id before found
  obtain rfl := Option.some.inj (reached.symm.trans again)
  have none : before.ownedCpus.isEmpty = true := by
    by_contra some
    have keeps := sustained.keeps (sustained.pending ▸ pending) (Bool.eq_false_iff.mpr some)
    rw [empty] at keeps
    cases keeps
  have still : after.id ∉ members state.changedApps := by
    apply moving.unchanged
    ext other
    rw [mem_ownedBy reached, mem_ownedBy found]
    exact iff_of_false (TreeSet.not_mem_of_isEmpty empty) (TreeSet.not_mem_of_isEmpty none)
  refine ⟨before, List.mem_of_getElem? found, sustained.pending ▸ pending, none, ?_⟩
  rw [indexed after.id before found]
  exact still

/-- While an application with tasks pending has no CPU, every eligible one is owned. -/
theorem scale_waits_for_all (indexed : Indexed start) (apart : Exclusive Set.univ (ownedBy start))
    {after : NsdiAppState} (member : after ∈ (input.scale start eligibleCpus).appStates)
    (pending : 0 < after.pendingTasks) (empty : after.ownedCpus.isEmpty = true) :
    ∀ cpu ∈ eligibleCpus, ∃ app ∈ (input.scale start eligibleCpus).appStates,
      cpu ∈ app.ownedCpus := by
  intro cpu eligible
  have serving : Serving input start eligibleCpus (input.releasePhase start eligibleCpus)
      (input.recipients (input.releasePhase start eligibleCpus).appStates)
      (input.scale start eligibleCpus) := scale_serving indexed apart
  obtain ⟨before, started, asks, none, still⟩ := serving.moving.left_without indexed member pending
    empty
  have listed := recipientOf_mem indexed apart started ⟨asks, .inl none⟩ still
  have drained := serving.waits _ listed still cpu
  obtain ⟨owner, app, owned, held⟩ := (serving.moving.covered cpu eligible).resolve_left drained
  exact ⟨app, List.mem_of_getElem? owned, held⟩

/-- Who gains a CPU is served before everyone who asks for one in vain. -/
theorem scale_serves_first (indexed : Indexed start) (apart : Exclusive Set.univ (ownedBy start))
    {waiting granted : NsdiAppState} (waitingMember : waiting ∈ start)
    (grantedMember : granted ∈ start) (asks : Asks input waiting)
    (same : ownedBy (input.scale start eligibleCpus).appStates waiting.id = ownedBy start waiting.id)
    (more : ¬ownedBy (input.scale start eligibleCpus).appStates granted.id ⊆
      ownedBy start granted.id) : (recipientOf granted).le (recipientOf waiting) := by
  have serving : Serving input start eligibleCpus (input.releasePhase start eligibleCpus)
      (input.recipients (input.releasePhase start eligibleCpus).appStates)
      (input.scale start eligibleCpus) := scale_serving indexed apart
  have releasing : Releasing input start eligibleCpus (List.range start.length)
      (input.releasePhase start eligibleCpus) := releasePhase_releasing indexed apart
  obtain ⟨cpu, held, new⟩ := Set.not_subset.mp more
  have still := serving.moving.unchanged same
  have listed := recipientOf_mem indexed apart waitingMember asks still
  obtain ⟨recipient, service, sameId, fresh, first⟩ := serving.gained granted.id cpu held new
  obtain ⟨app, member, _, rfl⟩ := mem_recipients.mp service
  have found := releasing.moving.indexed.getElem? member
  rw [show app.id = granted.id from sameId, releasing.moving.untouched granted.id fresh,
    indexed.getElem? grantedMember] at found
  obtain rfl := Option.some.inj found
  exact first _ listed still

/-- With tasks pending, no application loses its last CPU; if one is left without
any, all eligible CPUs are owned; and whoever gains a CPU is served before
everyone who asks for one in vain. -/
theorem maybeRunDelayRangeController_noStarvation (input : ControllerInput)
    (policy : input.cfg.policy = .delayRange) (appStates : List NsdiAppState)
    (eligibleCpus : TreeSet Nat) (indexed : Indexed appStates)
    (disjoint : ∀ left right cpu, cpu ∈ ownedBy appStates left → cpu ∈ ownedBy appStates right →
      left = right) :
    let next := (input.maybeRunDelayRangeController appStates eligibleCpus).1
    (∀ app ∈ appStates, 0 < app.pendingTasks → (ownedBy appStates app.id).Nonempty →
      (ownedBy next app.id).Nonempty) ∧
    ((∃ app ∈ next, 0 < app.pendingTasks ∧ app.ownedCpus.isEmpty = true) →
      ∀ cpu ∈ eligibleCpus, ∃ app ∈ next, cpu ∈ app.ownedCpus) ∧
    ∀ waiting ∈ appStates, ∀ granted ∈ appStates, Asks input waiting →
      ownedBy next waiting.id = ownedBy appStates waiting.id →
      ¬ownedBy next granted.id ⊆ ownedBy appStates granted.id →
      (recipientOf granted).le (recipientOf waiting) ∧ granted.id ≠ waiting.id := by
  have apart : Exclusive Set.univ (ownedBy appStates) :=
    ⟨fun _ => Set.mem_univ _, disjoint _ _ _⟩
  intro next
  have result : next = (input.scale appStates eligibleCpus).appStates := by
    unfold next ControllerInput.maybeRunDelayRangeController
    rw [if_neg (not_not.mpr policy)]
  clear_value next
  subst result
  refine ⟨?_, ?_, ?_⟩
  · intro app member pending owns
    exact (scale_serving indexed apart).moving.keeps_some indexed member pending owns
  · intro ⟨after, member, pending, empty⟩
    exact scale_waits_for_all indexed apart member pending empty
  · intro waiting member granted grantedMember asks same more
    refine ⟨scale_serves_first indexed apart member grantedMember asks same more, ?_⟩
    intro equal
    rw [equal, same] at more
    exact more Set.Subset.rfl

end Call

/-! One CPU for two busy applications. -/

def busyApps : List NsdiAppState :=
  [{ id := 0, rootPid := 10, ownedCpus := .ofList [0], pendingTasks := 1,
     pendingDelayEwmaUs := 3000 },
   { id := 1, rootPid := 11, ownedCpus := ∅, pendingTasks := 2, pendingDelayEwmaUs := 9000 }]

theorem busyApps_indexed : Indexed busyApps := by
  intro index app found
  match index with
  | 0 => obtain rfl := Option.some.inj found; rfl
  | 1 => obtain rfl := Option.some.inj found; rfl
  | _ + 2 => cases found

theorem mem_ownedBy_busyApps {appId cpu : Nat} (held : cpu ∈ ownedBy busyApps appId) :
    appId = 0 := by
  obtain ⟨app, found, owned⟩ := held
  match appId with
  | 0 => rfl
  | 1 =>
      obtain rfl := Option.some.inj found
      exact absurd owned TreeSet.not_mem_emptyc
  | _ + 2 => cases found

theorem maybeRunDelayRangeController_noStarvation_busy :
    (ownedBy (pairCall.maybeRunDelayRangeController busyApps (.ofList [0])).1 0).Nonempty := by
  obtain ⟨keeps, _⟩ := maybeRunDelayRangeController_noStarvation pairCall.toControllerInput rfl
    busyApps (.ofList [0]) busyApps_indexed fun _ _ _ left right =>
      (mem_ownedBy_busyApps left).trans (mem_ownedBy_busyApps right).symm
  exact keeps _ List.mem_cons_self (by decide) ⟨0, _, rfl, by decide +kernel⟩

end CSwitch.Nsdi
