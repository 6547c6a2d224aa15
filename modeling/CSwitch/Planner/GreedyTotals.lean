import CSwitch.Planner.Counts

/-! The running totals of the greedy seed. A tally is determined by the entries it
has added, so taking an item out leaves the tally of all the other items. -/

set_option autoImplicit false

namespace CSwitch.Planner

open Library
open Policy

/-! ## Tallies under additions and removals -/

section Tally

variable {α : Type} (domainCount : Nat) (index : α → Option Nat) (weight : α → Nat)

theorem tally_concat {entries : List α} {entry : α} {domain : Nat}
    (target : index entry = some domain) :
    tally domainCount (entries ++ [entry]) index weight =
      (tally domainCount entries index weight).modify domain (satAdd32 · (weight entry)) := by
  unfold tally
  rw [List.foldl_append, List.foldl_cons, List.foldl_nil, target]

/-- An entry is taken out of a tally that has room for its exact sum. -/
theorem tally_remove {entries : List α} {entry : α} {domain : Nat}
    (target : index entry = some domain)
    (fits : domain < domainCount → tallySum (entry :: entries) index weight domain ≤ u32Max) :
    (tally domainCount (entry :: entries) index weight).modify domain (· - weight entry) =
      tally domainCount entries index weight := by
  have parts : ∀ other, tallySum (entry :: entries) index weight other =
      (if other = domain then weight entry else 0) + tallySum entries index weight other := by
    intro other
    by_cases same : domain = other
    · simp [tallySum, target, same]
    · simp [tallySum, target, same, Ne.symm same]
  refine List.ext_getElem? ?_
  intro other
  rw [List.getElem?_modify, getElem?_tally, getElem?_tally, parts]
  by_cases same : other = domain
  · subst same
    rw [if_pos rfl]
    by_cases bound : other < domainCount
    · have room := fits bound
      rw [parts, if_pos rfl] at room
      rw [if_pos bound, if_pos bound]
      simp only [if_true, Option.map_eq_map, Option.map_some, Option.some.injEq]
      omega
    · simp [bound]
  · simp [same, Ne.symm same]

end Tally

/-! ## The totals of placed members -/

/-- The three totals of members placed in domains. -/
def placedTotals (domainCount : Nat) (placed : List (MemberView × Nat)) : PaperGreedyTotals where
  assignedDfX100 := tally domainCount placed (some ·.2) (·.1.effectDfX100)
  assignedLlcX100 := tally domainCount placed (some ·.2) (·.1.effectLlcX100)
  assignedActiveTaskCount := tally domainCount (placed.filter (·.1.active)) (some ·.2) fun _ => 1

/-- The part of `collect_assignment_totals` that the seed keeps. -/
def AssignmentTotals.paper (totals : AssignmentTotals) : PaperGreedyTotals where
  assignedDfX100 := totals.assignedDfX100
  assignedLlcX100 := totals.assignedLlcX100
  assignedActiveTaskCount := totals.assignedActiveTaskCount

theorem paper_collectAssignmentTotals (state : PlannerState) :
    (collectAssignmentTotals state).paper =
      placedTotals state.domains.length (placedMembers state) := rfl

theorem placedTotals_perm {domainCount : Nat} {left right : List (MemberView × Nat)}
    (same : left.Perm right) : placedTotals domainCount left = placedTotals domainCount right := by
  unfold placedTotals
  rw [tally_perm _ _ _ same, tally_perm _ _ _ same, tally_perm _ _ _ (same.filter _)]

/-- Every exact sum of placed members fits its machine integer. -/
structure PlacedFit (domainCount : Nat) (placed : List (MemberView × Nat)) : Prop where
  df : ∀ domain < domainCount, tallySum placed (some ·.2) (·.1.effectDfX100) domain ≤ u32Max
  llc : ∀ domain < domainCount, tallySum placed (some ·.2) (·.1.effectLlcX100) domain ≤ u32Max
  active : ∀ domain < domainCount,
    tallySum (placed.filter (·.1.active)) (some ·.2) (fun _ => 1) domain ≤ u32Max

theorem PlacedFit.perm {domainCount : Nat} {left right : List (MemberView × Nat)}
    (fits : PlacedFit domainCount left) (same : left.Perm right) : PlacedFit domainCount right where
  df domain bound := tallySum_perm same _ _ domain ▸ fits.df domain bound
  llc domain bound := tallySum_perm same _ _ domain ▸ fits.llc domain bound
  active domain bound := tallySum_perm (same.filter _) _ _ domain ▸ fits.active domain bound

theorem PlacedFit.tail {domainCount : Nat} {left right : List (MemberView × Nat)}
    (fits : PlacedFit domainCount (left ++ right)) : PlacedFit domainCount right where
  df domain bound := by
    have whole := fits.df domain bound
    rw [tallySum_append] at whole
    omega
  llc domain bound := by
    have whole := fits.llc domain bound
    rw [tallySum_append] at whole
    omega
  active domain bound := by
    have whole := fits.active domain bound
    rw [List.filter_append, tallySum_append] at whole
    omega

/-- The members of an item where an assignment puts them. -/
def placedItem (state : PlannerState) (itemIndex : Nat) (assignment : Assignment) :
    List (MemberView × Nat) :=
  (membersOfItem itemIndex state).filterMap fun member =>
    (targetDomainForHome assignment member.currentDomain).map fun domain => (member, domain)

theorem placedTotals_concat (domainCount : Nat) (placed : List (MemberView × Nat))
    (member : MemberView) (domain : Nat) :
    let totals := placedTotals domainCount placed
    placedTotals domainCount (placed ++ [(member, domain)]) =
      { assignedDfX100 := totals.assignedDfX100.modify domain (satAdd32 · member.effectDfX100)
        assignedLlcX100 := totals.assignedLlcX100.modify domain (satAdd32 · member.effectLlcX100)
        assignedActiveTaskCount :=
          if member.active then totals.assignedActiveTaskCount.modify domain (satAdd32 · 1)
          else totals.assignedActiveTaskCount } := by
  have counted : tally domainCount ((placed ++ [(member, domain)]).filter (·.1.active)) (some ·.2)
      (fun _ => 1) = if member.active then (tally domainCount (placed.filter (·.1.active))
        (some ·.2) fun _ => 1).modify domain (satAdd32 · 1)
      else tally domainCount (placed.filter (·.1.active)) (some ·.2) fun _ => 1 := by
    rw [List.filter_append]
    cases active : member.active with
    | false => simp [active]
    | true =>
        rw [List.filter_singleton, active]
        exact tally_concat domainCount _ _ rfl
  dsimp only [placedTotals]
  congr 1
  · exact tally_concat domainCount _ _ rfl
  · exact tally_concat domainCount _ _ rfl

theorem placedTotals_remove {domainCount : Nat} {placed : List (MemberView × Nat)}
    {member : MemberView} {domain : Nat} (fits : PlacedFit domainCount ((member, domain) :: placed)) :
    let totals := placedTotals domainCount ((member, domain) :: placed)
    placedTotals domainCount placed =
      { assignedDfX100 := totals.assignedDfX100.modify domain (· - member.effectDfX100)
        assignedLlcX100 := totals.assignedLlcX100.modify domain (· - member.effectLlcX100)
        assignedActiveTaskCount :=
          if member.active then totals.assignedActiveTaskCount.modify domain (· - 1)
          else totals.assignedActiveTaskCount } := by
  have counted := fits.active domain
  let target : MemberView × Nat → Option Nat := (some ·.2)
  dsimp only [placedTotals]
  congr 1
  · exact (tally_remove domainCount target _ rfl (fits.df domain)).symm
  · exact (tally_remove domainCount target _ rfl (fits.llc domain)).symm
  · rw [List.filter_cons] at counted ⊢
    cases active : member.active with
    | false => simp
    | true =>
        simp only [active, if_true] at counted ⊢
        exact (tally_remove domainCount target (fun _ => 1) rfl counted).symm

theorem addItemAssignmentToPaperTotals_placed (domainCount : Nat)
    (placed : List (MemberView × Nat)) (state : PlannerState) (itemIndex : Nat)
    (assignment : Assignment) :
    addItemAssignmentToPaperTotals (placedTotals domainCount placed) state itemIndex assignment =
      placedTotals domainCount (placed ++ placedItem state itemIndex assignment) := by
  unfold addItemAssignmentToPaperTotals updateItemAssignmentInPaperTotals placedItem
  induction membersOfItem itemIndex state generalizing placed with
  | nil => simp
  | cons member rest ih =>
      rw [List.foldl_cons, List.filterMap_cons]
      cases target : targetDomainForHome assignment member.currentDomain with
      | none => exact ih placed
      | some domain =>
          dsimp only [Option.map_some]
          rw [List.append_cons, ← ih, placedTotals_concat]

/-- Taking an item out of the totals leaves those of the other members. -/
theorem removeItemAssignmentFromPaperTotals_placed {domainCount : Nat}
    {others : List (MemberView × Nat)} {state : PlannerState} {itemIndex : Nat}
    {assignment : Assignment}
    (fits : PlacedFit domainCount (placedItem state itemIndex assignment ++ others)) :
    removeItemAssignmentFromPaperTotals
        (placedTotals domainCount (placedItem state itemIndex assignment ++ others)) state itemIndex
        assignment = placedTotals domainCount others := by
  unfold removeItemAssignmentFromPaperTotals updateItemAssignmentInPaperTotals placedItem at *
  generalize membersOfItem itemIndex state = members at *
  induction members with
  | nil => rfl
  | cons member rest ih =>
      rw [List.filterMap_cons] at fits ⊢
      rw [List.foldl_cons]
      cases target : targetDomainForHome assignment member.currentDomain with
      | none =>
          rw [target] at fits
          exact ih fits
      | some domain =>
          rw [target] at fits
          dsimp only [Option.map_some, List.cons_append] at fits ⊢
          rw [← ih (@PlacedFit.tail domainCount [(member, domain)] _ fits), placedTotals_remove fits]

/-- The totals of two groups of members add up, domain by domain. -/
structure PaperGreedyTotals.Splits (totals own others : PaperGreedyTotals) : Prop where
  df : ∀ domain : Nat, totals.assignedDfX100[domain]?.getD 0 =
    own.assignedDfX100[domain]?.getD 0 + others.assignedDfX100[domain]?.getD 0
  llc : ∀ domain : Nat, totals.assignedLlcX100[domain]?.getD 0 =
    own.assignedLlcX100[domain]?.getD 0 + others.assignedLlcX100[domain]?.getD 0
  active : ∀ domain : Nat, totals.assignedActiveTaskCount[domain]?.getD 0 =
    own.assignedActiveTaskCount[domain]?.getD 0 + others.assignedActiveTaskCount[domain]?.getD 0

theorem tally_append_getD {α : Type} {domainCount : Nat} {own others : List α}
    {index : α → Option Nat} {weight : α → Nat}
    (fits : ∀ domain < domainCount, tallySum (own ++ others) index weight domain ≤ u32Max)
    (domain : Nat) :
    (tally domainCount (own ++ others) index weight)[domain]?.getD 0 =
      (tally domainCount own index weight)[domain]?.getD 0 +
        (tally domainCount others index weight)[domain]?.getD 0 := by
  rw [getElem?_tally, getElem?_tally, getElem?_tally]
  by_cases bound : domain < domainCount
  · have room := fits domain bound
    rw [tallySum_append] at room ⊢
    simp only [bound, if_true, Option.getD_some]
    omega
  · simp [bound]

theorem placedTotals_splits {domainCount : Nat} {own others : List (MemberView × Nat)}
    (fits : PlacedFit domainCount (own ++ others)) :
    (placedTotals domainCount (own ++ others)).Splits (placedTotals domainCount own)
      (placedTotals domainCount others) where
  df := tally_append_getD fits.df
  llc := tally_append_getD fits.llc
  active := by
    have room := fits.active
    dsimp only [placedTotals]
    rw [List.filter_append] at room ⊢
    exact tally_append_getD room

/-! ## One item and the others -/

/-- The members of an item where its assignment puts them. -/
def assignedItem (state : PlannerState) (itemIndex : Nat) : List (MemberView × Nat) :=
  placedItem state itemIndex (state.assignments[itemIndex]?.getD .currentHome)

/-- The members of all the other items. -/
def placedOthers (state : PlannerState) (itemIndex : Nat) : List (MemberView × Nat) :=
  ((List.range state.items.length).erase itemIndex).flatMap (assignedItem state)

section State

variable {state : PlannerState} (oneEach : state.assignments.length = state.items.length)

include oneEach

theorem placedMembers_eq_flatMap :
    placedMembers state = (List.range state.items.length).flatMap (assignedItem state) := by
  have each : (state.items.zip state.assignments).map (fun entry : PlannerItem × Assignment =>
      entry.1.memberTids.filterMap fun tid => do
        let member ← state.members[tid]?
        let targetDomain ← targetDomainForHome entry.2 member.currentDomain
        pure (member, targetDomain)) =
      (List.range state.items.length).map (assignedItem state) := by
    refine List.ext_getElem ?_ ?_
    · simp [oneEach]
    · intro index left right
      have itemBound : index < state.items.length := by simpa using right
      have assignedBound : index < state.assignments.length := oneEach ▸ itemBound
      rw [List.getElem_map, List.getElem_map, List.getElem_zip, List.getElem_range]
      simp only [assignedItem, placedItem, membersOfItem, List.getElem?_eq_getElem itemBound,
        List.getElem?_eq_getElem assignedBound, Option.map_some, Option.getD_some,
        List.filterMap_filterMap]
      refine List.filterMap_congr ?_
      intro tid _
      cases state.members[tid]? with
      | none => rfl
      | some member =>
          rw [Option.bind_some, Option.map_eq_bind]
          rfl
  unfold placedMembers
  rw [List.flatMap_def, each, ← List.flatMap_def]

theorem placedMembers_perm {index : Nat} (bound : index < state.items.length) :
    (assignedItem state index ++ placedOthers state index).Perm (placedMembers state) := by
  have listed : (List.range state.items.length).Perm
      (index :: (List.range state.items.length).erase index) :=
    List.perm_cons_erase (List.mem_range.mpr bound)
  rw [placedMembers_eq_flatMap oneEach]
  exact (listed.flatMap_right (assignedItem state)).symm

/-- A new assignment of one item leaves the others where they are. -/
theorem placedMembers_assign_perm {index : Nat} (bound : index < state.items.length)
    (assignment : Assignment) :
    (placedItem state index assignment ++ placedOthers state index).Perm
      (placedMembers (state.assign index assignment)) := by
  have own : assignedItem (state.assign index assignment) index =
      placedItem state index assignment := by
    have assigned : (state.assign index assignment).assignments[index]? = some assignment := by
      rw [PlannerState.assign, List.getElem?_set_self (oneEach ▸ bound)]
    rw [assignedItem, assigned]
    rfl
  have others : placedOthers (state.assign index assignment) index = placedOthers state index := by
    unfold placedOthers
    refine List.flatMap_congr ?_
    intro other listed
    have apart : index ≠ other := by
      rintro rfl
      exact List.nodup_range.not_mem_erase listed
    have kept : (state.assign index assignment).assignments[other]? = state.assignments[other]? :=
      List.getElem?_set_ne apart
    rw [assignedItem, kept]
    rfl
  rw [← own, ← others]
  exact placedMembers_perm ((state.assign_length index assignment).trans oneEach) bound

theorem initialPaperTotals_placed :
    initialPaperTotals state = placedTotals state.domains.length (placedMembers state) := by
  rw [placedMembers_eq_flatMap oneEach]
  unfold initialPaperTotals
  refine foldl_prefix_invariant (fun done (totals : PaperGreedyTotals) => totals =
    placedTotals state.domains.length (done.flatMap (assignedItem state))) rfl ?_
  intro done index rest totals _ running
  rw [running, addItemAssignmentToPaperTotals_placed, List.flatMap_append, List.flatMap_singleton]
  rfl

end State

/-! ## The run of the seed -/

/-- The seed after some of its items. -/
def greedyRun (snapshot : PlannerInput) (state : PlannerState) (done : List Nat) :
    PaperGreedyState :=
  done.foldl (seedItem snapshot (externalLoad state)) { totals := initialPaperTotals state, state }

/-- What the totals are exact for: one assignment for each item of the first state. -/
structure GreedyExact (state : PlannerState) (seed : PaperGreedyState) : Prop where
  items : seed.state.items = state.items
  domains : seed.state.domains = state.domains
  oneEach : seed.state.assignments.length = seed.state.items.length
  totals : seed.totals = placedTotals state.domains.length (placedMembers seed.state)

section Seed

variable {snapshot : PlannerInput} {state : PlannerState} {seed : PaperGreedyState} {index : Nat}
  (running : GreedyExact state seed) (bound : index < state.items.length)
  (fits : PlacedFit state.domains.length (placedMembers seed.state))

include running bound fits

theorem GreedyExact.removed : removeItemAssignmentFromPaperTotals seed.totals seed.state index
    (seed.state.assignments[index]?.getD .currentHome) =
      placedTotals state.domains.length (placedOthers seed.state index) := by
  have split := placedMembers_perm running.oneEach (running.items ▸ bound)
  rw [running.totals, placedTotals_perm split.symm]
  exact removeItemAssignmentFromPaperTotals_placed (fits.perm split.symm)

theorem GreedyExact.splits : seed.totals.Splits
    (placedTotals state.domains.length (assignedItem seed.state index))
    (placedTotals state.domains.length (placedOthers seed.state index)) := by
  have split := placedMembers_perm running.oneEach (running.items ▸ bound)
  rw [running.totals, placedTotals_perm split.symm]
  exact placedTotals_splits (fits.perm split.symm)

theorem GreedyExact.seedItem (external : ExternalLoad) :
    GreedyExact state (seedItem snapshot external seed index) := by
  have added : ∀ assignment, addItemAssignmentToPaperTotals
      (placedTotals state.domains.length (placedOthers seed.state index)) seed.state index
        assignment = placedTotals state.domains.length
          (placedItem seed.state index assignment ++ placedOthers seed.state index) := by
    intro assignment
    rw [addItemAssignmentToPaperTotals_placed]
    exact placedTotals_perm List.perm_append_comm
  have inside : index < seed.state.items.length := running.items ▸ bound
  unfold CSwitch.Planner.seedItem
  dsimp only
  rw [running.removed bound fits]
  split
  · refine ⟨running.items, running.domains, running.oneEach, ?_⟩
    dsimp only
    rw [added]
    exact placedTotals_perm (placedMembers_perm running.oneEach inside)
  next targetDomain _ =>
    refine ⟨running.items, running.domains, ?_, ?_⟩
    · exact (seed.state.assign_length index _).trans running.oneEach
    · dsimp only
      rw [added]
      exact placedTotals_perm (placedMembers_assign_perm running.oneEach inside _)

end Seed

/-- Every sum along the run of the seed fits its machine integer. -/
def GreedyFits (snapshot : PlannerInput) (state : PlannerState) : Prop :=
  ∀ done, done <+: paperGreedyItemOrder state →
    PlacedFit state.domains.length (placedMembers (greedyRun snapshot state done).state)

theorem greedyRun_concat (snapshot : PlannerInput) (state : PlannerState) (done : List Nat)
    (index : Nat) : greedyRun snapshot state (done ++ [index]) =
      seedItem snapshot (externalLoad state) (greedyRun snapshot state done) index := by
  unfold greedyRun
  rw [List.foldl_append]
  rfl

theorem lt_of_prefix_itemOrder {state : PlannerState} {done : List Nat} {index : Nat}
    (reached : done ++ [index] <+: paperGreedyItemOrder state) : index < state.items.length := by
  refine (mem_paperGreedyItemOrder.mp (reached.mem ?_)).1
  exact List.mem_append_right _ (List.mem_singleton.mpr rfl)

theorem greedyRun_exact {snapshot : PlannerInput} {state : PlannerState}
    (oneEach : state.assignments.length = state.items.length) (fits : GreedyFits snapshot state)
    {done : List Nat} (reached : done <+: paperGreedyItemOrder state) :
    GreedyExact state (greedyRun snapshot state done) := by
  induction done using List.reverseRecOn with
  | nil => exact ⟨rfl, rfl, oneEach, initialPaperTotals_placed oneEach⟩
  | append_singleton done index ih =>
      have before := (List.prefix_append done [index]).trans reached
      rw [greedyRun_concat]
      exact (ih before).seedItem (lt_of_prefix_itemOrder reached) (fits done before) _

theorem applyPaperGreedySeed_eq_run (snapshot : PlannerInput) {state : PlannerState}
    (oneEach : state.assignments.length = state.items.length) :
    applyPaperGreedySeed snapshot state true =
      (greedyRun snapshot state (paperGreedyItemOrder state)).state := by
  unfold applyPaperGreedySeed
  split
  next skipped =>
    have empty : state.items = [] := by simpa [oneEach] using skipped
    have none : paperGreedyItemOrder state = [] := by
      refine List.eq_nil_iff_forall_not_mem.mpr ?_
      intro index listed
      have bound := (mem_paperGreedyItemOrder.mp listed).1
      rw [empty] at bound
      cases bound
    rw [none]
    rfl
  · rfl

/-- The running totals of the greedy seed are those of the assignments at every
iteration, and an item is placed by the totals of all the other items. -/
theorem greedyRun_totals (snapshot : PlannerInput) (state : PlannerState)
    (oneEach : state.assignments.length = state.items.length) (fits : GreedyFits snapshot state) :
    applyPaperGreedySeed snapshot state true =
        (greedyRun snapshot state (paperGreedyItemOrder state)).state ∧
      (∀ done, done <+: paperGreedyItemOrder state → (greedyRun snapshot state done).totals =
        (collectAssignmentTotals (greedyRun snapshot state done).state).paper) ∧
      ∀ done index, done ++ [index] <+: paperGreedyItemOrder state →
        let seed := greedyRun snapshot state done
        let others := placedTotals state.domains.length (placedOthers seed.state index)
        removeItemAssignmentFromPaperTotals seed.totals seed.state index
            (seed.state.assignments[index]?.getD .currentHome) = others ∧
          seed.totals.Splits
            (placedTotals state.domains.length (assignedItem seed.state index)) others ∧
          (greedyRun snapshot state (done ++ [index])).state =
            match choosePaperGreedyDomain snapshot seed.state others (externalLoad state) index with
            | none => seed.state
            | some targetDomain => seed.state.assign index (.domain targetDomain) := by
  refine ⟨applyPaperGreedySeed_eq_run snapshot oneEach, ?_, ?_⟩
  · intro done reached
    have running := greedyRun_exact oneEach fits reached
    rw [paper_collectAssignmentTotals, running.domains]
    exact running.totals
  · intro done index reached
    have before := (List.prefix_append done [index]).trans reached
    have running := greedyRun_exact oneEach fits before
    have bound := lt_of_prefix_itemOrder reached
    have removed := running.removed bound (fits done before)
    refine ⟨removed, running.splits bound (fits done before), ?_⟩
    rw [greedyRun_concat]
    unfold seedItem
    dsimp only
    rw [removed]
    cases choosePaperGreedyDomain snapshot (greedyRun snapshot state done).state
      (placedTotals state.domains.length (placedOthers (greedyRun snapshot state done).state index))
      (externalLoad state) index <;> rfl

/-! The crew, in the order of its demands: thread 8, thread 7, thread 9. -/

def crewSeedState : PlannerState := buildState ⟨true⟩ sampleConfig crewInput .global

theorem greedyRun_totals_crew : paperGreedyItemOrder crewSeedState = [1, 0, 2] ∧
    (greedyRun crewInput crewSeedState [1, 0, 2]).totals =
      (collectAssignmentTotals (greedyRun crewInput crewSeedState [1, 0, 2]).state).paper := by
  have order : paperGreedyItemOrder crewSeedState = [1, 0, 2] := by decide +kernel
  have fits : GreedyFits crewInput crewSeedState := by
    intro done reached
    rw [order] at reached
    have listed : done ∈ [[], [1], [1, 0], [1, 0, 2]] := (List.mem_inits _ _).mpr reached
    simp only [List.mem_cons, List.not_mem_nil, or_false] at listed
    obtain rfl | rfl | rfl | rfl := listed <;>
      exact ⟨by decide +kernel, by decide +kernel, by decide +kernel⟩
  refine ⟨order, (greedyRun_totals crewInput crewSeedState (by decide +kernel) fits).2.1
    [1, 0, 2] ?_⟩
  rw [order]

end CSwitch.Planner
