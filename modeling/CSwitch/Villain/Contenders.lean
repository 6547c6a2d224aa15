import CSwitch.Library.TopTwo
import CSwitch.Villain.Election

/-! The winner of a link: the contender that is a clear leader, in whichever order
the contenders are pushed. -/

set_option autoImplicit false

namespace CSwitch.Villain

open Library
open Dispatch (LinkContender)

def pushAll (contenders : List LinkContender) : LinkContenders :=
  contenders.foldl LinkContenders.push {}

/-- A lead of a tenth of the next score, and of one at least. -/
def ClearLead (first second : Nat) : Prop :=
  first ≥ max (min (second + second / 10) u32Max) (second + 1)

instance (first second : Nat) : Decidable (ClearLead first second) :=
  inferInstanceAs (Decidable (first ≥ _))

/-- The winner is the one contender with the best score. -/
structure Wins (contenders : List LinkContender) (winner : LinkContender) : Prop where
  contender : ∃ contender ∈ contenders, winner.tid = contender.tid ∧ winner.score = contender.score
  score : winner.score = largest (contenders.map (·.score))
  unique : (contenders.map (·.score)).count winner.score = 1
  counted : winner.contenderCount = min contenders.length u32Max

/-- The contenders of a link, in the order of the thread map. -/
def threadContenders (threads : ThreadMap) (linkId : Nat) : List LinkContender :=
  threads.toList.filterMap fun (_, thread) =>
    let score := threadVillainScore thread linkId
    if score = 0 then none else some { tid := thread.tid, score, contenderCount := 0 }

namespace LinkContenders

/-- What the tally keeps of the pairs of tid and score. -/
def topTwo (tally : LinkContenders) : TopTwo (Nat × Nat) Nat where
  best := tally.best.map fun best => (best.tid, best.score)
  second := tally.secondBest

theorem topTwo_push (tally : LinkContenders) (contender : LinkContender) :
    (tally.push contender).topTwo = tally.topTwo.keep Prod.snd (contender.tid, contender.score) := by
  obtain ⟨candidateCount, best, secondBest⟩ := tally
  cases best with
  | none => rfl
  | some best =>
      unfold push topTwo TopTwo.keep
      dsimp only [Option.map_some]
      split
      · rfl
      · split <;> rfl

theorem push_candidateCount (tally : LinkContenders) (contender : LinkContender) :
    (tally.push contender).candidateCount = satAdd32 tally.candidateCount 1 := by
  obtain ⟨candidateCount, best, secondBest⟩ := tally
  cases best with
  | none => rfl
  | some best =>
      unfold push
      dsimp only
      split
      · rfl
      · split <;> rfl

end LinkContenders

section Winner

variable {contenders : List LinkContender}

def pairs (contenders : List LinkContender) : List (Nat × Nat) :=
  contenders.map fun contender => (contender.tid, contender.score)

theorem map_snd_pairs (contenders : List LinkContender) :
    (pairs contenders).map Prod.snd = contenders.map (·.score) := by
  rw [pairs, List.map_map]
  rfl

theorem pushAll_topTwo (contenders : List LinkContender) :
    (pushAll contenders).topTwo = topTwo Prod.snd (pairs contenders) := by
  induction contenders using List.reverseRecOn with
  | nil => rfl
  | append_singleton before contender ih =>
      unfold pushAll topTwo pairs at ih ⊢
      rw [List.foldl_append, List.map_append, List.foldl_append, ← ih]
      exact LinkContenders.topTwo_push _ contender

theorem pushAll_candidateCount (contenders : List LinkContender) :
    (pushAll contenders).candidateCount = min contenders.length u32Max := by
  induction contenders using List.reverseRecOn with
  | nil => rfl
  | append_singleton before contender ih =>
      unfold pushAll at ih ⊢
      rw [List.foldl_append]
      refine (LinkContenders.push_candidateCount _ contender).trans ?_
      rw [ih, List.length_append, List.length_singleton, satAdd32]
      omega

theorem linkContenders_eq (threads : ThreadMap) (linkId : Nat) :
    linkContenders threads linkId = pushAll (threadContenders threads linkId) := by
  unfold linkContenders pushAll threadContenders
  rw [List.foldl_filterMap]
  apply List.foldl_ext
  intro tally entry _
  dsimp only
  split <;> rfl

/-- The scores from 1 to 4294967294: nothing wraps in the test of the lead. -/
def ScoresInRange (contenders : List LinkContender) : Prop :=
  ∀ contender ∈ contenders, 1 ≤ contender.score ∧ contender.score < u32Max

/-- The second score is the one of a contender. -/
theorem secondLargest_range {leader : Nat × Nat} {rest : List (Nat × Nat)}
    (range : ScoresInRange contenders) (leads : Leads Prod.snd (pairs contenders) leader rest)
    (nonempty : rest ≠ []) :
    0 < largest (rest.map Prod.snd) ∧ largest (rest.map Prod.snd) < u32Max := by
  have each : ∀ pair ∈ rest, 1 ≤ pair.2 ∧ pair.2 < u32Max := by
    intro pair member
    have listed := leads.perm.mem_iff.mpr (List.mem_cons_of_mem leader member)
    obtain ⟨contender, isContender, rfl⟩ := List.mem_map.mp listed
    exact range contender isContender
  constructor
  · obtain ⟨pair, others, rfl⟩ := List.exists_cons_of_ne_nil nonempty
    have behind : pair.2 ≤ largest ((pair :: others).map Prod.snd) := le_largest List.mem_cons_self
    have positive := (each pair List.mem_cons_self).1
    omega
  · have below : largest (rest.map Prod.snd) ≤ u32Max - 1 := by
      apply largest_le
      intro value member
      obtain ⟨pair, listed, rfl⟩ := List.mem_map.mp member
      have bound := (each pair listed).2
      omega
    unfold u32Max at *
    omega

/-- The test of the lead for two contenders or more. -/
theorem winner_eq {tally : LinkContenders} {best : LinkContender} (held : tally.best = some best)
    (two : 2 ≤ tally.candidateCount) (positive : 0 < tally.secondBest)
    (fits : tally.secondBest < u32Max) :
    tally.winner =
      if ClearLead best.score tally.secondBest then
        some { best with contenderCount := tally.candidateCount }
      else none := by
  have wraps : (tally.secondBest + 1) % (u32Max + 1) = tally.secondBest + 1 :=
    Nat.mod_eq_of_lt (Nat.succ_lt_succ fits)
  unfold LinkContenders.winner
  rw [held]
  dsimp only
  rw [if_neg (not_lt.mpr two), if_pos positive, wraps]
  by_cases lead : ClearLead best.score tally.secondBest
  · rw [if_pos lead]
    exact if_pos (decide_eq_true lead)
  · rw [if_neg lead]
    exact if_neg (mt of_decide_eq_true lead)

/-- The two ways an election ends. -/
theorem pushAll_winner (range : ScoresInRange contenders) :
    ((2 ≤ contenders.length ∧
          ClearLead (largest (contenders.map (·.score))) (secondLargest (contenders.map (·.score)))) ∧
        ∃ leader rest, Leads Prod.snd (pairs contenders) leader rest ∧
          (pushAll contenders).winner = some
            { tid := leader.1, score := leader.2, contenderCount := min contenders.length u32Max }) ∨
      (¬(2 ≤ contenders.length ∧
          ClearLead (largest (contenders.map (·.score))) (secondLargest (contenders.map (·.score)))) ∧
        (pushAll contenders).winner = none) := by
  by_cases nonempty : contenders = []
  · subst nonempty
    exact .inr ⟨fun two => absurd two.1 (by decide), rfl⟩
  · have pairsNonempty : pairs contenders ≠ [] := fun empty => nonempty (List.map_eq_nil_iff.mp empty)
    obtain ⟨leader, rest, leads, kept⟩ := topTwo_spec Prod.snd pairsNonempty
    rw [← pushAll_topTwo] at kept
    obtain ⟨best, held, rfl⟩ := Option.map_eq_some_iff.mp (congrArg TopTwo.best kept)
    have second : (pushAll contenders).secondBest = largest (rest.map Prod.snd) :=
      congrArg TopTwo.second kept
    have scores := leads.secondLargest
    have first := leads.largest
    rw [map_snd_pairs] at first scores
    rw [first, scores, ← second]
    have count := pushAll_candidateCount contenders
    have length : contenders.length = rest.length + 1 := by
      have sizes := leads.perm.length_eq
      rwa [pairs, List.length_map, List.length_cons] at sizes
    by_cases two : 2 ≤ contenders.length
    · have others : rest ≠ [] := List.ne_nil_of_length_pos (by omega)
      have bounds := secondLargest_range range leads others
      rw [← second] at bounds
      have enough : 2 ≤ (pushAll contenders).candidateCount := by
        rw [count]
        exact le_min two (by decide)
      have result := winner_eq held enough bounds.1 bounds.2
      by_cases lead : ClearLead best.score (pushAll contenders).secondBest
      · rw [if_pos lead, count] at result
        exact .inl ⟨⟨two, lead⟩, _, rest, leads, result⟩
      · rw [if_neg lead] at result
        exact .inr ⟨fun both => lead both.2, result⟩
    · refine .inr ⟨fun both => two both.1, ?_⟩
      have few : (pushAll contenders).candidateCount < 2 := by omega
      rw [LinkContenders.winner, held]
      dsimp only
      rw [if_pos few]

theorem ClearLead.strict {first second : Nat} (lead : ClearLead first second) : second < first :=
  Nat.lt_of_succ_le ((le_max_right _ _).trans lead)

theorem wins_of_leads {leader : Nat × Nat} {rest : List (Nat × Nat)}
    (leads : Leads Prod.snd (pairs contenders) leader rest)
    (lead : ClearLead (largest (contenders.map (·.score)))
      (secondLargest (contenders.map (·.score)))) :
    Wins contenders
      { tid := leader.1, score := leader.2, contenderCount := min contenders.length u32Max } where
  contender := by
    obtain ⟨contender, listed, same⟩ := List.mem_map.mp leads.mem
    exact ⟨contender, listed, congrArg Prod.fst same.symm, congrArg Prod.snd same.symm⟩
  score := by
    have first := leads.largest
    rw [map_snd_pairs] at first
    exact first.symm
  unique := by
    have perm := leads.perm.map Prod.snd
    have first := leads.largest
    have second := leads.secondLargest
    rw [map_snd_pairs] at perm first second
    rw [first, second] at lead
    rw [perm.count_eq, List.map_cons, List.count_cons_self, List.count_eq_zero.mpr]
    intro tied
    exact absurd lead.strict (le_largest tied).not_gt
  counted := rfl

/-- Two orders of the same contenders elect the same winner. -/
theorem winner_perm {other : List LinkContender} (range : ScoresInRange contenders)
    (perm : other.Perm contenders) : (pushAll other).winner = (pushAll contenders).winner := by
  have otherRange : ScoresInRange other := fun contender member =>
    range contender (perm.mem_iff.mp member)
  have scores := perm.map (·.score)
  have outcome := pushAll_winner otherRange
  rw [perm.length_eq, largest_perm scores, secondLargest_perm scores] at outcome
  cases pushAll_winner range with
  | inl elected =>
      obtain ⟨clear, leader, rest, leads, winner⟩ := elected
      cases outcome with
      | inr notElected => exact absurd clear notElected.1
      | inl otherElected =>
          obtain ⟨_, otherLeader, otherRest, otherLeads, otherWinner⟩ := otherElected
          have samePairs : (pairs contenders).Perm (pairs other) := perm.symm.map _
          have strict := clear.2.strict
          rw [← map_snd_pairs] at strict
          have same := leads.unique strict ⟨samePairs.trans otherLeads.perm, otherLeads.ahead⟩
          rw [otherWinner, winner, same]
  | inr none =>
      cases outcome with
      | inl otherElected => exact absurd otherElected.1 none.1
      | inr otherNone => rw [otherNone.2, none.2]

/-- Contenders with scores in range elect a winner if and only if there are two or
more and the best score leads the second one clearly. The winner is the one that has
the best score, it tells how many contenders there are, up to 4294967295, and neither
the order of the contenders nor that of the threads matters. -/
theorem pushAll_elects (contenders : List LinkContender) (range : ScoresInRange contenders) :
    ((pushAll contenders).winner.isSome = true ↔ 2 ≤ contenders.length ∧
        ClearLead (largest (contenders.map (·.score)))
          (secondLargest (contenders.map (·.score)))) ∧
      (∀ winner, (pushAll contenders).winner = some winner → Wins contenders winner) ∧
      (∀ other : List LinkContender, other.Perm contenders →
        (pushAll other).winner = (pushAll contenders).winner) ∧
      ∀ threads linkId, (threadContenders threads linkId).Perm contenders →
        (linkContenders threads linkId).winner = (pushAll contenders).winner := by
  refine ⟨?_, ?_, fun other perm => winner_perm range perm, ?_⟩
  · cases pushAll_winner range with
    | inl elected =>
        obtain ⟨clear, _, _, _, winner⟩ := elected
        rw [winner]
        exact iff_of_true rfl clear
    | inr none =>
        rw [none.2]
        exact iff_of_false Bool.false_ne_true none.1
  · intro winner elects
    cases pushAll_winner range with
    | inl elected =>
        obtain ⟨clear, leader, rest, leads, isWinner⟩ := elected
        obtain rfl := Option.some.inj (isWinner.symm.trans elects)
        exact wins_of_leads leads clear.2
    | inr none => cases none.2.symm.trans elects
  · intro threads linkId perm
    rw [linkContenders_eq]
    exact winner_perm range perm

end Winner

theorem pushAll_elects_two :
    Wins [⟨11, 3000, 0⟩, ⟨12, 2000, 0⟩] ⟨11, 3000, 2⟩ :=
  (pushAll_elects [⟨11, 3000, 0⟩, ⟨12, 2000, 0⟩] (by simp [ScoresInRange, u32Max])).2.1 _ rfl

/-! One more contender than a tid can tell apart: every tid contends. -/

def leaderAmong (followers : Nat) : List LinkContender :=
  { tid := 0, score := 2, contenderCount := 0 } ::
    (List.range followers).map fun tid => { tid := tid + 1, score := 1, contenderCount := 0 }

theorem leaderAmong_range (followers : Nat) : ScoresInRange (leaderAmong followers) := by
  intro contender member
  cases List.mem_cons.mp member with
  | inl first =>
      subst first
      decide
  | inr listed =>
      obtain ⟨tid, _, rfl⟩ := List.mem_map.mp listed
      exact ⟨Nat.le_refl 1, (by decide : 1 < u32Max)⟩

theorem leaderAmong_length (followers : Nat) : (leaderAmong followers).length = followers + 1 := by
  rw [leaderAmong, List.length_cons, List.length_map, List.length_range]

theorem leaderAmong_lead (followers : Nat) :
    ClearLead (largest ((leaderAmong followers).map (·.score)))
      (secondLargest ((leaderAmong followers).map (·.score))) := by
  have below : ∀ value ∈ ((List.range followers).map fun tid =>
      ({ tid := tid + 1, score := 1, contenderCount := 0 } : LinkContender)).map (·.score),
      value ≤ 1 := by
    intro value member
    obtain ⟨contender, listed, rfl⟩ := List.mem_map.mp member
    obtain ⟨tid, _, rfl⟩ := List.mem_map.mp listed
    exact Nat.le_refl 1
  have behind := fun value member => (below value member).trans (by decide : 1 ≤ 2)
  have second := largest_le below
  rw [leaderAmong, List.map_cons, largest_cons_of_le behind, secondLargest_cons_of_le behind]
  refine max_le ((Nat.min_le_left _ _).trans ?_) (Nat.succ_le_succ second)
  omega

/-- With all tids contending, the winner tells one contender less than there are. -/
theorem pushAll_full_count :
    ((leaderAmong u32Max).map (·.tid)).Nodup ∧
      (∀ contender ∈ leaderAmong u32Max, contender.tid ≤ u32Max) ∧
      ScoresInRange (leaderAmong u32Max) ∧
      ∃ winner, (pushAll (leaderAmong u32Max)).winner = some winner ∧
        winner.contenderCount ≠ (leaderAmong u32Max).length := by
  refine ⟨?_, ?_, leaderAmong_range u32Max, ?_⟩
  · rw [leaderAmong, List.map_cons, List.map_map, List.nodup_cons]
    constructor
    · intro member
      obtain ⟨tid, _, same⟩ := List.mem_map.mp member
      exact Nat.succ_ne_zero tid same
    · exact List.nodup_range.map fun _ _ same => Nat.succ.inj same
  · intro contender member
    cases List.mem_cons.mp member with
    | inl first =>
        subst first
        exact Nat.zero_le _
    | inr listed =>
        obtain ⟨tid, inside, rfl⟩ := List.mem_map.mp listed
        exact List.mem_range.mp inside
  · cases pushAll_winner (leaderAmong_range u32Max) with
    | inl elected =>
        obtain ⟨_, leader, rest, _, winner⟩ := elected
        refine ⟨_, winner, ?_⟩
        rw [leaderAmong_length]
        exact Nat.ne_of_lt (lt_of_le_of_lt (Nat.min_le_right _ _) (Nat.lt_succ_self _))
    | inr none =>
        refine absurd ⟨?_, leaderAmong_lead u32Max⟩ none.1
        rw [leaderAmong_length]
        decide

end CSwitch.Villain
