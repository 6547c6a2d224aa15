import Mathlib

/-! The maximal runs of an increasing list of numbers. A run goes on while the next
number is one more than its last, so that two runs always leave a gap. -/

set_option autoImplicit false

namespace CSwitch.Library

def runsFrom (first last : Nat) : List Nat → List (Nat × Nat)
  | [] => [(first, last)]
  | next :: rest =>
      if next = last + 1 then runsFrom first next rest
      else (first, last) :: runsFrom next next rest

def runs : List Nat → List (Nat × Nat)
  | [] => []
  | first :: rest => runsFrom first first rest

/-- A number lies in the run. -/
def InRun (run : Nat × Nat) (value : Nat) : Prop := run.1 ≤ value ∧ value ≤ run.2

/-- Runs in increasing order with a gap between any two, which together are the values. -/
structure MaximalRuns (values : Nat → Prop) (parts : List (Nat × Nat)) : Prop where
  nonempty : ∀ run ∈ parts, run.1 ≤ run.2
  gaps : parts.Pairwise fun before after => before.2 + 1 < after.1
  members : ∀ value, values value ↔ ∃ run ∈ parts, InRun run value

section Runs

variable {first last : Nat} {rest values : List Nat}

/-- Every run starts where the first one does or later. -/
theorem le_of_mem_runsFrom (ordered : first ≤ last)
    (sorted : (last :: rest).Pairwise (· < ·)) :
    ∀ run ∈ runsFrom first last rest, first ≤ run.1 ∧ run.1 ≤ run.2 := by
  induction rest generalizing first last with
  | nil =>
      intro run member
      obtain rfl := List.mem_singleton.mp member
      exact ⟨le_rfl, ordered⟩
  | cons next rest ih =>
      have above : last < next := List.rel_of_pairwise_cons sorted List.mem_cons_self
      unfold runsFrom
      split
      · exact ih (by omega) sorted.of_cons
      · intro run member
        cases List.mem_cons.mp member with
        | inl own =>
            subst own
            exact ⟨le_rfl, ordered⟩
        | inr later =>
            obtain ⟨start, nonempty⟩ := ih le_rfl sorted.of_cons run later
            exact ⟨by omega, nonempty⟩

theorem runsFrom_gaps (ordered : first ≤ last) (sorted : (last :: rest).Pairwise (· < ·)) :
    (runsFrom first last rest).Pairwise fun before after => before.2 + 1 < after.1 := by
  induction rest generalizing first last with
  | nil => exact List.pairwise_singleton _ _
  | cons next rest ih =>
      have above : last < next := List.rel_of_pairwise_cons sorted List.mem_cons_self
      unfold runsFrom
      split
      · exact ih (by omega) sorted.of_cons
      · next apart =>
          refine List.pairwise_cons.mpr ⟨?_, ih le_rfl sorted.of_cons⟩
          intro run later
          have start := (le_of_mem_runsFrom le_rfl sorted.of_cons run later).1
          dsimp only
          omega

theorem mem_runsFrom (ordered : first ≤ last) (sorted : (last :: rest).Pairwise (· < ·))
    (value : Nat) :
    (InRun (first, last) value ∨ value ∈ rest) ↔
      ∃ run ∈ runsFrom first last rest, InRun run value := by
  induction rest generalizing first last with
  | nil => simp [runsFrom]
  | cons next rest ih =>
      have above : last < next := List.rel_of_pairwise_cons sorted List.mem_cons_self
      unfold runsFrom
      split
      · next successor =>
          rw [← ih (by omega) sorted.of_cons, List.mem_cons, ← or_assoc]
          refine or_congr_left ?_
          unfold InRun
          dsimp only
          omega
      · rw [List.exists_mem_cons_iff, ← ih le_rfl sorted.of_cons, List.mem_cons]
        refine or_congr_right (or_congr_left ?_)
        unfold InRun
        dsimp only
        omega

theorem maximalRuns_runs (sorted : values.Pairwise (· < ·)) :
    MaximalRuns (· ∈ values) (runs values) := by
  cases values with
  | nil => exact ⟨nofun, .nil, fun value => by simp [runs]⟩
  | cons first rest =>
      refine ⟨fun run member => (le_of_mem_runsFrom le_rfl sorted run member).2,
        runsFrom_gaps le_rfl sorted, fun value => ?_⟩
      rw [runs, ← mem_runsFrom le_rfl sorted, List.mem_cons]
      refine or_congr_left ?_
      unfold InRun
      dsimp only
      omega

end Runs

end CSwitch.Library
