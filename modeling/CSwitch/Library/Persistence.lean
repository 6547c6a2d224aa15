import Mathlib

/-! A counter that a change has to persist for. Evidence for the change counts, evidence
against it starts over, and in between the counter falls back to one less than what is
asked for. With such a counter, what is asked for is reached exactly when that much
evidence has come since the last one against. -/

set_option autoImplicit false

namespace CSwitch.Library

inductive Evidence where
  | towards
  | against
  | neither
  deriving DecidableEq

def Evidence.isAgainst : Evidence → Bool
  | against => true
  | _ => false

/-- How much evidence has come since the last one against. -/
def evidenceSince (history : List Evidence) : Nat :=
  (history.rtakeWhile fun evidence => !evidence.isAgainst).count .towards

/-- A counter that does not exceed a limit. -/
def countEvidence (limit persist count : Nat) : Evidence → Nat
  | .towards => min (count + 1) limit
  | .against => 0
  | .neither => min count (persist - 1)

section Since

variable (history : List Evidence)

@[simp] theorem evidenceSince_nil : evidenceSince [] = 0 := rfl

@[simp] theorem evidenceSince_towards :
    evidenceSince (history ++ [.towards]) = evidenceSince history + 1 := by
  unfold evidenceSince
  rw [List.rtakeWhile_concat_pos _ _ _ rfl, List.count_append, List.count_singleton_self]

@[simp] theorem evidenceSince_against : evidenceSince (history ++ [.against]) = 0 := by
  unfold evidenceSince
  rw [List.rtakeWhile_concat_neg _ _ _ Bool.false_ne_true, List.count_nil]

@[simp] theorem evidenceSince_neither :
    evidenceSince (history ++ [.neither]) = evidenceSince history := by
  unfold evidenceSince
  rw [List.rtakeWhile_concat_pos _ _ _ rfl, List.count_append]
  rfl

end Since

/-- The counter is behind the evidence only above what is asked for. -/
structure CountsSince (persist count : Nat) (history : List Evidence) : Prop where
  lower : min (evidenceSince history) (persist - 1) ≤ count
  upper : count ≤ evidenceSince history

theorem countsSince_nil (persist : Nat) : CountsSince persist 0 [] where
  lower := Nat.min_le_left _ _
  upper := Nat.le_refl 0

section Counts

variable {limit persist count : Nat} {history : List Evidence}

theorem CountsSince.step (counts : CountsSince persist count history) (within : persist ≤ limit)
    (evidence : Evidence) :
    CountsSince persist (countEvidence limit persist count evidence) (history ++ [evidence]) := by
  obtain ⟨lower, upper⟩ := counts
  cases evidence with
  | towards =>
      constructor
      · rw [evidenceSince_towards, countEvidence]
        omega
      · rw [evidenceSince_towards, countEvidence]
        omega
  | against =>
      constructor
      · rw [evidenceSince_against, countEvidence]
        omega
      · exact Nat.zero_le _
  | neither =>
      constructor
      · rw [evidenceSince_neither, countEvidence]
        omega
      · rw [evidenceSince_neither, countEvidence]
        omega

/-- What is asked for is reached by the counter when it is reached by the evidence. -/
theorem CountsSince.persist_iff (counts : CountsSince persist count history)
    (asked : 0 < persist) (within : persist ≤ limit) :
    persist ≤ countEvidence limit persist count .towards ↔
      persist ≤ evidenceSince (history ++ [.towards]) := by
  obtain ⟨lower, upper⟩ := counts
  rw [evidenceSince_towards, countEvidence]
  omega

/-- In between, nothing is gained, and nothing is lost of what is still asked for. -/
theorem countEvidence_neither (limit persist count : Nat) :
    countEvidence limit persist count .neither ≤ count ∧
      min (countEvidence limit persist count .neither) (persist - 1) = min count (persist - 1) := by
  have kept : countEvidence limit persist count .neither = min count (persist - 1) := rfl
  omega

end Counts

end CSwitch.Library
