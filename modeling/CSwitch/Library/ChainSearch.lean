import Mathlib

/-! Searches along a chain of successors for the first node that answers. -/

set_option autoImplicit false

namespace CSwitch.Library

variable {α β : Type}

/-- The node some steps further along the chain, while the chain lasts. -/
def ascend (next : α → Option α) : Nat → α → Option α
  | 0, node => some node
  | steps + 1, node => (next node).bind (ascend next steps)

/-- The first node that answers is some steps along the chain. -/
structure FirstHit (next : α → Option α) (answer : α → Option β) (steps : Nat) (start : α)
    (value : β) : Prop where
  hit : ∃ node, ascend next steps start = some node ∧ answer node = some value
  before : ∀ earlier < steps, ∀ node, ascend next earlier start = some node → answer node = none

variable {next : α → Option α} {answer : α → Option β} {steps : Nat} {start : α} {value : β}

theorem ascend_add (first second : Nat) (node : α) :
    ascend next (first + second) node = (ascend next first node).bind (ascend next second) := by
  induction first generalizing node with
  | zero => rw [Nat.zero_add, ascend, Option.bind_some]
  | succ first ih =>
      rw [Nat.succ_add, ascend, ascend, Option.bind_assoc]
      exact Option.bind_congr fun above _ => ih above

theorem ascend_succ {successor : α} (climbed : next start = some successor) :
    ascend next (steps + 1) start = ascend next steps successor := by
  rw [ascend, climbed, Option.bind_some]

/-- A chain that has ended does not go on. -/
theorem ascend_isSome_of_le {further : Nat} (less : steps ≤ further)
    (reached : (ascend next further start).isSome) : (ascend next steps start).isSome := by
  obtain ⟨rest, rfl⟩ := Nat.exists_eq_add_of_le less
  rw [ascend_add] at reached
  cases middle : ascend next steps start with
  | none =>
      rw [middle] at reached
      cases reached
  | some node => rfl

theorem FirstHit.zero (found : answer start = some value) :
    FirstHit next answer 0 start value where
  hit := ⟨start, rfl, found⟩
  before _ less := absurd less (Nat.not_lt_zero _)

theorem FirstHit.unique {other : Nat} {found : β} (left : FirstHit next answer steps start value)
    (right : FirstHit next answer other start found) : steps = other ∧ value = found := by
  obtain ⟨node, reached, hit⟩ := left.hit
  obtain ⟨node', reached', hit'⟩ := right.hit
  rcases lt_trichotomy steps other with less | rfl | greater
  · rw [right.before steps less node reached] at hit
    cases hit
  · obtain rfl := Option.some.inj (reached.symm.trans reached')
    exact ⟨rfl, Option.some.inj (hit.symm.trans hit')⟩
  · rw [left.before other greater node' reached'] at hit'
    cases hit'

/-- A node that answers has a first one at or below it. -/
theorem exists_firstHit {node : α} (reached : ascend next steps start = some node)
    (answered : answer node ≠ none) :
    ∃ earlier ≤ steps, ∃ found, FirstHit next answer earlier start found := by
  induction steps using Nat.strong_induction_on generalizing node with
  | h steps ih =>
      by_cases silent : ∀ earlier < steps, ∀ other, ascend next earlier start = some other →
          answer other = none
      · obtain ⟨found, hit⟩ := Option.ne_none_iff_exists'.mp answered
        exact ⟨steps, le_rfl, found, ⟨node, reached, hit⟩, silent⟩
      · push Not at silent
        obtain ⟨earlier, less, other, climbed, speaks⟩ := silent
        obtain ⟨first, within, found, hit⟩ := ih earlier less climbed speaks
        exact ⟨first, within.trans less.le, found, hit⟩

/-- Nodes without an answer below the start of a search only make it longer. -/
theorem FirstHit.extend {below : Nat} {node : α} (reached : ascend next below node = some start)
    (silent : ∀ earlier < below, ∀ other, ascend next earlier node = some other →
      answer other = none)
    (found : FirstHit next answer steps start value) :
    FirstHit next answer (below + steps) node value := by
  have split : ∀ count, ascend next (below + count) node = ascend next count start := by
    intro count
    rw [ascend_add, reached, Option.bind_some]
  constructor
  · rw [split]
    exact found.hit
  · intro earlier less other climbed
    rcases Nat.lt_or_ge earlier below with inside | beyond
    · exact silent earlier inside other climbed
    · obtain ⟨count, rfl⟩ := Nat.exists_eq_add_of_le beyond
      rw [split] at climbed
      exact found.before count (by omega) other climbed

/-- The search from a node that was passed finds the same. -/
theorem FirstHit.drop {passed : Nat} {node : α} (found : FirstHit next answer steps start value)
    (within : passed ≤ steps) (reached : ascend next passed start = some node) :
    FirstHit next answer (steps - passed) node value := by
  have split : ∀ count, ascend next count node = ascend next (passed + count) start := by
    intro count
    rw [ascend_add, reached, Option.bind_some]
  constructor
  · rw [split, Nat.add_sub_cancel' within]
    exact found.hit
  · intro earlier less other climbed
    rw [split] at climbed
    exact found.before (passed + earlier) (by omega) other climbed

/-! ## One step -/

theorem FirstHit.of_zero (found : FirstHit next answer 0 start value) : answer start = some value := by
  obtain ⟨node, reached, answered⟩ := found.hit
  obtain rfl := Option.some.inj reached
  exact answered

/-- A search that goes on has a node to go on to. -/
theorem FirstHit.climbs (found : FirstHit next answer (steps + 1) start value) :
    next start ≠ none := by
  obtain ⟨node, reached, _⟩ := found.hit
  intro ended
  rw [ascend, ended] at reached
  cases reached

theorem ascend_one {successor : α} (climbed : next start = some successor) :
    ascend next 1 start = some successor := by
  rw [ascend_succ climbed, ascend]

theorem FirstHit.succ {successor : α} (climbed : next start = some successor)
    (silent : answer start = none) (found : FirstHit next answer steps successor value) :
    FirstHit next answer (steps + 1) start value := by
  rw [Nat.add_comm]
  apply found.extend (ascend_one climbed)
  intro earlier less other reached
  obtain rfl := Nat.lt_one_iff.mp less
  obtain rfl := Option.some.inj reached
  exact silent

theorem FirstHit.tail {successor : α} (climbed : next start = some successor)
    (found : FirstHit next answer (steps + 1) start value) :
    FirstHit next answer steps successor value :=
  found.drop (Nat.succ_pos steps) (ascend_one climbed)

end CSwitch.Library
