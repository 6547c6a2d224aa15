import CSwitch.Library.ChainSearch

/-! Walks along a chain of successors that accept or reject the nodes they meet
and give up after a number of nodes. -/

set_option autoImplicit false

namespace CSwitch.Library

variable {α : Type}

/-- Whether the walk accepts one of the next `left` nodes before it rejects one. -/
def boundedWalk (next : α → Option α) (accepts rejects : α → Bool) : Nat → Option α → Bool
  | 0, _ => false
  | _ + 1, none => false
  | left + 1, some value =>
      if accepts value then true
      else if rejects value then false
      else boundedWalk next accepts rejects left (next value)

/-- The walk as a loop with a depth of its own: what the rest of the loop returns
from a node and a depth. The depth is tested after the node was left. -/
inductive WalkReturns (next : α → Option α) (accepts rejects : α → Bool) (bound : Nat) :
    Option α → Nat → Bool → Prop where
  | ended {depth} : WalkReturns next accepts rejects bound none depth false
  | accepted {value depth} :
      accepts value = true → WalkReturns next accepts rejects bound (some value) depth true
  | rejected {value depth} :
      accepts value = false → rejects value = true →
      WalkReturns next accepts rejects bound (some value) depth false
  | stopped {value depth} :
      accepts value = false → rejects value = false → bound ≤ depth + 1 →
      WalkReturns next accepts rejects bound (some value) depth false
  | further {value depth result} :
      accepts value = false → rejects value = false → depth + 1 < bound →
      WalkReturns next accepts rejects bound (next value) (depth + 1) result →
      WalkReturns next accepts rejects bound (some value) depth result

variable {next : α → Option α} {accepts rejects : α → Bool} {bound left : Nat}
  {current : Option α} {start : α}

theorem boundedWalk_none : boundedWalk next accepts rejects left none = false := by
  cases left with
  | zero => rfl
  | succ left => rfl

theorem boundedWalk_accepted (accepted : accepts start = true) :
    boundedWalk next accepts rejects (left + 1) (some start) = true :=
  if_pos accepted

theorem boundedWalk_rejected (passed : accepts start = false) (rejected : rejects start = true) :
    boundedWalk next accepts rejects (left + 1) (some start) = false := by
  rw [boundedWalk, if_neg (by simp [passed]), if_pos rejected]

theorem boundedWalk_further (passed : accepts start = false) (kept : rejects start = false) :
    boundedWalk next accepts rejects (left + 1) (some start) =
      boundedWalk next accepts rejects left (next start) := by
  rw [boundedWalk, if_neg (by simp [passed]), if_neg (by simp [kept])]

/-! ## The loop -/

/-- The loop returns from every node, whatever the chain does: each pass adds to
the depth. -/
theorem boundedWalk_returns {depth : Nat} (within : depth + left = bound) (more : 0 < left) :
    WalkReturns next accepts rejects bound current depth
      (boundedWalk next accepts rejects left current) := by
  induction left generalizing current depth with
  | zero => cases more
  | succ left ih =>
      cases current with
      | none =>
          rw [boundedWalk_none]
          exact .ended
      | some value =>
          cases passed : accepts value with
          | true =>
              rw [boundedWalk_accepted passed]
              exact .accepted passed
          | false =>
              cases kept : rejects value with
              | true =>
                  rw [boundedWalk_rejected passed kept]
                  exact .rejected passed kept
              | false =>
                  rw [boundedWalk_further passed kept]
                  cases left with
                  | zero => exact .stopped passed kept within.ge
                  | succ left =>
                      apply WalkReturns.further passed kept (by omega)
                      exact ih (by omega) (Nat.succ_pos left)

theorem WalkReturns.unique {depth : Nat} {first second : Bool}
    (one : WalkReturns next accepts rejects bound current depth first)
    (other : WalkReturns next accepts rejects bound current depth second) : first = second := by
  induction one with
  | ended => cases other with | ended => rfl
  | accepted => cases other <;> simp_all
  | rejected => cases other <;> simp_all
  | stopped passed kept reached =>
      cases other with
      | accepted accepted => exact absurd (accepted.symm.trans passed) (by decide)
      | rejected => rfl
      | stopped => rfl
      | further _ _ more => omega
  | further passed kept more _ ih =>
      cases other with
      | accepted accepted => exact absurd (accepted.symm.trans passed) (by decide)
      | rejected _ rejected => exact absurd (rejected.symm.trans kept) (by decide)
      | stopped _ _ reached => omega
      | further _ _ _ rest => exact ih rest

theorem walkReturns_iff {depth : Nat} {result : Bool} (within : depth + left = bound)
    (more : 0 < left) :
    WalkReturns next accepts rejects bound current depth result ↔
      result = boundedWalk next accepts rejects left current := by
  constructor
  · exact fun returned => returned.unique (boundedWalk_returns within more)
  · intro equal
    rw [equal]
    exact boundedWalk_returns within more

/-! ## What the walk finds -/

/-- The chain reaches an accepted node in so many steps, over nodes that are not
rejected. -/
structure AcceptsAfter (next : α → Option α) (accepts rejects : α → Bool) (steps : Nat)
    (start : α) : Prop where
  hit : ∃ node, ascend next steps start = some node ∧ accepts node = true
  before : ∀ earlier < steps, ∀ other, ascend next earlier start = some other →
    rejects other = false

theorem acceptsAfter_zero :
    AcceptsAfter next accepts rejects 0 start ↔ accepts start = true := by
  constructor
  · intro accepted
    obtain ⟨node, reached, hit⟩ := accepted.hit
    rwa [← Option.some.inj reached] at hit
  · exact fun hit => ⟨⟨start, rfl, hit⟩, fun _ less => absurd less (Nat.not_lt_zero _)⟩

theorem acceptsAfter_succ {steps : Nat} :
    AcceptsAfter next accepts rejects (steps + 1) start ↔
      rejects start = false ∧
        ∃ above, next start = some above ∧ AcceptsAfter next accepts rejects steps above := by
  constructor
  · intro accepted
    obtain ⟨node, reached, hit⟩ := accepted.hit
    cases climbed : next start with
    | none =>
        rw [ascend, climbed] at reached
        cases reached
    | some above =>
        rw [ascend_succ climbed] at reached
        refine ⟨accepted.before 0 (Nat.succ_pos steps) start rfl, above, rfl, ⟨node, reached, hit⟩, ?_⟩
        intro earlier less other met
        apply accepted.before (earlier + 1) (Nat.succ_lt_succ less)
        rw [ascend_succ climbed, met]
  · intro found
    obtain ⟨kept, above, climbed, accepted⟩ := found
    constructor
    · rw [ascend_succ climbed]
      exact accepted.hit
    · intro earlier less other met
      cases earlier with
      | zero => rwa [← Option.some.inj met]
      | succ earlier =>
          rw [ascend_succ climbed] at met
          exact accepted.before earlier (Nat.lt_of_succ_lt_succ less) other met

theorem boundedWalk_iff :
    boundedWalk next accepts rejects left (some start) = true ↔
      ∃ steps < left, AcceptsAfter next accepts rejects steps start := by
  induction left generalizing start with
  | zero => simp [boundedWalk]
  | succ left ih =>
      rw [Nat.exists_lt_succ_left, acceptsAfter_zero]
      simp only [acceptsAfter_succ]
      cases passed : accepts start with
      | true => simp [boundedWalk_accepted passed]
      | false =>
          -- an accepted node is further along the chain than the start
          cases kept : rejects start with
          | true => simp [boundedWalk_rejected passed kept]
          | false =>
              rw [boundedWalk_further passed kept]
              cases climbed : next start with
              | none => simp [boundedWalk_none]
              | some above => simp [ih]

theorem AcceptsAfter.mono {accepts' rejects' : α → Bool} {steps : Nat}
    (wider : ∀ node, accepts node = true → accepts' node = true)
    (milder : ∀ node, rejects node = false → rejects' node = false)
    (accepted : AcceptsAfter next accepts rejects steps start) :
    AcceptsAfter next accepts' rejects' steps start := by
  obtain ⟨node, reached, hit⟩ := accepted.hit
  refine ⟨⟨node, reached, wider node hit⟩, ?_⟩
  intro earlier less other met
  exact milder other (accepted.before earlier less other met)

/-- A walk that accepts more and rejects less accepts wherever the other does. -/
theorem boundedWalk_mono {accepts' rejects' : α → Bool}
    (wider : ∀ node, accepts node = true → accepts' node = true)
    (milder : ∀ node, rejects node = false → rejects' node = false)
    (accepted : boundedWalk next accepts rejects left (some start) = true) :
    boundedWalk next accepts' rejects' left (some start) = true := by
  obtain ⟨steps, less, after⟩ := boundedWalk_iff.mp accepted
  exact boundedWalk_iff.mpr ⟨steps, less, after.mono wider milder⟩

end CSwitch.Library
