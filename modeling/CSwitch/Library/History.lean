import CSwitch.Library.WorkRound

/-! What a run did: the events that its steps produced, in order, and the
balance between them and what the state holds. -/

set_option autoImplicit false

namespace CSwitch.Library

variable {α σ β γ : Type}

section Events

variable (observe : α → σ → List β) (body : α → σ → σ) (input : Nat → α) (start : σ)

/-- The events of the first steps of a run. -/
def history (count : Nat) : List β :=
  (List.range count).flatMap fun index => observe (input index) (iterate body input start index)

@[simp] theorem history_zero : history observe body input start 0 = [] := rfl

theorem history_succ (count : Nat) :
    history observe body input start (count + 1) = history observe body input start count ++
      observe (input count) (iterate body input start count) := by
  simp [history, List.range_succ]

theorem history_eq_nil {count : Nat} :
    history observe body input start count = [] ↔
      ∀ index < count, observe (input index) (iterate body input start index) = [] := by
  simp [history, List.flatMap_eq_nil_iff]

theorem history_flatMap (parts : β → List γ) (count : Nat) :
    (history observe body input start count).flatMap parts =
      history (fun value state => (observe value state).flatMap parts) body input start count := by
  simp [history, List.flatMap_assoc]

theorem history_append (other : α → σ → List β) (count : Nat) :
    (history (fun value state => observe value state ++ other value state) body input start count :
      Multiset β) =
      history observe body input start count + history other body input start count := by
  induction count with
  | zero => simp
  | succ count ih =>
      simp only [history_succ, ← Multiset.coe_add, ih]
      exact add_add_add_comm _ _ _ _

end Events

section Balance

variable {body : α → σ → σ} (held : σ → Multiset β) (inflow outflow : α → σ → List β)

/-- Conservation over a run: if every step balances what it takes in and gives
out against what the state holds, so does the whole run. -/
theorem history_balance
    (balanced : ∀ value state, held (body value state) + outflow value state =
      held state + inflow value state) (input : Nat → α) (start : σ) (count : Nat) :
    held (iterate body input start count) + history outflow body input start count =
      held start + history inflow body input start count := by
  induction count with
  | zero => simp [iterate]
  | succ count ih =>
      have step := balanced (input count) (iterate body input start count)
      rw [history_succ, history_succ, ← Multiset.coe_add, ← Multiset.coe_add, iterate]
      calc
        _ = held (body (input count) (iterate body input start count)) +
            outflow (input count) (iterate body input start count) +
            history outflow body input start count := by
          rw [← add_assoc, add_right_comm]
        _ = held (iterate body input start count) + history outflow body input start count +
            inflow (input count) (iterate body input start count) := by rw [step, add_right_comm]
        _ = _ := by rw [ih, add_assoc]

end Balance

end CSwitch.Library
